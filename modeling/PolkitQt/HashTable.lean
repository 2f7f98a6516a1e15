/-
**Hash tables as finite maps, and lists indexed by a key.**

A hash table keeps at most one value for each key and says nothing about the order in which its
values are visited.  A common use of one is to index a list by a key computed from its elements,
and to read the values back: elements with the same key are merged into one.  This module has the
table, the order of iteration as a parameter, and the exact condition under which nothing is lost.
Nothing here is about a particular program.

Main definitions:

* `HashTable.Table`, `HashTable.Table.insert`, `HashTable.Table.get?` — the finite map; the last
  value of a key is kept;
* `HashTable.IterationOrder`, `HashTable.Table.values` — the values, in an order of the table's
  choosing, and `HashTable.IterationOrder.listed`, an order chosen for one table;
* `HashTable.index` — the table of a list under a key.

Main results:

* `HashTable.mem_of_mem_index`, `HashTable.exists_mem_index` — what is in the table of a list;
* `HashTable.covers_index_iff` — the values of the table cover the list, up to an equivalence that
  the key respects, exactly when the key separates the classes that occur in the list;
* `HashTable.values_index_perm`, `HashTable.exists_values_index`, `HashTable.values_index_eq_iff` —
  when the key tells the elements apart, the values are any arrangement of the elements without
  their repetitions.
-/

import PolkitQt.KeyedList
import Mathlib.Data.List.Pairwise

set_option relaxedAutoImplicit false
set_option autoImplicit false

namespace HashTable

variable {κ α : Type*}

/-! ### Tables -/

/-- A hash table: entries with pairwise different keys. -/
structure Table (κ α : Type*) where
  entries : List (κ × α)
  nodup : (entries.map Prod.fst).Nodup

namespace Table

def empty : Table κ α := ⟨[], List.nodup_nil⟩

/-- Two entries with the same key are the same entry. -/
theorem eq_of_key_eq (t : Table κ α) {e f : κ × α} (he : e ∈ t.entries) (hf : f ∈ t.entries)
    (h : e.1 = f.1) : e = f :=
  List.inj_on_of_nodup_map t.nodup he hf h

variable [DecidableEq κ]

/-- The value of the key is replaced if there is one. -/
def insert (t : Table κ α) (k : κ) (a : α) : Table κ α where
  entries := t.entries.filter (fun e => e.1 ≠ k) ++ [(k, a)]
  nodup := by
    have hold : ((t.entries.filter fun e => e.1 ≠ k).map Prod.fst).Nodup :=
      t.nodup.sublist (List.filter_sublist.map Prod.fst)
    rw [List.map_append, List.map_singleton, List.nodup_append]
    refine ⟨hold, List.nodup_singleton k, ?_⟩
    intro x hx y hy
    obtain ⟨e, he, rfl⟩ := List.mem_map.1 hx
    obtain rfl := List.mem_singleton.1 hy
    exact of_decide_eq_true (List.mem_filter.1 he).2

theorem mem_insert {t : Table κ α} {k : κ} {a : α} {e : κ × α} :
    e ∈ (t.insert k a).entries ↔ (e ∈ t.entries ∧ e.1 ≠ k) ∨ e = (k, a) := by
  simp [insert]

/-- A new key comes last. -/
theorem entries_insert_of_new {t : Table κ α} {k : κ} (h : ∀ e ∈ t.entries, e.1 ≠ k) (a : α) :
    (t.insert k a).entries = t.entries ++ [(k, a)] := by
  have hkeep : (t.entries.filter fun e => e.1 ≠ k) = t.entries :=
    List.filter_eq_self.2 fun e he => decide_eq_true (h e he)
  exact congrArg (· ++ [(k, a)]) hkeep

/-- So it is with any number of new keys that are distinct. -/
theorem entries_foldl_insert (l : List (κ × α)) (t : Table κ α)
    (h : ((t.entries ++ l).map Prod.fst).Nodup) :
    (l.foldl (fun t e => t.insert e.1 e.2) t).entries = t.entries ++ l := by
  induction l generalizing t with
  | nil => simp
  | cons e l ih =>
      have hnew : ∀ e' ∈ t.entries, e'.1 ≠ e.1 := by
        intro e' he' heq
        rw [List.map_append, List.nodup_append] at h
        exact h.2.2 e'.1 (List.mem_map_of_mem he') e.1 (by simp) heq
      have hinsert := entries_insert_of_new hnew e.2
      have hnodup : (((t.insert e.1 e.2).entries ++ l).map Prod.fst).Nodup := by
        rw [hinsert, List.append_assoc]
        exact h
      rw [List.foldl_cons, ih _ hnodup, hinsert, List.append_assoc]
      rfl

/-- The value of the key. -/
def get? (t : Table κ α) (k : κ) : Option α := (t.entries.find? fun e => e.1 = k).map Prod.snd

theorem get?_eq_some_iff {t : Table κ α} {k : κ} {a : α} :
    t.get? k = some a ↔ (k, a) ∈ t.entries := by
  have hget : t.get? k = some a ↔ ∃ e, KeyedList.lookup Prod.fst t.entries k = some e ∧ e.2 = a :=
    Option.map_eq_some_iff
  rw [hget]
  constructor
  · rintro ⟨e, hfind, rfl⟩
    obtain ⟨hmem, rfl⟩ := KeyedList.mem_of_lookup hfind
    exact hmem
  · intro hmem
    exact ⟨(k, a), (KeyedList.lookup_eq_some_iff t.nodup).2 ⟨hmem, rfl⟩, rfl⟩

end Table

/-- The order in which a table visits its entries. -/
structure IterationOrder (κ α : Type*) where
  order : List (κ × α) → List (κ × α)
  perm : ∀ l, (order l).Perm l

/-- The order of insertion. -/
def IterationOrder.asInserted : IterationOrder κ α := ⟨fun l => l, fun _ => List.Perm.refl _⟩

/-- The values of the table, in the order of iteration. -/
def Table.values (it : IterationOrder κ α) (t : Table κ α) : List α :=
  (it.order t.entries).map Prod.snd

theorem Table.mem_values {it : IterationOrder κ α} {t : Table κ α} {a : α} :
    a ∈ t.values it ↔ ∃ k, (k, a) ∈ t.entries := by
  unfold Table.values
  rw [List.mem_map]
  constructor
  · rintro ⟨⟨k, b⟩, hmem, rfl⟩
    exact ⟨k, (it.perm _).mem_iff.1 hmem⟩
  · rintro ⟨k, hmem⟩
    exact ⟨(k, a), (it.perm _).mem_iff.2 hmem, rfl⟩

/-! ### Indexing a list -/

section Index

variable [DecidableEq κ] (key : α → κ)

/-- Adds the elements of the list one by one, each under its key. -/
def indexFrom (t : Table κ α) (l : List α) : Table κ α :=
  l.foldl (fun t a => t.insert (key a) a) t

/-- The table of the list. -/
def index (l : List α) : Table κ α := indexFrom key .empty l

variable {key}

theorem mem_of_mem_indexFrom {t : Table κ α} {l : List α} {k : κ} {a : α}
    (h : (k, a) ∈ (indexFrom key t l).entries) : (k, a) ∈ t.entries ∨ (a ∈ l ∧ key a = k) := by
  induction l generalizing t with
  | nil => exact Or.inl h
  | cons b l ih =>
      rcases ih h with h | ⟨hmem, hkey⟩
      · rcases Table.mem_insert.1 h with ⟨h, -⟩ | h
        · exact Or.inl h
        · obtain ⟨rfl, rfl⟩ := Prod.mk.inj h
          exact Or.inr ⟨List.mem_cons_self .., rfl⟩
      · exact Or.inr ⟨List.mem_cons_of_mem _ hmem, hkey⟩

/-- A key that has a value keeps one. -/
theorem exists_mem_indexFrom {t : Table κ α} {l : List α} {k : κ} (h : ∃ a, (k, a) ∈ t.entries) :
    ∃ a, (k, a) ∈ (indexFrom key t l).entries := by
  induction l generalizing t with
  | nil => exact h
  | cons b l ih =>
      refine ih ?_
      obtain ⟨a, ha⟩ := h
      by_cases hk : k = key b
      · exact ⟨b, Table.mem_insert.2 (Or.inr (by rw [hk]))⟩
      · exact ⟨a, Table.mem_insert.2 (Or.inl ⟨ha, hk⟩)⟩

/-- The entries of the table are elements of the list under their keys. -/
theorem mem_of_mem_index {l : List α} {k : κ} {a : α} (h : (k, a) ∈ (index key l).entries) :
    a ∈ l ∧ key a = k := by
  rcases mem_of_mem_indexFrom h with h | h
  · exact absurd h List.not_mem_nil
  · exact h

/-- The key of every element of the list has an entry. -/
theorem exists_mem_index (key : α → κ) {l : List α} {a : α} (h : a ∈ l) :
    ∃ b, (key a, b) ∈ (index key l).entries := by
  unfold index
  obtain ⟨l₁, l₂, rfl⟩ := List.append_of_mem h
  rw [indexFrom, List.foldl_append, List.foldl_cons]
  exact exists_mem_indexFrom ⟨a, Table.mem_insert.2 (Or.inr rfl)⟩

theorem mem_of_mem_values_index {it : IterationOrder κ α} {l : List α} {a : α}
    (h : a ∈ (index key l).values it) : a ∈ l := by
  obtain ⟨k, hmem⟩ := Table.mem_values.1 h
  exact (mem_of_mem_index hmem).1

/-- The values of the table have pairwise different keys. -/
theorem pairwise_values_index (key : α → κ) (it : IterationOrder κ α) (l : List α) :
    ((index key l).values it).Pairwise fun a b => key a ≠ key b := by
  have hentries : ((it.order (index key l).entries).map Prod.fst).Nodup :=
    ((it.perm _).map Prod.fst).nodup_iff.2 (index key l).nodup
  rw [Table.values, List.pairwise_map]
  rw [List.Nodup, List.pairwise_map] at hentries
  refine hentries.imp_of_mem ?_
  intro e f he hf hne
  have hkey : ∀ g ∈ it.order (index key l).entries, key g.2 = g.1 := fun g hg =>
    (mem_of_mem_index ((it.perm _).mem_iff.1 hg)).2
  rw [hkey e he, hkey f hf]
  exact hne

/-- **Nothing is lost exactly when the key separates.**  Let `r` be an equivalence that the key
respects.  Every element of the list has an equivalent among the values of the table if and only
if elements of the list with the same key are equivalent. -/
theorem covers_index_iff {r : α → α → Prop} (hr : Equivalence r)
    (hkey : ∀ a b, r a b → key a = key b) (it : IterationOrder κ α) (l : List α) :
    (∀ a ∈ l, ∃ b ∈ (index key l).values it, r a b) ↔
      ∀ a ∈ l, ∀ b ∈ l, key a = key b → r a b := by
  constructor
  · intro h a ha b hb hab
    obtain ⟨a', ha', hra⟩ := h a ha
    obtain ⟨b', hb', hrb⟩ := h b hb
    obtain ⟨k, hk⟩ := Table.mem_values.1 ha'
    obtain ⟨j, hj⟩ := Table.mem_values.1 hb'
    -- both representatives sit under the common key, so they are one
    have hk' : k = key a := by rw [← (mem_of_mem_index hk).2, hkey a a' hra]
    have hj' : j = key a := by rw [← (mem_of_mem_index hj).2, ← hkey b b' hrb, hab]
    have heq := (index key l).eq_of_key_eq hk hj (hk'.trans hj'.symm)
    obtain ⟨-, rfl⟩ := Prod.mk.inj heq
    exact hr.trans hra (hr.symm hrb)
  · intro h a ha
    obtain ⟨b, hb⟩ := exists_mem_index key ha
    obtain ⟨hbl, hbk⟩ := mem_of_mem_index hb
    exact ⟨b, Table.mem_values.2 ⟨key a, hb⟩, h a ha b hbl hbk.symm⟩

end Index

/-! ### A key that tells the elements apart

The values are then the elements of the list, each once, and the order says the rest. -/

theorem nodup_eraseDups [DecidableEq α] (l : List α) : l.eraseDups.Nodup := by
  induction hlength : l.length using Nat.strongRecOn generalizing l with
  | ind n ih =>
      cases l with
      | nil => exact List.nodup_nil
      | cons a l =>
          have hshorter : (l.filter fun b => !b == a).length < n := by
            have hle := List.length_filter_le (fun b => !b == a) l
            rw [List.length_cons] at hlength
            omega
          rw [List.eraseDups_cons, List.nodup_cons]
          refine ⟨?_, ih _ hshorter _ rfl⟩
          rw [List.mem_eraseDups]
          simp

/-- An order that visits the entries of one table as listed. -/
def IterationOrder.listed [DecidableEq κ] [DecidableEq α] {entries l : List (κ × α)}
    (h : l.Perm entries) : IterationOrder κ α where
  order e := if e = entries then l else e
  perm e := by
    by_cases heq : e = entries
    · rw [if_pos heq, heq]
      exact h
    · rw [if_neg heq]

section Separated

variable [DecidableEq κ] [DecidableEq α] {key : α → κ} {l : List α}

theorem values_index_perm (hkey : ∀ a ∈ l, ∀ b ∈ l, key a = key b → a = b)
    (it : IterationOrder κ α) : ((index key l).values it).Perm l.eraseDups := by
  have hnodup : ((index key l).values it).Nodup :=
    (pairwise_values_index key it l).imp fun hne heq => hne (congrArg key heq)
  have hcovers := (covers_index_iff eq_equivalence (fun _ _ => congrArg key) it l).2 hkey
  refine (List.perm_ext_iff_of_nodup hnodup (nodup_eraseDups l)).2 fun a => ?_
  rw [List.mem_eraseDups]
  constructor
  · exact mem_of_mem_values_index
  · intro ha
    obtain ⟨b, hb, rfl⟩ := hcovers a ha
    exact hb

/-- Every arrangement occurs. -/
theorem exists_values_index (hkey : ∀ a ∈ l, ∀ b ∈ l, key a = key b → a = b) {output : List α}
    (h : output.Perm l.eraseDups) :
    ∃ it : IterationOrder κ α, (index key l).values it = output := by
  have hvalues := values_index_perm hkey .asInserted
  -- every entry is a value under its key
  have hentries : (((index key l).values .asInserted).map fun a => (key a, a)) =
      (index key l).entries := by
    have hpair : ∀ e ∈ (index key l).entries, (key e.2, e.2) = e := fun e he =>
      Prod.ext (mem_of_mem_index he).2 rfl
    rw [Table.values, List.map_map]
    exact (List.map_congr_left hpair).trans (List.map_id _)
  have hlisted : (output.map fun a => (key a, a)).Perm (index key l).entries := by
    rw [← hentries]
    exact (h.trans hvalues.symm).map _
  refine ⟨.listed hlisted, ?_⟩
  have horder : (IterationOrder.listed hlisted).order (index key l).entries =
      output.map fun a => (key a, a) := if_pos rfl
  rw [Table.values, horder, List.map_map]
  exact List.map_id _

/-- **The order is all that is open.**  Any two orders give the same values exactly if the list has
no two different elements. -/
theorem values_index_eq_iff (hkey : ∀ a ∈ l, ∀ b ∈ l, key a = key b → a = b) :
    (∀ it it' : IterationOrder κ α, (index key l).values it = (index key l).values it') ↔
      ∀ a ∈ l, ∀ b ∈ l, a = b := by
  constructor
  · intro hsame a ha b hb
    have hfirst : ∀ c ∈ l, ∃ it, (index key l).values it = c :: l.eraseDups.erase c := fun c hc =>
      exists_values_index hkey (List.perm_cons_erase (List.mem_eraseDups.2 hc)).symm
    obtain ⟨it, hit⟩ := hfirst a ha
    obtain ⟨it', hit'⟩ := hfirst b hb
    have heq := hsame it it'
    rw [hit, hit'] at heq
    exact (List.cons.inj heq).1
  · intro hone it it'
    have hperm := values_index_perm hkey it
    have hperm' := values_index_perm hkey it'
    have hnodup := nodup_eraseDups l
    have hmem : ∀ a, a ∈ l.eraseDups → a ∈ l := fun a => List.mem_eraseDups.1
    cases hdups : l.eraseDups with
    | nil =>
        rw [hdups] at hperm hperm'
        rw [hperm.eq_nil, hperm'.eq_nil]
    | cons a rest =>
        cases rest with
        | nil =>
            rw [hdups] at hperm hperm'
            rw [List.perm_singleton.1 hperm, List.perm_singleton.1 hperm']
        | cons b rest =>
            rw [hdups] at hnodup hmem
            obtain rfl := hone a (hmem a (by simp)) b (hmem b (by simp))
            simp at hnodup

end Separated

end HashTable
