/-
**Details: a table of texts that its copies share.**

A `Details` wraps a `PolkitDetails`, a table of byte strings that all copies of the wrapper, and the
caller, refer to.  Keys and values go in as UTF-8 and come out through `QString::fromUtf8`.  Seen
through the wrappers the table is a map from strings to strings: the one it was converted from, with
every insertion made since through any of them.  Only a byte order mark at the start of a text is
lost on the way out.

The order in which polkit lists the keys is not specified, and so it is a parameter.

Main definitions:

* `PolkitQt.Wrappers.Details.lookup`, `PolkitQt.Wrappers.Details.insert`,
  `PolkitQt.Wrappers.Details.keys` — the methods, of a variable;
* `PolkitQt.Wrappers.DetailsEvent`, `PolkitQt.Wrappers.detailsStep` — a program that uses them;
* `PolkitQt.Wrappers.inserted` — what an event inserts into an object;
* `PolkitQt.TextMap`, `PolkitQt.DetailsMap.texts`, `PolkitQt.Encodes` — a map from strings to strings,
  and the table that stands for it.

Main results:

* `PolkitQt.encodes_convertDetailsMap`, `PolkitQt.Encodes.insert` — the table stands for the map;
* `PolkitQt.Wrappers.details_round_trip` — **what the wrappers show is the map, with the insertions
  made so far**.
-/

import PolkitQt.HashTable
import PolkitQt.QStringCodec
import PolkitQt.ObjectContents

set_option relaxedAutoImplicit false
set_option autoImplicit false

namespace PolkitQt

open QString HashTable

/-! ### The table and the map -/

/-- `polkit_details_lookup`. -/
def polkitDetailsLookup (d : PolkitDetails) (key : Bytes) : Option Bytes :=
  (d.find? fun entry => entry.1 = key).map Prod.snd

/-- A map from strings to strings, each known by its code units. -/
abbrev TextMap := Table (List UInt16) (List UInt16)

/-- Its keys and values are plain. -/
def TextMap.Plain (t : TextMap) : Prop :=
  ∀ entry ∈ t.entries, (ofUtf16 entry.1).Plain ∧ (ofUtf16 entry.2).Plain

/-- The map a `DetailsMap` is. -/
def DetailsMap.texts (m : DetailsMap) : TextMap where
  entries := m.entries.map fun entry => (entry.1.utf16, entry.2.utf16)
  nodup := by
    rw [List.map_map]
    exact m.nodup

/-- Insertions, in order. -/
def TextMap.insertAll (t : TextMap) (insertions : List (QString × QString)) : TextMap :=
  insertions.foldl (fun t entry => t.insert entry.1.utf16 entry.2.utf16) t

/-- A text as polkit has it. -/
def wire (units : List UInt16) : Bytes := cString (utf8EncodeUnits units)

/-- The table stands for the map, entry by entry. -/
def Encodes (d : PolkitDetails) (t : TextMap) : Prop :=
  d = t.entries.map fun entry => (wire entry.1, wire entry.2)

theorem wire_injective {u v : List UInt16} (hu : (ofUtf16 u).Plain) (hv : (ofUtf16 v).Plain)
    (h : wire u = wire v) : u = v := toUtf8_injective hu hv h

theorem TextMap.Plain.insert {t : TextMap} (h : t.Plain) {key value : List UInt16}
    (hkey : (ofUtf16 key).Plain) (hvalue : (ofUtf16 value).Plain) :
    TextMap.Plain (t.insert key value) := by
  intro entry hentry
  rcases Table.mem_insert.1 hentry with ⟨hold, -⟩ | rfl
  · exact h entry hold
  · exact ⟨hkey, hvalue⟩

/-- **Inserting into the table inserts into the map.** -/
theorem Encodes.insert {d : PolkitDetails} {t : TextMap} (h : Encodes d t) (ht : t.Plain)
    {key : List UInt16} (hkey : (ofUtf16 key).Plain) (value : List UInt16) :
    Encodes (polkitDetailsInsert d (wire key) (wire value)) (t.insert key value) := by
  have hfilter : ((t.entries.map fun entry => (wire entry.1, wire entry.2)).filter fun entry =>
      entry.1 ≠ wire key) =
        (t.entries.filter fun entry => entry.1 ≠ key).map fun entry =>
          (wire entry.1, wire entry.2) := by
    rw [List.filter_map]
    refine congrArg _ (List.filter_congr fun entry hentry => ?_)
    -- different keys are different on the wire
    have hiff : wire entry.1 = wire key ↔ entry.1 = key :=
      ⟨wire_injective (ht entry hentry).1 hkey, congrArg wire⟩
    simp [hiff]
  rw [Encodes, polkitDetailsInsert, h, hfilter, Table.insert, List.map_append]
  rfl

/-- An entry is found on the wire where it is found in the map. -/
theorem find?_map_wire {l : List (List UInt16 × List UInt16)}
    (hl : ∀ entry ∈ l, (ofUtf16 entry.1).Plain) {key : List UInt16}
    (hkey : (ofUtf16 key).Plain) :
    (l.map fun entry => (wire entry.1, wire entry.2)).find? (fun entry => entry.1 = wire key) =
      (l.find? fun entry => entry.1 = key).map fun entry => (wire entry.1, wire entry.2) := by
  induction l with
  | nil => rfl
  | cons entry l ih =>
      obtain ⟨hentry, hl⟩ := List.forall_mem_cons.1 hl
      rw [List.map_cons, List.find?_cons, List.find?_cons]
      by_cases heq : entry.1 = key
      · simp [heq]
      · have hne : wire entry.1 ≠ wire key := fun hsame =>
          heq (wire_injective hentry hkey hsame)
        simpa [heq, hne] using ih hl

theorem Encodes.lookup {d : PolkitDetails} {t : TextMap} (h : Encodes d t) (ht : t.Plain)
    {key : List UInt16} (hkey : (ofUtf16 key).Plain) :
    polkitDetailsLookup d (wire key) = (t.get? key).map wire := by
  have hfind := find?_map_wire (fun entry hentry => (ht entry hentry).1) hkey
  rw [polkitDetailsLookup, h, Table.get?, hfind, Option.map_map, Option.map_map]
  rfl

/-- Insertions into the table, one after the other, are insertions into the map. -/
theorem Encodes.insertAll {l : List (QString × QString)} {d : PolkitDetails} {t : TextMap}
    (h : Encodes d t) (ht : t.Plain) (hl : ∀ entry ∈ l, entry.1.Plain ∧ entry.2.Plain) :
    Encodes (l.foldl (fun ret entry =>
      polkitDetailsInsert ret (cString entry.1.toUtf8) (cString entry.2.toUtf8)) d)
        (t.insertAll l) := by
  induction l generalizing d t with
  | nil => exact h
  | cons entry l ih =>
      obtain ⟨⟨hkey, hvalue⟩, hl⟩ := List.forall_mem_cons.1 hl
      have hkey' := plain_ofUtf16_iff.2 hkey
      exact ih (h.insert ht hkey' entry.2.utf16) (ht.insert hkey' (plain_ofUtf16_iff.2 hvalue)) hl

/-- All the keys of a map are new, so its entries are those inserted. -/
theorem entries_insertAll_empty (m : DetailsMap) :
    (TextMap.insertAll Table.empty m.entries).entries = m.texts.entries := by
  have hlist := Table.entries_foldl_insert m.texts.entries Table.empty m.texts.nodup
  rw [DetailsMap.texts, List.foldl_map] at hlist
  exact hlist

/-- **A map that is not empty is converted to the table that stands for it.** -/
theorem encodes_convertDetailsMap {m : DetailsMap} (hne : m.entries ≠ []) (hm : m.texts.Plain) :
    ∃ d, convertDetailsMap m = some d ∧ Encodes d m.texts := by
  have hentries : ∀ entry ∈ m.entries, entry.1.Plain ∧ entry.2.Plain := by
    intro entry hentry
    obtain ⟨hkey, hvalue⟩ := hm _ (List.mem_map_of_mem hentry)
    exact ⟨plain_ofUtf16_iff.1 hkey, plain_ofUtf16_iff.1 hvalue⟩
  have hempty : Encodes [] Table.empty := rfl
  have hplain : TextMap.Plain Table.empty := fun entry hentry => absurd hentry List.not_mem_nil
  refine ⟨_, if_neg (by simpa using hne), ?_⟩
  rw [Encodes, ← entries_insertAll_empty]
  exact hempty.insertAll hplain hentries

/-! ### What is seen of a text -/

/-- The text that `lookup` returns for a value: null for none. -/
def seen : Option (List UInt16) → QString
  | none => .null
  | some units => ofUtf16 (dropBom units)

theorem fromUtf8_wire {units : List UInt16} (h : (ofUtf16 units).Plain) :
    fromUtf8 (wire units) = ofUtf16 (dropBom units) := fromUtf8_toUtf8 h

/-! ### The wrappers -/

namespace Wrappers

open RefCount Runs

/-- The object that a variable of the program refers to. -/
def Heap.refers (h : Heap) (i : Nat) : Option ObjectId := (h.wrapper? i).bind (pointer h)

/-- The table an object is. -/
def table? (h : Heap) (o : ObjectId) : Option PolkitDetails :=
  match content? h.objects o with
  | some (.details d) => some d
  | _ => none

/-- The table is `d` from now on. -/
def setTable (h : Heap) (o : ObjectId) (d : PolkitDetails) : Heap :=
  { h with objects := replace h.objects o (.details d) }

/-- `Details::lookup`, of a variable.  A null pointer has no keys. -/
def Details.lookup (h : Heap) (i : Nat) (key : QString) : QString :=
  match ((h.refers i).bind (table? h)).bind (polkitDetailsLookup · (cString key.toUtf8)) with
  | some result => fromUtf8 result
  | none => .null

/-- `Details::insert`, of a variable.  Nothing is inserted into a null pointer. -/
def Details.insert (h : Heap) (i : Nat) (key value : QString) : Heap :=
  match h.refers i with
  | none => h
  | some o =>
      match table? h o with
      | none => h
      | some d =>
          setTable h o (polkitDetailsInsert d (cString key.toUtf8) (cString value.toUtf8))

/-- `Details::keys`, of a variable.  A null pointer has no keys. -/
def Details.keys (polkitDetailsGetKeys : PolkitDetails → List Bytes) (h : Heap) (i : Nat) :
    List QString :=
  match (h.refers i).bind (table? h) with
  | some d => (polkitDetailsGetKeys d).map fromUtf8
  | none => []

/-- What a program does: with the wrappers, and with the tables through them. -/
inductive DetailsEvent
  | wrapper (e : Event)
  | insert (i : Nat) (key value : QString)

def detailsStep (h : Heap) : DetailsEvent → Heap
  | .wrapper e => step h e
  | .insert i key value => Details.insert h i key value

/-- What an event inserts into the object `o`. -/
def inserted (o : ObjectId) (h : Heap) : DetailsEvent → List (QString × QString)
  | .wrapper _ => []
  | .insert i key value => if h.refers i = some o then [(key, value)] else []

/-! ### What an insertion leaves alone -/

/-- An insertion changes no object, or the content of one table. -/
theorem Details.insert_cases (h : Heap) (i : Nat) (key value : QString) :
    (Details.insert h i key value = h ∧ ∀ o, h.refers i = some o → table? h o = none) ∨
      ∃ o d, h.refers i = some o ∧ content? h.objects o = some (.details d) ∧
        Details.insert h i key value =
          setTable h o (polkitDetailsInsert d (cString key.toUtf8) (cString value.toUtf8)) := by
  rw [Details.insert]
  cases hrefers : h.refers i with
  | none => exact Or.inl ⟨rfl, fun o ho => absurd ho (by simp)⟩
  | some o =>
      cases htable : table? h o with
      | none => exact Or.inl ⟨by simp [htable], fun o' ho' => (Option.some.inj ho') ▸ htable⟩
      | some d =>
          refine Or.inr ⟨o, d, rfl, ?_, by simp [htable]⟩
          rw [table?] at htable
          split at htable
          · next d' hcontent => rw [hcontent, Option.some.inj htable]
          · simp at htable

theorem change_setTable (h : Heap) (o : ObjectId) (d : PolkitDetails) :
    Change h (setTable h o d) 0 := by
  refine ⟨fun hcounted => ⟨hcounted.objects.replace _ _, hcounted.authorizations,
    hcounted.blocks, hcounted.authorizationBlocks⟩, fun x => ?_⟩
  cases x with
  | object o' =>
      have hcount := countAt_replace (s := h.objects) o (.details d) o'
      simp only [spare, count, held, setTable, hcount, Pi.zero_apply, Int.add_zero]
  | _ => exact (Int.add_zero _).symm

theorem change_insert (h : Heap) (i : Nat) (key value : QString) :
    Change h (Details.insert h i key value) 0 := by
  rcases Details.insert_cases h i key value with ⟨heq, -⟩ | ⟨o, d, -, -, heq⟩
  · rw [heq]
    exact Change.refl h
  · rw [heq]
    exact change_setTable h o _

theorem sound_detailsStep {h : Heap} (hsound : Sound h) (e : DetailsEvent) :
    Sound (detailsStep h e) := by
  cases e with
  | wrapper e => exact sound_step hsound e
  | insert i key value =>
      have hchange := change_insert h i key value
      refine ⟨hchange.counted hsound.counted, hchange.nonneg hsound.nonneg fun _ =>
        Int.le_refl 0, fun x hx => ?_⟩
      rw [show detailsStep h (.insert i key value) = Details.insert h i key value from rfl,
        hchange.spare, hsound.zero x hx]
      rfl

/-- What holds between any two calls. -/
theorem sound_run_details (es : List DetailsEvent) : Sound (run detailsStep Heap.empty es) :=
  run_inv (I := Sound) (fun _ e hsound => sound_detailsStep hsound e) sound_empty es

/-- A variable refers to objects that are live. -/
theorem exists_content_of_refers {h : Heap} (hsound : Sound h) {i : Nat} {o : ObjectId}
    (hrefers : h.refers i = some o) : ∃ v, content? h.objects o = some v := by
  obtain ⟨b, -, hpointer⟩ := Option.bind_eq_some_iff.1 hrefers
  obtain ⟨data, hdata, hp⟩ := Option.bind_eq_some_iff.1 hpointer
  exact exists_content_object hsound (held_of_pointer hdata hp)

/-! ### The table stands for the map, to the end of its life -/

/-- The object, unless it is freed, is a table that stands for the map. -/
structure Carries (o : ObjectId) (t : TextMap) (h : Heap) : Prop where
  lt_length : o < h.objects.length
  plain : t.Plain
  encodes : cell? h.objects o = none ∨
    ∃ d, content? h.objects o = some (.details d) ∧ Encodes d t

namespace Carries

variable {o : ObjectId} {t : TextMap} {h h' : Heap}

theorem of_keeps (hcarries : Carries o t h) (hkeeps : Keeps h h') : Carries o t h' := by
  refine ⟨Nat.lt_of_lt_of_le hcarries.lt_length hkeeps.length_le, hcarries.plain, ?_⟩
  rcases hkeeps.kept o hcarries.lt_length with hfreed | hsame
  · exact Or.inl hfreed
  · rcases hcarries.encodes with hfreed | ⟨d, hd, hencodes⟩
    · left
      rwa [content?_eq_none_iff.2 hfreed, content?_eq_none_iff] at hsame
    · exact Or.inr ⟨d, hsame.trans hd, hencodes⟩

/-- What a live object carries is a table. -/
theorem exists_table (hcarries : Carries o t h) {v : PolkitObject}
    (hv : content? h.objects o = some v) :
    ∃ d, content? h.objects o = some (.details d) ∧ Encodes d t := by
  rcases hcarries.encodes with hfreed | htable
  · rw [content?_eq_none_iff.2 hfreed] at hv
    simp at hv
  · exact htable

/-- An insertion into the object inserts into the map. -/
theorem insert_self (hcarries : Carries o t h) (hsound : Sound h) {i : Nat} {key value : QString}
    (hrefers : h.refers i = some o) (hkey : key.Plain) (hvalue : value.Plain) :
    Carries o (t.insert key.utf16 value.utf16) (Details.insert h i key value) := by
  have hkey' := plain_ofUtf16_iff.2 hkey
  obtain ⟨v, hv⟩ := exists_content_of_refers hsound hrefers
  obtain ⟨d, hd, hencodes⟩ := hcarries.exists_table hv
  rcases Details.insert_cases h i key value with ⟨-, hnone⟩ | ⟨o', d', ho', hd', heq⟩
  · have htable := hnone o hrefers
    rw [table?, hd] at htable
    simp at htable
  · obtain rfl : o' = o := Option.some.inj (ho'.symm.trans hrefers)
    obtain rfl : d' = d := by simpa [hd] using hd'.symm
    rw [heq]
    refine ⟨?_, hcarries.plain.insert hkey' (plain_ofUtf16_iff.2 hvalue),
      Or.inr ⟨_, content?_replace_self hd _, ?_⟩⟩
    · rw [setTable, length_replace]
      exact hcarries.lt_length
    · exact hencodes.insert hcarries.plain hkey' value.utf16

/-- An insertion into another object does not concern this one. -/
theorem insert_other (hcarries : Carries o t h) {i : Nat} (hrefers : h.refers i ≠ some o)
    (key value : QString) : Carries o t (Details.insert h i key value) := by
  rcases Details.insert_cases h i key value with ⟨heq, -⟩ | ⟨o', d', ho', -, heq⟩
  · rw [heq]
    exact hcarries
  · have hne : o ≠ o' := fun hsame => hrefers (hsame ▸ ho')
    rw [heq]
    refine ⟨?_, hcarries.plain, ?_⟩
    · rw [setTable, length_replace]
      exact hcarries.lt_length
    · simp only [setTable, content?, cell?_replace_of_ne hne]
      exact hcarries.encodes

/-- **An event that inserts plain texts inserts the same into the map.** -/
theorem detailsStep (hcarries : Carries o t h) (hsound : Sound h) {e : DetailsEvent}
    (hplain : ∀ entry ∈ inserted o h e, entry.1.Plain ∧ entry.2.Plain) :
    Carries o (t.insertAll (inserted o h e)) (Wrappers.detailsStep h e) := by
  cases e with
  | wrapper e => exact hcarries.of_keeps (persists_step h e)
  | insert i key value =>
      by_cases hrefers : h.refers i = some o
      · rw [inserted, if_pos hrefers] at hplain ⊢
        obtain ⟨hkey, hvalue⟩ := hplain (key, value) (List.mem_singleton.2 rfl)
        exact hcarries.insert_self hsound hrefers hkey hvalue
      · rw [inserted, if_neg hrefers]
        exact hcarries.insert_other hrefers key value

end Carries

/-- Along a run, with all that is inserted into the object meanwhile. -/
theorem carries_run {o : ObjectId} {t : TextMap} {h : Heap} (hsound : Sound h)
    (hcarries : Carries o t h) (es : List DetailsEvent)
    (hplain : ∀ entry ∈ trace detailsStep (inserted o) h es, entry.1.Plain ∧ entry.2.Plain) :
    Carries o (t.insertAll (trace detailsStep (inserted o) h es)) (run detailsStep h es) := by
  have hrun : Sound (run detailsStep h es) ∧
      ((∀ entry ∈ trace detailsStep (inserted o) h es, entry.1.Plain ∧ entry.2.Plain) →
        Carries o (t.insertAll (trace detailsStep (inserted o) h es)) (run detailsStep h es)) := by
    refine trace_induction (P := fun h' entries => Sound h' ∧
      ((∀ entry ∈ entries, entry.1.Plain ∧ entry.2.Plain) →
        Carries o (t.insertAll entries) h')) ?_ ⟨hsound, fun _ => hcarries⟩ es
    rintro h' entries e ⟨hsound', hcarries'⟩
    refine ⟨sound_detailsStep hsound' e, fun hentries => ?_⟩
    have hold := hcarries' fun entry hentry => hentries entry (List.mem_append_left _ hentry)
    rw [TextMap.insertAll, List.foldl_append]
    exact hold.detailsStep hsound' fun entry hentry =>
      hentries entry (List.mem_append_right _ hentry)
  exact hrun.2 hplain

/-! ### What the methods return -/

theorem table?_of_content {h : Heap} {o : ObjectId} {d : PolkitDetails}
    (hd : content? h.objects o = some (.details d)) : table? h o = some d := by
  rw [table?, hd]

section Reading

variable {o : ObjectId} {t : TextMap} {h : Heap} {i : Nat}

theorem lookup_of_carries (hcarries : Carries o t h) (hsound : Sound h)
    (hrefers : h.refers i = some o) {key : QString} (hkey : key.Plain) :
    Details.lookup h i key = seen (t.get? key.utf16) := by
  obtain ⟨v, hv⟩ := exists_content_of_refers hsound hrefers
  obtain ⟨d, hd, hencodes⟩ := hcarries.exists_table hv
  have hfound : polkitDetailsLookup d (cString key.toUtf8) = (t.get? key.utf16).map wire :=
    hencodes.lookup hcarries.plain (plain_ofUtf16_iff.2 hkey)
  rw [Details.lookup, hrefers, Option.bind_some, table?_of_content hd, Option.bind_some, hfound]
  cases hget : t.get? key.utf16 with
  | none => rfl
  | some units =>
      have hentry := Table.get?_eq_some_iff.1 hget
      exact fromUtf8_wire (hcarries.plain _ hentry).2

theorem keys_of_carries {polkitDetailsGetKeys : PolkitDetails → List Bytes}
    (hkeys : ∀ d, (polkitDetailsGetKeys d).Perm (d.map Prod.fst)) (hcarries : Carries o t h)
    (hsound : Sound h) (hrefers : h.refers i = some o) :
    (Details.keys polkitDetailsGetKeys h i).Perm
      (t.entries.map fun entry => ofUtf16 (dropBom entry.1)) := by
  obtain ⟨v, hv⟩ := exists_content_of_refers hsound hrefers
  obtain ⟨d, hd, hencodes⟩ := hcarries.exists_table hv
  rw [Details.keys, hrefers, Option.bind_some, table?_of_content hd]
  have hshown : (d.map Prod.fst).map fromUtf8 =
      t.entries.map fun entry => ofUtf16 (dropBom entry.1) := by
    rw [hencodes, List.map_map, List.map_map]
    refine List.map_congr_left fun entry hentry => ?_
    exact fromUtf8_wire (hcarries.plain entry hentry).1
  exact hshown ▸ (hkeys d).map fromUtf8

end Reading

/-! ### The round trip -/

/-- A caller with a new table has it wrapped. -/
def wrapTable (h : Heap) (d : PolkitDetails) : List DetailsEvent :=
  [.wrapper (.obtain (.details d)), .wrapper (.ofPointer .details (some h.objects.length))]

/-- The pointer of a wrapper constructed from a pointer. -/
theorem pointer_ofPointer (h : Heap) (wrapped : Wrapped) (p : Option ObjectId) :
    pointer (ofPointer h wrapped p).1 (ofPointer h wrapped p).2 = p := by
  have hblocks : ∀ h' : Heap, (gObjectRef h' p).blocks = h'.blocks := fun h' => by cases p <;> rfl
  have hnew := content?_newData h wrapped
  simp only [ofPointer, pointer, hblocks, setPointer, hnew, content?_replace_self hnew]
  rfl

/-- The new variable refers to the table. -/
theorem refers_wrapTable (h : Heap) (d : PolkitDetails) :
    (run detailsStep h (wrapTable h d)).refers h.wrappers.length = some h.objects.length := by
  have hvalid : (step h (.obtain (.details d))).Valid .details (some h.objects.length) :=
    congrArg (Option.map PolkitObject.wrapped) (content?_alloc_self (s := h.objects) (.details d))
  have hrun : run detailsStep h (wrapTable h d) =
      declare (ofPointer (step h (.obtain (.details d))) .details (some h.objects.length)) :=
    if_pos hvalid
  have hwrappers : ∀ (h' : Heap) (p : Option ObjectId),
      (ofPointer h' .details p).1.wrappers = h'.wrappers := by
    intro h' p
    simp only [ofPointer, setPointer]
    cases p <;> split <;> rfl
  have hwrapper : (declare (ofPointer (step h (.obtain (.details d))) .details
      (some h.objects.length))).wrapper? h.wrappers.length =
        some (ofPointer (step h (.obtain (.details d))) .details (some h.objects.length)).2 := by
    have hlength : h.wrappers = (step h (.obtain (.details d))).wrappers := rfl
    rw [Heap.wrapper?, declare, hwrappers, hlength, List.getElem?_concat_length]
    rfl
  rw [hrun, Heap.refers, hwrapper]
  exact pointer_ofPointer _ _ _

theorem carries_wrapTable {h : Heap} {d : PolkitDetails} {t : TextMap} (hencodes : Encodes d t)
    (ht : t.Plain) : Carries h.objects.length t (run detailsStep h (wrapTable h d)) := by
  have hobtain : Carries h.objects.length t (step h (.obtain (.details d))) := by
    refine ⟨?_, ht, Or.inr ⟨d, content?_alloc_self _, hencodes⟩⟩
    rw [step, alloc, List.length_append]
    exact Nat.lt_succ_self _
  exact hobtain.of_keeps
    (persists_step (step h (.obtain (.details d))) (.ofPointer .details (some h.objects.length)))

/-- **The round trip.**  Let a program convert a map, wrap the table, and go on.  Whatever it did
before and does afterwards, every variable that refers to the table shows the map with the
insertions made meanwhile: it finds the value of every key, a null text for any other, and it lists
each key once.  What it shows of a text lacks a byte order mark at the start. -/
theorem details_round_trip (polkitDetailsGetKeys : PolkitDetails → List Bytes)
    (hkeys : ∀ d, (polkitDetailsGetKeys d).Perm (d.map Prod.fst)) {m : DetailsMap}
    (hne : m.entries ≠ []) (hm : m.texts.Plain) :
    ∃ d, convertDetailsMap m = some d ∧ ∀ before after : List DetailsEvent,
      let h₀ := run detailsStep Heap.empty before
      let o := h₀.objects.length
      let h₁ := run detailsStep h₀ (wrapTable h₀ d)
      let insertions := trace detailsStep (inserted o) h₁ after
      let h := run detailsStep h₁ after
      h₁.refers h₀.wrappers.length = some o ∧
        ((∀ entry ∈ insertions, entry.1.Plain ∧ entry.2.Plain) → ∀ i, h.refers i = some o →
          (∀ key : QString, key.Plain → Details.lookup h i key =
            seen ((m.texts.insertAll insertions).get? key.utf16)) ∧
          (Details.keys polkitDetailsGetKeys h i).Perm
            ((m.texts.insertAll insertions).entries.map fun entry =>
              ofUtf16 (dropBom entry.1))) := by
  obtain ⟨d, hd, hencodes⟩ := encodes_convertDetailsMap hne hm
  refine ⟨d, hd, fun before after => ⟨refers_wrapTable _ d, fun hplain i hrefers => ?_⟩⟩
  have hsound := run_inv (I := Sound) (fun _ e hsound => sound_detailsStep hsound e)
    (sound_run_details before) (wrapTable (run detailsStep Heap.empty before) d)
  have hend := run_inv (I := Sound) (fun _ e hsound => sound_detailsStep hsound e) hsound after
  have hcarries := carries_run hsound (carries_wrapTable hencodes hm) after hplain
  exact ⟨fun key hkey => lookup_of_carries hcarries hend hrefers hkey,
    keys_of_carries hkeys hcarries hend hrefers⟩

/-- A map with one entry is wrapped, the wrapper copied, and a second key inserted through the copy:
the first wrapper shows both values and nothing else. -/
theorem details_round_trip_shared :
    let first : QString := .ofUtf16 [0x61]
    let second : QString := .ofUtf16 [0x62]
    let m : DetailsMap := ⟨[(first, second)], List.nodup_singleton _⟩
    ∃ d, convertDetailsMap m = some d ∧
      let h := run detailsStep (run detailsStep Heap.empty (wrapTable Heap.empty d))
        [.wrapper (.copy 0), .insert 1 second first]
      Details.lookup h 0 first = second ∧ Details.lookup h 0 second = first ∧
        Details.lookup h 0 .null = .null ∧
        (Details.keys (List.map Prod.fst) h 0).Perm [first, second] := by
  intro first second m
  have hm : m.texts.Plain := by
    intro entry hentry
    obtain rfl := List.mem_singleton.1 hentry
    exact ⟨by decide, by decide⟩
  obtain ⟨d, hd, hrun⟩ := details_round_trip (List.map Prod.fst) (fun d => List.Perm.refl _)
    (m := m) (List.cons_ne_nil _ _) hm
  obtain rfl : [([0x61], [0x62])] = d := Option.some.inj hd
  obtain ⟨-, hafter⟩ := hrun [] [.wrapper (.copy 0), .insert 1 second first]
  obtain ⟨hlookup, hkeys⟩ := hafter (by decide) 0 (by decide)
  refine ⟨_, hd, ?_, ?_, ?_, ?_⟩
  · exact (hlookup first (by decide)).trans (by decide)
  · exact (hlookup second (by decide)).trans (by decide)
  · exact (hlookup .null (by decide)).trans (by decide)
  · exact hkeys

/-- A value that starts with a byte order mark is read back without it. -/
theorem byte_order_mark_lost :
    let key : QString := .ofUtf16 [0x6B]
    let value : QString := .ofUtf16 [0xFEFF, 0x76]
    let m : DetailsMap := ⟨[(key, value)], List.nodup_singleton _⟩
    key.Plain ∧ value.Plain ∧
      ∃ d, convertDetailsMap m = some d ∧
        (Details.lookup (run detailsStep Heap.empty (wrapTable Heap.empty d)) 0 key).utf16 ≠
          value.utf16 := by
  intro key value m
  exact ⟨by decide, by decide, _, rfl, by decide⟩

end Wrappers

end PolkitQt
