/-
**Lists of records under a key.**

A registry is a list of records, each known by a key computed from it.  As long as the keys are
pairwise different a key finds its record, whatever the order, and taking the key off the list of
keys is taking the record off the list of records.  This module says so.  Nothing here is about a
particular program.

Main definitions:

* `KeyedList.lookup` — the first record under a key.

Main results:

* `KeyedList.lookup_eq_some_iff` — a key finds a record exactly when the record has the key;
* `KeyedList.nodup_concat_iff` — the keys stay different when the key of a new record is new;
* `KeyedList.erase_map` — a key is erased with its record.
-/

import Mathlib.Data.List.Nodup

set_option relaxedAutoImplicit false
set_option autoImplicit false

namespace KeyedList

variable {α κ : Type*} (key : α → κ)

/-! ### Looking up -/

section Lookup

variable [DecidableEq κ]

/-- The first record under the key. -/
def lookup (l : List α) (k : κ) : Option α := l.find? fun a => key a = k

variable {key}

theorem mem_of_lookup {l : List α} {k : κ} {a : α} (h : lookup key l k = some a) :
    a ∈ l ∧ key a = k := ⟨List.mem_of_find?_eq_some h, by simpa using List.find?_some h⟩

theorem lookup_eq_none_iff {l : List α} {k : κ} :
    lookup key l k = none ↔ ∀ a ∈ l, key a ≠ k := by
  simp [lookup]

/-- **A key finds the record that has it.** -/
theorem lookup_eq_some_iff {l : List α} (hnodup : (l.map key).Nodup) {k : κ} {a : α} :
    lookup key l k = some a ↔ a ∈ l ∧ key a = k := by
  constructor
  · exact mem_of_lookup
  · rintro ⟨hmem, hkey⟩
    cases hfind : lookup key l k with
    | none => exact absurd hkey (lookup_eq_none_iff.1 hfind a hmem)
    | some b =>
        -- the key has one record only
        obtain ⟨hb, hkey'⟩ := mem_of_lookup hfind
        rw [List.inj_on_of_nodup_map hnodup hb hmem (hkey'.trans hkey.symm)]

theorem lookup_key {l : List α} (hnodup : (l.map key).Nodup) {a : α} (h : a ∈ l) :
    lookup key l (key a) = some a := (lookup_eq_some_iff hnodup).2 ⟨h, rfl⟩

end Lookup

/-! ### Adding and removing -/

/-- The keys stay different when the key of a new record is new. -/
theorem nodup_concat_iff {l : List α} {a : α} :
    ((l ++ [a]).map key).Nodup ↔ (l.map key).Nodup ∧ ∀ b ∈ l, key b ≠ key a := by
  rw [List.map_append, List.map_singleton, List.nodup_append]
  constructor
  · rintro ⟨hl, -, hnew⟩
    exact ⟨hl, fun b hb => hnew _ (List.mem_map_of_mem hb) _ (List.mem_singleton.2 rfl)⟩
  · rintro ⟨hl, hnew⟩
    refine ⟨hl, List.nodup_singleton _, ?_⟩
    intro k hk k' hk'
    obtain ⟨b, hb, rfl⟩ := List.mem_map.1 hk
    obtain rfl := List.mem_singleton.1 hk'
    exact hnew b hb

theorem nodup_filter {l : List α} (hnodup : (l.map key).Nodup) (p : α → Bool) :
    ((l.filter p).map key).Nodup := hnodup.sublist (List.filter_sublist.map key)

/-- A change that keeps the key of every record keeps the keys. -/
theorem map_map_of_keeps {f : α → α} (hf : ∀ a, key (f a) = key a) (l : List α) :
    (l.map f).map key = l.map key := by
  rw [List.map_map]
  exact List.map_congr_left fun a _ => hf a

/-- **A key is erased with its record.** -/
theorem erase_map [DecidableEq κ] {l : List α} (hnodup : (l.map key).Nodup) (k : κ) :
    (l.map key).erase k = (l.filter fun a => key a ≠ k).map key := by
  rw [hnodup.erase_eq_filter, List.filter_map]
  congr 1
  refine List.filter_congr fun a _ => ?_
  by_cases hk : key a = k
  · simp [hk]
  · simp [hk]

end KeyedList
