/-
**Reference-counted stores.**

A store holds cells that are known by their position.  A cell has a count and a content; it is
allocated with count one, every reference taken adds one, and the release that brings the count to
zero frees the cell and hands its content back, so that what the content refers to can be released
in turn.  Two numbers describe what matters of a store: the count of a cell, and how many live
cells have a content of a given kind.  Nothing here is about a particular program.

Main definitions:

* `RefCount.Store`, `RefCount.alloc`, `RefCount.retain`, `RefCount.release`, `RefCount.replace`;
* `RefCount.countAt` — the count of a cell, zero if it is not live;
* `RefCount.pointing` — the number of live cells whose content satisfies a test;
* `RefCount.Positive` — every live cell is counted at least once;
* `RefCount.Persists` — every cell keeps its content until it is freed.

Main results:

* `RefCount.countAt_alloc`, `RefCount.countAt_retain`, `RefCount.countAt_release` and
  `RefCount.pointing_alloc`, `RefCount.pointing_release`, `RefCount.pointing_replace` — what each
  operation does to the two numbers;
* `RefCount.Positive.eq_none`, `RefCount.Positive.pointing_eq_zero` — in a store whose counts are
  zero nothing is left.
-/

import Mathlib.Data.List.Basic

set_option relaxedAutoImplicit false
set_option autoImplicit false

namespace RefCount

variable {α : Type*}

/-! ### Stores -/

/-- A counted cell. -/
structure Cell (α : Type*) where
  count : Int
  content : α
  deriving DecidableEq, Repr

/-- The cells by position; a freed one is `none`. -/
abbrev Store (α : Type*) := List (Option (Cell α))

/-- The live cell at a position. -/
def cell? (s : Store α) (i : Nat) : Option (Cell α) := s[i]?.join

def content? (s : Store α) (i : Nat) : Option α := (cell? s i).map Cell.content

def alloc (s : Store α) (a : α) : Store α := s ++ [some ⟨1, a⟩]

def retain (s : Store α) (i : Nat) : Store α :=
  match cell? s i with
  | none => s
  | some c => s.set i (some { c with count := c.count + 1 })

/-- The store and, if the cell was freed, its content. -/
def release (s : Store α) (i : Nat) : Store α × Option α :=
  match cell? s i with
  | none => (s, none)
  | some c =>
      if c.count = 1 then (s.set i none, some c.content)
      else (s.set i (some { c with count := c.count - 1 }), none)

/-- A live cell gets another content. -/
def replace (s : Store α) (i : Nat) (a : α) : Store α :=
  match cell? s i with
  | none => s
  | some c => s.set i (some { c with content := a })

/-- The count of a cell. -/
def countAt (s : Store α) (i : Nat) : Int :=
  match cell? s i with
  | none => 0
  | some c => c.count

/-- The test, on a cell that is live. -/
def satisfies (p : α → Bool) : Option (Cell α) → Bool
  | none => false
  | some c => p c.content

/-- The number of live cells whose content passes the test. -/
def pointing (p : α → Bool) (s : Store α) : Nat := s.countP (satisfies p)

/-- Every live cell is counted. -/
def Positive (s : Store α) : Prop := ∀ i c, cell? s i = some c → 1 ≤ c.count

/-! ### Cells -/

section Cells

variable {s : Store α}

theorem getElem?_of_cell? {i : Nat} {c : Cell α} (h : cell? s i = some c) :
    s[i]? = some (some c) := by
  rwa [cell?, Option.join_eq_some_iff] at h

theorem lt_of_cell? {i : Nat} {c : Cell α} (h : cell? s i = some c) : i < s.length :=
  (List.getElem?_eq_some_iff.1 (getElem?_of_cell? h)).1

theorem cell?_of_length_le {i : Nat} (h : s.length ≤ i) : cell? s i = none := by
  rw [cell?, List.getElem?_eq_none h]
  rfl

theorem content?_eq_none_iff {i : Nat} : content? s i = none ↔ cell? s i = none := by
  rw [content?, Option.map_eq_none_iff]

/-- A cell that is counted is live. -/
theorem exists_cell? {i : Nat} (h : countAt s i ≠ 0) : ∃ c, cell? s i = some c := by
  rw [countAt] at h
  cases hc : cell? s i with
  | none => simp [hc] at h
  | some c => exact ⟨c, rfl⟩

theorem countAt_of_cell? {i : Nat} {c : Cell α} (h : cell? s i = some c) :
    countAt s i = c.count := by
  rw [countAt, h]

theorem cell?_set {i : Nat} {c : Cell α} (h : cell? s i = some c) (x : Option (Cell α)) (j : Nat) :
    cell? (s.set i x) j = if j = i then x else cell? s j := by
  rw [cell?, cell?]
  by_cases hij : j = i
  · subst hij
    rw [if_pos rfl, List.getElem?_set_self (lt_of_cell? h)]
    rfl
  · rw [if_neg hij, List.getElem?_set_ne (Ne.symm hij)]

theorem countAt_set {i : Nat} {c : Cell α} (h : cell? s i = some c) (x : Option (Cell α))
    (j : Nat) :
    countAt (s.set i x) j = if j = i then (x.map Cell.count).getD 0 else countAt s j := by
  rw [countAt, cell?_set h]
  by_cases hij : j = i
  · rw [if_pos hij, if_pos hij]
    cases x <;> rfl
  · rw [if_neg hij, if_neg hij, countAt]

/-- What replacing a live cell does to the number of cells of a kind. -/
theorem pointing_set {i : Nat} {c : Cell α} (h : cell? s i = some c) (x : Option (Cell α))
    (p : α → Bool) :
    pointing p (s.set i x) + (if p c.content then 1 else 0) =
      pointing p s + if satisfies p x then 1 else 0 := by
  have hlt := lt_of_cell? h
  have hget : s[i] = some c := by
    have hsome := getElem?_of_cell? h
    rw [List.getElem?_eq_getElem hlt] at hsome
    exact Option.some.inj hsome
  have hpos : satisfies p s[i] = true → 0 < s.countP (satisfies p) := fun hp =>
    List.countP_pos_iff.2 ⟨s[i], List.getElem_mem hlt, hp⟩
  rw [pointing, pointing, List.countP_set hlt, hget]
  rw [hget] at hpos
  have hsat : satisfies p (some c) = p c.content := rfl
  rw [hsat] at hpos ⊢
  cases hp : p c.content with
  | true =>
      have := hpos hp
      simp
      omega
  | false => simp

end Cells

/-! ### What the operations do -/

section Operations

variable {s : Store α}

theorem cell?_alloc (a : α) (j : Nat) :
    cell? (alloc s a) j = if j = s.length then some ⟨1, a⟩ else cell? s j := by
  rw [alloc, cell?, cell?]
  rcases Nat.lt_trichotomy j s.length with hlt | heq | hgt
  · rw [List.getElem?_append_left hlt, if_neg (Nat.ne_of_lt hlt)]
  · rw [heq, List.getElem?_concat_length, if_pos rfl]
    rfl
  · rw [if_neg (Nat.ne_of_gt hgt), List.getElem?_eq_none (Nat.le_of_lt hgt), List.getElem?_eq_none]
    rw [List.length_append, List.length_singleton]
    omega

theorem content?_alloc_self (a : α) : content? (alloc s a) s.length = some a := by
  rw [content?, cell?_alloc, if_pos rfl]
  rfl

/-- A new cell is counted once. -/
theorem countAt_alloc (a : α) (j : Nat) :
    countAt (alloc s a) j = countAt s j + if j = s.length then 1 else 0 := by
  rw [countAt, countAt, cell?_alloc]
  by_cases hj : j = s.length
  · rw [if_pos hj, if_pos hj, cell?_of_length_le (Nat.le_of_eq hj.symm)]
    rfl
  · rw [if_neg hj, if_neg hj, Int.add_zero]

theorem pointing_alloc (p : α → Bool) (a : α) :
    pointing p (alloc s a) = pointing p s + if p a then 1 else 0 := by
  rw [pointing, alloc, List.countP_append, List.countP_singleton]
  rfl

theorem countAt_retain {i : Nat} {c : Cell α} (h : cell? s i = some c) (j : Nat) :
    countAt (retain s i) j = countAt s j + if j = i then 1 else 0 := by
  rw [retain, h]
  simp only
  rw [countAt_set h]
  by_cases hij : j = i
  · rw [if_pos hij, if_pos hij, hij, countAt_of_cell? h]
    rfl
  · rw [if_neg hij, if_neg hij, Int.add_zero]

@[simp] theorem pointing_retain (p : α → Bool) (i : Nat) :
    pointing p (retain s i) = pointing p s := by
  rw [retain]
  cases h : cell? s i with
  | none => rfl
  | some c =>
      have hset := pointing_set h (some { c with count := c.count + 1 }) p
      simp only [satisfies] at hset
      exact Nat.add_right_cancel hset

/-- The two ways a release can end. -/
theorem release_cases {i : Nat} {c : Cell α} (h : cell? s i = some c) :
    (c.count = 1 ∧ release s i = (s.set i none, some c.content)) ∨
      (c.count ≠ 1 ∧ release s i = (s.set i (some { c with count := c.count - 1 }), none)) := by
  rw [release, h]
  by_cases hcount : c.count = 1
  · exact Or.inl ⟨hcount, if_pos hcount⟩
  · exact Or.inr ⟨hcount, if_neg hcount⟩

theorem countAt_release {i : Nat} {c : Cell α} (h : cell? s i = some c) (j : Nat) :
    countAt (release s i).1 j = countAt s j - if j = i then 1 else 0 := by
  rcases release_cases h with ⟨hcount, hrelease⟩ | ⟨-, hrelease⟩
  · rw [hrelease]
    simp only
    rw [countAt_set h]
    by_cases hij : j = i
    · rw [if_pos hij, if_pos hij, hij, countAt_of_cell? h, hcount]
      rfl
    · rw [if_neg hij, if_neg hij, Int.sub_zero]
  · rw [hrelease]
    simp only
    rw [countAt_set h]
    by_cases hij : j = i
    · rw [if_pos hij, if_pos hij, hij, countAt_of_cell? h]
      rfl
    · rw [if_neg hij, if_neg hij, Int.sub_zero]

/-- The content handed back is no longer in the store. -/
theorem pointing_release (p : α → Bool) (i : Nat) :
    pointing p (release s i).1 + (if (release s i).2.any p then 1 else 0) = pointing p s := by
  cases h : cell? s i with
  | none =>
      rw [release, h]
      rfl
  | some c =>
      rcases release_cases h with ⟨-, hrelease⟩ | ⟨-, hrelease⟩
      · rw [hrelease]
        exact pointing_set h none p
      · rw [hrelease]
        have hset := pointing_set h (some { c with count := c.count - 1 }) p
        simp only [satisfies] at hset
        exact Nat.add_right_cancel hset

/-- What is handed back was the content. -/
theorem content?_of_release {i : Nat} {a : α} (h : (release s i).2 = some a) :
    content? s i = some a := by
  rw [content?]
  cases hc : cell? s i with
  | none => simp [release, hc] at h
  | some c =>
      rcases release_cases hc with ⟨-, hrelease⟩ | ⟨-, hrelease⟩
      · rw [hrelease] at h
        exact h
      · simp [hrelease] at h

@[simp] theorem countAt_replace (i : Nat) (a : α) (j : Nat) :
    countAt (replace s i a) j = countAt s j := by
  rw [replace]
  cases h : cell? s i with
  | none => rfl
  | some c =>
      simp only
      rw [countAt_set h]
      by_cases hij : j = i
      · rw [if_pos hij, hij, countAt_of_cell? h]
        rfl
      · rw [if_neg hij]

theorem pointing_replace {i : Nat} {a : α} (h : content? s i = some a) (b : α) (p : α → Bool) :
    pointing p (replace s i b) + (if p a then 1 else 0) =
      pointing p s + if p b then 1 else 0 := by
  rw [content?, Option.map_eq_some_iff] at h
  obtain ⟨c, hc, rfl⟩ := h
  rw [replace, hc]
  exact pointing_set hc (some { c with content := b }) p

theorem content?_replace_self {i : Nat} {a : α} (h : content? s i = some a) (b : α) :
    content? (replace s i b) i = some b := by
  rw [content?, Option.map_eq_some_iff] at h
  obtain ⟨c, hc, rfl⟩ := h
  rw [content?, replace, hc]
  simp only
  rw [cell?_set hc, if_pos rfl]
  rfl

/-- A live cell whose content passes the test is one of those counted. -/
theorem pointing_pos {i : Nat} {a : α} (h : content? s i = some a) {p : α → Bool}
    (hp : p a = true) : 0 < pointing p s := by
  rw [content?, Option.map_eq_some_iff] at h
  obtain ⟨c, hc, rfl⟩ := h
  exact List.countP_pos_iff.2 ⟨some c, List.mem_of_getElem? (getElem?_of_cell? hc), hp⟩

end Operations

/-! ### What is kept -/

/-- From `s` to `s'` every cell keeps its content or is freed, and a freed one stays so. -/
structure Persists (s s' : Store α) : Prop where
  length_le : s.length ≤ s'.length
  kept : ∀ i, i < s.length → cell? s' i = none ∨ content? s' i = content? s i

namespace Persists

variable {s s' s'' : Store α}

theorem refl (s : Store α) : Persists s s := ⟨Nat.le_refl _, fun _ _ => Or.inr rfl⟩

theorem trans (h : Persists s s') (h' : Persists s' s'') : Persists s s'' := by
  refine ⟨Nat.le_trans h.length_le h'.length_le, fun i hi => ?_⟩
  rcases h'.kept i (Nat.lt_of_lt_of_le hi h.length_le) with hfreed | hsame
  · exact Or.inl hfreed
  · rcases h.kept i hi with hfreed | hkept
    · left
      rwa [content?_eq_none_iff.2 hfreed, content?_eq_none_iff] at hsame
    · exact Or.inr (hsame.trans hkept)

theorem alloc (s : Store α) (a : α) : Persists s (alloc s a) := by
  refine ⟨?_, fun i hi => Or.inr ?_⟩
  · rw [RefCount.alloc, List.length_append]
    exact Nat.le_add_right _ _
  · rw [content?, content?, cell?_alloc, if_neg (Nat.ne_of_lt hi)]

/-- Setting a live cell to one with the same content, or freeing it. -/
theorem set {i : Nat} {c : Cell α} (h : cell? s i = some c) {x : Option (Cell α)}
    (hx : ∀ d, x = some d → d.content = c.content) : Persists s (s.set i x) := by
  refine ⟨Nat.le_of_eq List.length_set.symm, fun j _ => ?_⟩
  rw [content?, content?, cell?_set h]
  by_cases hji : j = i
  · subst hji
    rw [if_pos rfl, h]
    cases x with
    | none => exact Or.inl rfl
    | some d => exact Or.inr (congrArg some (hx d rfl))
  · rw [if_neg hji]
    exact Or.inr rfl

theorem retain (s : Store α) (i : Nat) : Persists s (retain s i) := by
  rw [RefCount.retain]
  cases h : cell? s i with
  | none => exact refl s
  | some c => exact set h fun d hd => (Option.some.inj hd) ▸ rfl

theorem release (s : Store α) (i : Nat) : Persists s (release s i).1 := by
  cases h : cell? s i with
  | none =>
      rw [RefCount.release, h]
      exact refl s
  | some c =>
      rcases release_cases h with ⟨-, hrelease⟩ | ⟨-, hrelease⟩
      · rw [hrelease]
        exact set h fun d hd => absurd hd (by simp)
      · rw [hrelease]
        exact set h fun d hd => (Option.some.inj hd) ▸ rfl

end Persists

/-- Replacing a content leaves the other cells alone. -/
theorem cell?_replace_of_ne {s : Store α} {i j : Nat} (h : j ≠ i) (a : α) :
    cell? (replace s i a) j = cell? s j := by
  rw [replace]
  cases hc : cell? s i with
  | none => rfl
  | some c =>
      simp only
      rw [cell?_set hc, if_neg h]

theorem length_replace (s : Store α) (i : Nat) (a : α) : (replace s i a).length = s.length := by
  rw [replace]
  split
  · rfl
  · exact List.length_set

/-! ### Stores in which every live cell is counted -/

namespace Positive

variable {s : Store α}

theorem nil : Positive ([] : Store α) := by
  intro i c h
  simp [cell?] at h

theorem alloc (h : Positive s) (a : α) : Positive (alloc s a) := by
  intro i c hc
  rw [cell?_alloc] at hc
  split at hc
  · obtain rfl := Option.some.inj hc
    exact Int.le_refl 1
  · exact h i c hc

theorem retain (h : Positive s) (i : Nat) : Positive (retain s i) := by
  rw [RefCount.retain]
  cases hc : cell? s i with
  | none => exact h
  | some c =>
      intro j c' hc'
      rw [cell?_set hc] at hc'
      split at hc'
      · obtain rfl := Option.some.inj hc'
        have := h i c hc
        show 1 ≤ c.count + 1
        omega
      · exact h j c' hc'

theorem release (h : Positive s) (i : Nat) : Positive (release s i).1 := by
  cases hc : cell? s i with
  | none =>
      rw [RefCount.release, hc]
      exact h
  | some c =>
      have hpos := h i c hc
      rcases release_cases hc with ⟨-, hrelease⟩ | ⟨hcount, hrelease⟩
      · rw [hrelease]
        intro j c' hc'
        rw [cell?_set hc] at hc'
        split at hc'
        · simp at hc'
        · exact h j c' hc'
      · rw [hrelease]
        intro j c' hc'
        rw [cell?_set hc] at hc'
        split at hc'
        · obtain rfl := Option.some.inj hc'
          show 1 ≤ c.count - 1
          omega
        · exact h j c' hc'

theorem replace (h : Positive s) (i : Nat) (a : α) : Positive (replace s i a) := by
  rw [RefCount.replace]
  cases hc : cell? s i with
  | none => exact h
  | some c =>
      intro j c' hc'
      rw [cell?_set hc] at hc'
      split at hc'
      · obtain rfl := Option.some.inj hc'
        exact h i c hc
      · exact h j c' hc'

/-- A cell that is not counted is not there. -/
theorem eq_none (h : Positive s) {i : Nat} (hi : countAt s i ≤ 0) : cell? s i = none := by
  cases hc : cell? s i with
  | none => rfl
  | some c =>
      have hpos := h i c hc
      rw [countAt_of_cell? hc] at hi
      omega

/-- When nothing is counted, nothing is left to point anywhere. -/
theorem pointing_eq_zero (h : Positive s) (hzero : ∀ i, countAt s i ≤ 0) (p : α → Bool) :
    pointing p s = 0 := by
  rw [pointing, List.countP_eq_zero]
  intro x hx
  obtain ⟨i, hi⟩ := List.mem_iff_getElem?.1 hx
  have hnone := h.eq_none (hzero i)
  rw [cell?, hi] at hnone
  have hx : x = none := hnone
  rw [hx]
  exact Bool.false_ne_true

end Positive

end RefCount
