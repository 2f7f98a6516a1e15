/-
**Ordered trees with labels: places, searches among siblings, and changing one label.**

A document kept as a tree is walked by steps from a node to its first child or its next sibling of
some kind, and edited by giving one node another label.  A node is addressed by the indices on the
way to it, and searches look at labels only, so what an edit leaves alone can be said without speaking
of the shape of the tree.  Nothing here is about a particular program.

Main definitions:

* `LabelledTrees.LabelTree` — a label and a list of children;
* `LabelledTrees.LabelTree.label?`, `LabelledTrees.LabelTree.childLabels` — the label at an address,
  and the labels of the children there;
* `LabelledTrees.LabelTree.relabel` — the tree with the label at one address changed;
* `LabelledTrees.findFrom` — the first label of some kind at an index or after it;
* `LabelledTrees.IsFirst` — the same as a relation.

Main results:

* `LabelledTrees.LabelTree.label?_relabel` — **only the label at the address changes**;
* `LabelledTrees.LabelTree.map_childLabels_relabel` — a change that keeps a feature of the label keeps
  it everywhere;
* `LabelledTrees.findFrom_eq_some_iff` — a search finds the first one;
* `LabelledTrees.findFrom_and` — a search for two things goes from one that has the first to the next.
-/

import Mathlib.Data.List.Basic

set_option relaxedAutoImplicit false
set_option autoImplicit false

namespace LabelledTrees

variable {κ : Type*}

/-! ### Searches in a list of labels -/

/-- The index of the first label at `n` or after it that satisfies `q`. -/
def findFrom (q : κ → Bool) (n : Nat) (labels : List κ) : Option Nat :=
  ((labels.drop n).findIdx? q).map (n + ·)

/-- `i` is the first index from `n` on whose label satisfies `q`. -/
structure IsFirst (q : κ → Bool) (n : Nat) (labels : List κ) (i : Nat) : Prop where
  le : n ≤ i
  found : ∃ l, labels[i]? = some l ∧ q l = true
  before : ∀ j l, n ≤ j → j < i → labels[j]? = some l → q l = false

theorem findFrom_eq_some_iff {q : κ → Bool} {n : Nat} {labels : List κ} {i : Nat} :
    findFrom q n labels = some i ↔ IsFirst q n labels i := by
  rw [findFrom, Option.map_eq_some_iff]
  constructor
  · rintro ⟨k, hk, rfl⟩
    obtain ⟨hlt, hq, hbefore⟩ := List.findIdx?_eq_some_iff_getElem.1 hk
    have hlt' : n + k < labels.length := by
      rw [List.length_drop] at hlt
      omega
    refine ⟨Nat.le_add_right n k, ⟨labels[n + k], List.getElem?_eq_getElem hlt', ?_⟩, ?_⟩
    · rwa [List.getElem_drop] at hq
    · intro j l hnj hji hl
      have hjk : j - n < k := by omega
      obtain ⟨hj, hjl⟩ := List.getElem?_eq_some_iff.1 hl
      have := hbefore (j - n) hjk
      rw [List.getElem_drop] at this
      simp only [Nat.add_sub_cancel' hnj, hjl] at this
      simpa using this
  · rintro ⟨hle, ⟨l, hl, hq⟩, hbefore⟩
    obtain ⟨hi, hil⟩ := List.getElem?_eq_some_iff.1 hl
    refine ⟨i - n, List.findIdx?_eq_some_iff_getElem.2 ⟨?_, ?_, ?_⟩, Nat.add_sub_cancel' hle⟩
    · rw [List.length_drop]
      omega
    · rw [List.getElem_drop]
      simpa only [Nat.add_sub_cancel' hle, hil] using hq
    · intro j hj
      rw [List.getElem_drop]
      have hlt : n + j < labels.length := by omega
      simp [hbefore (n + j) labels[n + j] (Nat.le_add_right n j) (by omega)
        (List.getElem?_eq_getElem hlt)]

theorem findFrom_eq_none_iff {q : κ → Bool} {n : Nat} {labels : List κ} :
    findFrom q n labels = none ↔ ∀ j l, n ≤ j → labels[j]? = some l → q l = false := by
  rw [findFrom, Option.map_eq_none_iff, List.findIdx?_eq_none_iff]
  constructor
  · intro h j l hnj hl
    refine h l (List.mem_iff_getElem?.2 ⟨j - n, ?_⟩)
    rw [List.getElem?_drop, Nat.add_sub_cancel' hnj, hl]
  · intro h l hl
    obtain ⟨k, hk⟩ := List.mem_iff_getElem?.1 hl
    rw [List.getElem?_drop] at hk
    exact h (n + k) l (Nat.le_add_right n k) hk

/-- Past the end nothing is found. -/
theorem findFrom_of_length_le {q : κ → Bool} {n : Nat} {labels : List κ}
    (h : labels.length ≤ n) : findFrom q n labels = none := by
  rw [findFrom, List.drop_of_length_le h]
  rfl

/-- What is found depends on the feature searched for and on nothing else of the labels. -/
theorem findFrom_eq_of_map_eq {q : κ → Bool} {labels labels' : List κ}
    (h : labels.map q = labels'.map q) (n : Nat) : findFrom q n labels = findFrom q n labels' := by
  have key : ∀ ls : List κ, findFrom q n ls = ((ls.map q).drop n |>.findIdx? id).map (n + ·) := by
    intro ls
    rw [findFrom, ← List.map_drop, List.findIdx?_map]
    rfl
  rw [key labels, key labels', h]

/-- **One search for two things.**  It stops where the search for the first does if the second holds
there, and goes on behind that place if not. -/
theorem findFrom_and (q r : κ → Bool) (n : Nat) (labels : List κ) :
    findFrom (fun l => q l && r l) n labels =
      (findFrom q n labels).bind fun i =>
        if (labels[i]?).any r then some i
        else findFrom (fun l => q l && r l) (i + 1) labels := by
  cases hq : findFrom q n labels with
  | none =>
      rw [Option.bind_none, findFrom_eq_none_iff]
      intro j l hnj hl
      rw [findFrom_eq_none_iff.1 hq j l hnj hl, Bool.false_and]
  | some i =>
      obtain ⟨hle, ⟨l, hl, hql⟩, hbefore⟩ := findFrom_eq_some_iff.1 hq
      rw [Option.bind_some, hl, Option.any_some]
      by_cases hrl : r l = true
      · rw [if_pos hrl, findFrom_eq_some_iff]
        refine ⟨hle, ⟨l, hl, by rw [hql, hrl]; rfl⟩, ?_⟩
        intro j l' hnj hji hl'
        rw [hbefore j l' hnj hji hl', Bool.false_and]
      · rw [if_neg hrl]
        -- up to `i` neither search finds anything
        have hnot : ∀ j l', n ≤ j → j ≤ i → labels[j]? = some l' → (q l' && r l') = false := by
          intro j l' hnj hji hl'
          rcases Nat.lt_or_eq_of_le hji with hlt | rfl
          · rw [hbefore j l' hnj hlt hl', Bool.false_and]
          · obtain rfl := Option.some.inj (hl.symm.trans hl')
            rw [eq_false_of_ne_true hrl, Bool.and_false]
        cases hrest : findFrom (fun l => q l && r l) (i + 1) labels with
        | none =>
            rw [findFrom_eq_none_iff] at hrest ⊢
            intro j l' hnj hl'
            by_cases hji : j ≤ i
            · exact hnot j l' hnj hji hl'
            · exact hrest j l' (by omega) hl'
        | some k =>
            rw [findFrom_eq_some_iff] at hrest ⊢
            refine ⟨by have := hrest.le; omega, hrest.found, ?_⟩
            intro j l' hnj hjk hl'
            by_cases hji : j ≤ i
            · exact hnot j l' hnj hji hl'
            · exact hrest.before j l' (by omega) hjk hl'

/-! ### Trees -/

inductive LabelTree (κ : Type*)
  | node (label : κ) (children : List (LabelTree κ))

/-- The indices on the way from the root. -/
abbrev Address := List Nat

namespace LabelTree

def label : LabelTree κ → κ
  | node l _ => l

def children : LabelTree κ → List (LabelTree κ)
  | node _ cs => cs

def subtree? (t : LabelTree κ) : Address → Option (LabelTree κ)
  | [] => some t
  | i :: p => (t.children[i]?).bind fun c => c.subtree? p

def label? (t : LabelTree κ) (p : Address) : Option κ := (t.subtree? p).map label

/-- The labels of the children, in order; none if there is nothing at the address. -/
def childLabels (t : LabelTree κ) (p : Address) : List κ :=
  ((t.subtree? p).map fun s => s.children.map label).getD []

def relabel (f : κ → κ) : Address → LabelTree κ → LabelTree κ
  | [], t => node (f t.label) t.children
  | i :: p, t => node t.label (t.children.modify i (relabel f p))

theorem subtree?_cons (t : LabelTree κ) (i : Nat) (p : Address) :
    t.subtree? (i :: p) = (t.children[i]?).bind fun c => c.subtree? p := rfl

theorem subtree?_append (t : LabelTree κ) (p q : Address) :
    t.subtree? (p ++ q) = (t.subtree? p).bind fun s => s.subtree? q := by
  induction p generalizing t with
  | nil => rfl
  | cons i p ih =>
      rw [List.cons_append, subtree?_cons, subtree?_cons]
      cases t.children[i]? with
      | none => rfl
      | some c => exact ih c

theorem label?_cons (t : LabelTree κ) (i : Nat) (p : Address) :
    t.label? (i :: p) = (t.children[i]?).bind fun c => c.label? p := by
  rw [label?, subtree?_cons, Option.map_bind]
  rfl

/-- The label of a child is read off the labels of the children. -/
theorem label?_child (t : LabelTree κ) (p : Address) (i : Nat) :
    t.label? (p ++ [i]) = (t.childLabels p)[i]? := by
  rw [label?, subtree?_append, childLabels]
  cases t.subtree? p with
  | none => rfl
  | some s =>
      rw [Option.bind_some, subtree?_cons, Option.map_some, Option.getD_some, List.getElem?_map]
      cases s.children[i]? <;> rfl

/-- **Only the label at the address changes.** -/
theorem label?_relabel (f : κ → κ) (p q : Address) (t : LabelTree κ) :
    (t.relabel f p).label? q = if q = p then (t.label? q).map f else t.label? q := by
  induction p generalizing t q with
  | nil =>
      cases q with
      | nil => rfl
      | cons j q => rw [if_neg (List.cons_ne_nil j q)]; rfl
  | cons i p ih =>
      cases q with
      | nil => rw [if_neg (List.cons_ne_nil i p).symm]; rfl
      | cons j q =>
          rw [label?_cons, label?_cons, relabel]
          change ((t.children.modify i (relabel f p))[j]?.bind fun c => c.label? q) = _
          rw [List.getElem?_modify]
          cases hc : t.children[j]? with
          | none => simp
          | some c =>
              by_cases hij : i = j
              · simp [hij, ih]
              · have hne : ¬ (j = i ∧ q = p) := fun h => hij h.1.symm
                simp [hij, hne]

/-- A change of labels that keeps a feature of them keeps it everywhere. -/
theorem map_childLabels_relabel {α : Type*} {f : κ → κ} {feature : κ → α}
    (h : ∀ l, feature (f l) = feature l) (p q : Address) (t : LabelTree κ) :
    ((t.relabel f p).childLabels q).map feature = (t.childLabels q).map feature := by
  apply List.ext_getElem?
  intro i
  rw [List.getElem?_map, List.getElem?_map, ← label?_child, ← label?_child, label?_relabel]
  split
  · cases t.label? (q ++ [i]) with
    | none => rfl
    | some l => exact congrArg some (h l)
  · rfl

end LabelTree

end LabelledTrees
