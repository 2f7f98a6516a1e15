/-
**Visiting the members of a family that share a state.**

A notification reaches the members of a family one after the other.  Each visit may change the
member visited and a state that all of them share, and that state is the only way in which one
visit can be felt by another.  This module says when the order of the visits does not matter, and
gives the orders that tell two members apart when it does.  Nothing here is about a particular
program.

Main definitions:

* `Broadcast.visit`, `Broadcast.broadcast`.

Main results:

* `Broadcast.getElem?_broadcast` — if a visit does not depend on the shared state, as long as it is
  of some kind that visits keep, every member is what its own visit makes of it;
* `Broadcast.members_broadcast_eq` — and then the order does not matter;
* `Broadcast.getElem?_broadcast_first`, `Broadcast.getElem?_broadcast_second` — what becomes of a
  member that is visited first, or after one other;
* `Broadcast.exists_orders` — any two members can be put in front, either way round.
-/

import Mathlib.Data.List.Perm.Basic
import Mathlib.Data.List.Nodup
import Mathlib.Data.List.Range

set_option relaxedAutoImplicit false
set_option autoImplicit false

namespace Broadcast

variable {γ α : Type*}

/-- A shared state and the members. -/
structure Family (γ α : Type*) where
  shared : γ
  members : List α

/-- The member at a position is visited. -/
def visit (f : γ → α → γ × α) (w : Family γ α) (i : Nat) : Family γ α :=
  match w.members[i]? with
  | none => w
  | some a => ⟨(f w.shared a).1, w.members.set i (f w.shared a).2⟩

/-- The positions are visited in order. -/
def broadcast (f : γ → α → γ × α) (w : Family γ α) (order : List Nat) : Family γ α :=
  order.foldl (visit f) w

section Visits

variable {f : γ → α → γ × α} {w : Family γ α}

@[simp] theorem broadcast_nil : broadcast f w [] = w := rfl

@[simp] theorem broadcast_cons (i : Nat) (order : List Nat) :
    broadcast f w (i :: order) = broadcast f (visit f w i) order := rfl

theorem visit_of_some {i : Nat} {a : α} (h : w.members[i]? = some a) :
    visit f w i = ⟨(f w.shared a).1, w.members.set i (f w.shared a).2⟩ := by
  rw [visit, h]

theorem getElem?_visit_self {i : Nat} {a : α} (h : w.members[i]? = some a) :
    (visit f w i).members[i]? = some (f w.shared a).2 := by
  rw [visit_of_some h]
  exact List.getElem?_set_self (List.getElem?_eq_some_iff.1 h).1

/-- A visit changes no other member. -/
theorem getElem?_visit_of_ne {i j : Nat} (h : i ≠ j) :
    (visit f w i).members[j]? = w.members[j]? := by
  rw [visit]
  split
  · rfl
  · exact List.getElem?_set_ne h

/-- A member that is not visited stays what it was. -/
theorem getElem?_broadcast_of_not_mem {order : List Nat} {j : Nat} (h : j ∉ order) :
    (broadcast f w order).members[j]? = w.members[j]? := by
  induction order generalizing w with
  | nil => rfl
  | cons i order ih =>
      rw [List.mem_cons, not_or] at h
      obtain ⟨hne, hrest⟩ := h
      rw [broadcast_cons, ih hrest, getElem?_visit_of_ne (Ne.symm hne)]

/-- The member visited first meets the shared state as it was. -/
theorem getElem?_broadcast_first {i : Nat} {order : List Nat} {a : α}
    (ha : w.members[i]? = some a) (hi : i ∉ order) :
    (broadcast f w (i :: order)).members[i]? = some (f w.shared a).2 := by
  rw [broadcast_cons, getElem?_broadcast_of_not_mem hi, getElem?_visit_self ha]

/-- The member visited second meets what the first visit left. -/
theorem getElem?_broadcast_second {i j : Nat} {order : List Nat} {a b : α}
    (ha : w.members[i]? = some a) (hb : w.members[j]? = some b) (hne : j ≠ i) (hi : i ∉ order) :
    (broadcast f w (j :: i :: order)).members[i]? = some (f (f w.shared b).1 a).2 := by
  have ha' : (visit f w j).members[i]? = some a := by rw [getElem?_visit_of_ne hne, ha]
  rw [broadcast_cons, getElem?_broadcast_first ha' hi, visit_of_some hb]

/-- **Visits that do not feel one another.**  While the shared state is of kind `L`, a visit keeps
it so and makes of the member what `g` says. -/
theorem getElem?_broadcast {L : γ → Prop} {g : α → α} {order : List Nat} (hnodup : order.Nodup)
    (h : ∀ i a, i ∈ order → w.members[i]? = some a → ∀ s, L s → L (f s a).1 ∧ (f s a).2 = g a)
    (hs : L w.shared) (j : Nat) :
    (broadcast f w order).members[j]? =
      if j ∈ order then w.members[j]?.map g else w.members[j]? := by
  induction order generalizing w with
  | nil => rfl
  | cons i order ih =>
      obtain ⟨hi, hnodup⟩ := List.nodup_cons.1 hnodup
      rw [broadcast_cons]
      have hshared : L (visit f w i).shared := by
        cases hmember : w.members[i]? with
        | none =>
            rw [visit, hmember]
            exact hs
        | some a =>
            rw [visit_of_some hmember]
            exact (h i a (List.mem_cons_self ..) hmember w.shared hs).1
      have hrest : ∀ k a, k ∈ order → (visit f w i).members[k]? = some a →
          ∀ s, L s → L (f s a).1 ∧ (f s a).2 = g a := by
        intro k a hk hmember
        have hne : i ≠ k := fun heq => hi (heq ▸ hk)
        rw [getElem?_visit_of_ne hne] at hmember
        exact h k a (List.mem_cons_of_mem _ hk) hmember
      rw [ih hnodup hrest hshared]
      by_cases hij : i = j
      · -- visited now, and not again
        subst hij
        rw [if_neg hi, if_pos (List.mem_cons_self ..)]
        cases hmember : w.members[i]? with
        | none =>
            rw [visit, hmember]
            exact hmember
        | some a =>
            rw [getElem?_visit_self hmember,
              (h i a (List.mem_cons_self ..) hmember w.shared hs).2, Option.map_some]
      · have hmem : j ∈ i :: order ↔ j ∈ order := by
          rw [List.mem_cons, or_iff_right (Ne.symm hij)]
        rw [getElem?_visit_of_ne hij]
        exact if_congr hmem.symm rfl rfl

/-- **The order does not matter** for visits that do not feel one another. -/
theorem members_broadcast_eq {L : γ → Prop} {g : α → α} {order : List Nat}
    (horder : order.Perm (List.range w.members.length))
    (h : ∀ a ∈ w.members, ∀ s, L s → L (f s a).1 ∧ (f s a).2 = g a) (hs : L w.shared) :
    (broadcast f w order).members = w.members.map g := by
  have hnodup : order.Nodup := horder.nodup_iff.2 List.nodup_range
  apply List.ext_getElem?
  intro j
  rw [getElem?_broadcast hnodup (fun i a _ ha => h a (List.mem_of_getElem? ha)) hs,
    List.getElem?_map]
  split
  · rfl
  · next hj =>
      rw [horder.mem_iff, List.mem_range, Nat.not_lt] at hj
      rw [List.getElem?_eq_none hj]
      rfl

end Visits

/-- Of any two positions either can be the first and the other the second. -/
theorem exists_orders {n i j : Nat} (hi : i < n) (hj : j < n) (hne : i ≠ j) :
    ∃ order, (i :: j :: order).Perm (List.range n) ∧ (j :: i :: order).Perm (List.range n) ∧
      i ∉ order := by
  have hji : j ∈ (List.range n).erase i :=
    (List.mem_erase_of_ne (Ne.symm hne)).2 (List.mem_range.2 hj)
  have hperm : (i :: j :: ((List.range n).erase i).erase j).Perm (List.range n) :=
    ((List.perm_cons_erase hji).symm.cons i).trans
      (List.perm_cons_erase (List.mem_range.2 hi)).symm
  refine ⟨_, hperm, (List.Perm.swap _ _ _).trans hperm, ?_⟩
  have hnodup := hperm.nodup_iff.2 List.nodup_range
  intro hmem
  exact (List.nodup_cons.1 hnodup).1 (List.mem_cons_of_mem _ hmem)

end Broadcast
