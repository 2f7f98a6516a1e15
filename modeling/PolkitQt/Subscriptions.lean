/-
**Subscribers: a list of objects and the connections that go with it.**

A component that drives other objects often keeps them in a list and, beside it, a list of
connections over which it notifies them.  Connecting adds one connection; disconnecting an object
removes all it has; a notification reaches an object as often as it is connected.  This module
says when the connections match the list and what a notification does.  Nothing here is about a
particular program.

Main definitions:

* `Subscriptions.notify` — every subscriber is changed by `f`, once for each entry of the list;
* `Subscriptions.Exact` — each object of the list has one connection and no other object has any.

Main results:

* `Subscriptions.notify_apply` — how often a subscriber is changed;
* `Subscriptions.Exact.connect`, `Subscriptions.Exact.disconnect` — adding new objects and removing
  an object keep the connections exact.
-/

import Mathlib.Logic.Function.Iterate
import Mathlib.Data.List.Nodup

set_option relaxedAutoImplicit false
set_option autoImplicit false

namespace Subscriptions

variable {β ω : Type*} [DecidableEq β]

/-! ### Notification -/

/-- Changes the state of each subscriber in turn. -/
def notify (f : ω → ω) (l : List β) (w : β → ω) : β → ω :=
  l.foldl (fun w b => Function.update w b (f (w b))) w

/-- A subscriber is changed once for each time it is listed. -/
theorem notify_apply (f : ω → ω) (l : List β) (w : β → ω) (b : β) :
    notify f l w b = f^[l.count b] (w b) := by
  induction l generalizing w with
  | nil => rfl
  | cons c l ih =>
      have hstep : notify f (c :: l) w = notify f l (Function.update w c (f (w c))) := rfl
      rw [hstep, ih, List.count_cons]
      by_cases hcb : c = b
      · subst hcb
        rw [Function.update_self, beq_self_eq_true, if_pos rfl, Function.iterate_succ_apply]
      · have hne : (c == b) = false := beq_eq_false_iff_ne.2 hcb
        rw [Function.update_of_ne (Ne.symm hcb), hne, if_neg Bool.false_ne_true, Nat.add_zero]

/-- Whoever is not listed is left alone. -/
theorem notify_of_not_mem {l : List β} {b : β} (h : b ∉ l) (f : ω → ω) (w : β → ω) :
    notify f l w b = w b := by
  rw [notify_apply, List.count_eq_zero_of_not_mem h]
  rfl

/-- What a change preserves, a notification preserves. -/
theorem notify_preserves {P : ω → Prop} {f : ω → ω} (hf : ∀ x, P x → P (f x)) (l : List β)
    {w : β → ω} {b : β} (h : P (w b)) : P (notify f l w b) := by
  rw [notify_apply]
  exact Function.Iterate.rec P h hf _

/-- A part of the state that a change leaves alone is left alone by a notification. -/
theorem notify_keeps {γ : Type*} (g : ω → γ) {f : ω → ω} (hf : ∀ x, g (f x) = g x) (l : List β)
    (w : β → ω) (b : β) : g (notify f l w b) = g (w b) :=
  notify_preserves (P := fun x => g x = g (w b)) (fun x hx => (hf x).trans hx) l rfl

/-- What a change establishes, a notification establishes for everyone listed. -/
theorem notify_establishes {P : ω → Prop} {f : ω → ω} (hf : ∀ x, P (f x)) {l : List β}
    (w : β → ω) {b : β} (h : b ∈ l) : P (notify f l w b) := by
  have hpos : 0 < l.count b := List.count_pos_iff.2 h
  obtain ⟨n, hn⟩ : ∃ n, l.count b = n + 1 := ⟨l.count b - 1, by omega⟩
  rw [notify_apply, hn, Function.iterate_succ_apply']
  exact hf _

/-! ### Exact connections -/

/-- Each object of the list has exactly one connection, and no other object has any. -/
def Exact (l conns : List β) : Prop := ∀ b, conns.count b = if b ∈ l then 1 else 0

theorem exact_nil : Exact ([] : List β) [] := fun b => by simp

/-- An object that is not in the list has no connection. -/
theorem Exact.not_mem {l conns : List β} (h : Exact l conns) {b : β} (hb : b ∉ l) :
    b ∉ conns := by
  have hcount := h b
  rw [if_neg hb] at hcount
  exact List.count_eq_zero.1 hcount

/-- Objects that are new and distinct are connected once each. -/
theorem Exact.connect {l conns bs : List β} (h : Exact l conns) (hnodup : (l ++ bs).Nodup) :
    Exact (l ++ bs) (conns ++ bs) := by
  obtain ⟨-, hbs, hdisj⟩ := List.nodup_append.1 hnodup
  intro b
  rw [List.count_append, h b]
  by_cases hl : b ∈ l
  · have hb : b ∉ bs := fun hb => hdisj b hl b hb rfl
    rw [if_pos hl, List.count_eq_zero_of_not_mem hb, if_pos (List.mem_append_left _ hl)]
  · by_cases hb : b ∈ bs
    · rw [if_neg hl, List.count_eq_one_of_mem hbs hb, if_pos (List.mem_append_right _ hb)]
    · have hnot : b ∉ l ++ bs := by simp [hl, hb]
      rw [if_neg hl, List.count_eq_zero_of_not_mem hb, if_neg hnot]

/-- An object that is removed from a list without repetitions loses all its connections. -/
theorem Exact.disconnect {l conns : List β} (h : Exact l conns) (hnodup : l.Nodup) (b : β) :
    Exact (l.erase b) (conns.filter fun c => c ≠ b) := by
  intro c
  by_cases hcb : c = b
  · subst hcb
    have hgone : c ∉ l.erase c := List.Nodup.not_mem_erase hnodup
    rw [if_neg hgone, List.count_eq_zero]
    simp
  · have hsame : (conns.filter fun c => c ≠ b).count c = conns.count c :=
      List.count_filter (by simpa using hcb)
    rw [hsame, h c]
    simp only [List.mem_erase_of_ne hcb]

end Subscriptions
