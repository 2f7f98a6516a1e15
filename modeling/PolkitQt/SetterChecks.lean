/-
**What the setters of appearance do to the checked state.**

The six setters show the action anew after they have changed a row, and showing an action whose
result is `Yes` sets its checked state too, to the opposite of the state `setChecked` remembered
last.  Whatever the user has checked since is undone.  The buttons are refreshed in turn, and a
checkable one takes over the state of the action.

Nothing of this depends on the property that is set, its value or the mask.

Main definitions:

* `PolkitQt.Gui.Screen.Move`, `PolkitQt.Gui.Screen.move` — an event, or anything done to the `QAction`
  from outside;
* `PolkitQt.Gui.Action.ChecksSettled` — showing the action does not check or uncheck it;
* `PolkitQt.Gui.Screen.SettersKeepChecked`, `PolkitQt.Gui.Panel.SettersKeepChecked`.

Main result:

* `PolkitQt.Gui.always_settersKeepChecked_iff` — the setters leave the checked states alone exactly
  while an error is latched or there is nothing to change.
-/

import PolkitQt.ActionSetters
import PolkitQt.ButtonChecks

set_option relaxedAutoImplicit false
set_option autoImplicit false

namespace PolkitQt

namespace Gui

open Runs Subscriptions

/-! ### The action -/

namespace Action

/-- If the result is `Yes` and the action is checkable, it has the state it would be put in. -/
def ChecksSettled (a : Action) : Prop :=
  a.d.pkResult = .yes → a.base.checkable = true → a.base.checked = !a.d.initiallyChecked

/-- The checked state after an action is shown. -/
theorem checked_updateAction (a : Action) : (updateAction false a).1.base.checked =
    if a.d.pkResult = .yes ∧ a.base.checkable = true then !a.d.initiallyChecked
      else a.base.checked := by
  unfold updateAction
  rw [if_neg Bool.false_ne_true]
  cases hres : a.d.pkResult with
  | yes =>
      have hshown : (showRow a.d.yes a.base).checkable = a.base.checkable := rfl
      dsimp only
      rw [hshown]
      cases hcheckable : a.base.checkable with
      | true => simp [QAction.checked_setChecked, hshown, hcheckable]
      | false => simp [showRow]
  | _ => simp [showRow]

theorem checked_updateAction_iff (a : Action) :
    (updateAction false a).1.base.checked = a.base.checked ↔ ChecksSettled a := by
  rw [checked_updateAction, ChecksSettled]
  split
  · next h => exact ⟨fun heq _ _ => heq.symm, fun hsettled => (hsettled h.1 h.2).symm⟩
  · next h => exact ⟨fun _ hres hcheckable => absurd ⟨hres, hcheckable⟩ h, fun _ => rfl⟩

/-- An action that keeps its checked state announces nothing but that its data changed. -/
theorem updateAction_signals_of_settled {a : Action} (h : ChecksSettled a) :
    (updateAction false a).2 = [.dataChanged] := by
  have hchecked := (checked_updateAction_iff a).2 h
  revert hchecked
  unfold updateAction
  rw [if_neg Bool.false_ne_true]
  cases a.d.pkResult with
  | yes =>
      dsimp only
      split
      · intro hchecked
        have hnone := (QAction.setChecked_eq_none_iff (showRow a.d.yes a.base) _).2 hchecked
        rw [hnone]
        rfl
      · exact fun _ => rfl
  | _ => exact fun _ => rfl

/-- The row that is changed has no part in it. -/
theorem checksSettled_edit {a : Action} (states : States) (f : Row → Row) :
    ChecksSettled { a with d := a.d.edit states f } ↔ ChecksSettled a := by
  unfold ChecksSettled
  dsimp only
  rw [Private.pkResult_edit, Private.initiallyChecked_edit]

/-- A setter is `set`. -/
theorem perform_of_edit? {call : Call} {states : States} {f : Row → Row}
    (h : call.edit? = some (states, f)) (applicationPid : Int64) (authority : Authority.System)
    (a : Action) : perform applicationPid authority a call = set authority a states f := by
  refine performed_elim fun o hdone => ?_
  cases hdone with
  | asked a' reply hnone _ =>
      rw [h] at hnone
      simp at hnone
  | kept reply _ => simp [Call.edit?] at h
  | edited states' f' h' =>
      rw [h] at h'
      obtain ⟨rfl, rfl⟩ := Prod.mk.inj (Option.some.inj h')
      rfl
  | checked checked => simp [Call.edit?] at h
  | activated => simp [Call.edit?] at h

/-- **A setter keeps the checked state exactly if an error is latched or nothing is to be
changed.** -/
theorem checked_set_iff (authority : Authority.System) (a : Action) (states : States)
    (f : Row → Row) : (set authority a states f).action.base.checked = a.base.checked ↔
      authority.d.hasError = true ∨ ChecksSettled a := by
  unfold set
  cases authority.d.hasError with
  | true => simp
  | false =>
      rw [← checksSettled_edit states f, ← checked_updateAction_iff]
      simp

end Action

/-! ### An action, and what happens outside -/

namespace Screen

/-- An event, or whatever the user and the application do to the `QAction`. -/
inductive Move
  | event (e : Event)
  | outside (base : QAction)

def move (applicationPid : Int64) (w : Screen) : Move → Screen
  | .event e => step applicationPid w e
  | .outside base => { w with action := { w.action with base := base } }

/-- Each of the six setters, with any value and any mask, leaves the checked state alone. -/
def SettersKeepChecked (applicationPid : Int64) (w : Screen) : Prop :=
  ∀ call : Action.Call, call.edit?.isSome →
    (step applicationPid w (.call call)).action.base.checked = w.action.base.checked

theorem settersKeepChecked_iff (applicationPid : Int64) (w : Screen) :
    SettersKeepChecked applicationPid w ↔
      w.authority.d.hasError = true ∨ w.action.ChecksSettled := by
  constructor
  · intro h
    exact (Action.checked_set_iff w.authority w.action 0 _).1 (h (.setText .null 0) rfl)
  · intro h call hcall
    obtain ⟨⟨states, f⟩, hedit⟩ := Option.isSome_iff_exists.1 hcall
    show (Action.perform applicationPid w.authority w.action call).action.base.checked = _
    rw [Action.perform_of_edit? hedit]
    exact (Action.checked_set_iff w.authority w.action states f).2 h

end Screen

/-! ### Action buttons -/

namespace Panel

variable {β : Type} [DecidableEq β]

/-- Each of the six setters, with any value and any mask, leaves alone the checked state of the
action and of the listed buttons. -/
def SettersKeepChecked (applicationPid : Int64) (p : Panel β) : Prop :=
  ∀ call : Action.Call, call.edit?.isSome →
    let p' := step applicationPid p (.call call)
    p'.s.action.base.checked = p.s.action.base.checked ∧
      ∀ b ∈ p.s.buttons, (p'.s.widget b).checked = (p.s.widget b).checked

/-- What a setter does to an action button. -/
theorem step_of_edit? {call : Action.Call} {states : States} {f : Row → Row}
    (h : call.edit? = some (states, f)) (applicationPid : Int64) (p : Panel β) :
    (step applicationPid p (.call call)).s =
      ActionButton.deliver { p.s with action := (Action.set p.authority p.s.action states f).action }
        (Action.set p.authority p.s.action states f).signals := by
  have hprepare : p.s.prepare call = p.s := by
    cases call with
    | activate => simp [Action.Call.edit?] at h
    | _ => rfl
  show (p.perform applicationPid call).1.s = _
  unfold perform
  rw [hprepare]
  dsimp only
  rw [Action.perform_of_edit? h]

/-- A refreshed button has the state of the action if it is checkable. -/
theorem checked_refreshButton (q : Action) (ent : QAbstractButton) :
    (ActionButton.refreshButton q ent).checked =
      if ent.checkable then q.base.checked else ent.checked := by
  unfold ActionButton.refreshButton
  dsimp only
  cases hcheckable : ent.checkable with
  | true => simp [QAbstractButton.checked_setChecked]
  | false => simp

/-- Refreshing the buttons leaves their checked states alone exactly if they are in step. -/
theorem checked_updateButton_iff (s : ActionButton β) :
    (∀ b ∈ s.buttons, (s.updateButton.widget b).checked = (s.widget b).checked) ↔
      s.Synchronized := by
  constructor
  · intro h b hb hcheckable
    rw [← h b hb]
    -- once refreshed a checkable button stays so, and has the state of the action
    have hafter : (s.updateButton.widget b).checkable = true :=
      (s.sameCheckable_updateButton.widget b hb).trans hcheckable
    exact notify_establishes (P := fun ent => ent.checkable = true →
      ent.checked = s.action.base.checked) (fun ent hent => by
        rw [ActionButton.checkable_refreshButton] at hent
        rw [checked_refreshButton, if_pos hent]) s.widget hb hafter
  · intro h b hb
    refine (notify_preserves (P := fun ent : QAbstractButton =>
      ent.checked = (s.widget b).checked ∧ ent.checkable = (s.widget b).checkable) ?_ s.buttons
        ⟨rfl, rfl⟩).1
    rintro ent ⟨hchecked, hcheckable⟩
    refine ⟨?_, (ActionButton.checkable_refreshButton s.action ent).trans hcheckable⟩
    rw [checked_refreshButton]
    split
    · next hent => exact (h b hb (hcheckable.symm.trans hent)).symm
    · exact hchecked

/-- One setter. -/
theorem checked_setter_iff (applicationPid : Int64) (p : Panel β) {call : Action.Call}
    {states : States} {f : Row → Row} (hedit : call.edit? = some (states, f)) :
    ((step applicationPid p (.call call)).s.action.base.checked = p.s.action.base.checked ∧
        ∀ b ∈ p.s.buttons,
          ((step applicationPid p (.call call)).s.widget b).checked = (p.s.widget b).checked) ↔
      p.authority.d.hasError = true ∨ (p.s.action.ChecksSettled ∧ p.s.Synchronized) := by
  have hset := Action.checked_set_iff p.authority p.s.action states f
  rw [step_of_edit? hedit, (ActionButton.deliver_spec _ _).2]
  cases herr : p.authority.d.hasError with
  | true =>
      -- nothing is shown and nothing is announced
      have hsignals : (Action.set p.authority p.s.action states f).signals = [] := by
        rw [Action.set, herr]
        rfl
      rw [hsignals]
      exact ⟨fun _ => Or.inl rfl, fun _ => ⟨hset.2 (Or.inl herr), fun _ _ => rfl⟩⟩
  | false =>
      rw [herr] at hset
      simp only [Bool.false_eq_true, false_or] at hset ⊢
      rw [hset]
      refine and_congr_right fun hsettled => ?_
      have hsignals : (Action.set p.authority p.s.action states f).signals = [.dataChanged] := by
        rw [Action.set, herr]
        exact Action.updateAction_signals_of_settled
          ((Action.checksSettled_edit states f).2 hsettled)
      rw [hsignals]
      have hupdate := checked_updateButton_iff
        { p.s with action := (Action.set p.authority p.s.action states f).action }
      have hsync : ActionButton.Synchronized
          { p.s with action := (Action.set p.authority p.s.action states f).action } ↔
          p.s.Synchronized := by
        unfold ActionButton.Synchronized
        dsimp only
        rw [hset.2 hsettled]
      exact hupdate.trans hsync

theorem settersKeepChecked_iff (applicationPid : Int64) (p : Panel β) :
    SettersKeepChecked applicationPid p ↔
      p.authority.d.hasError = true ∨ (p.s.action.ChecksSettled ∧ p.s.Synchronized) := by
  constructor
  · intro h
    exact (checked_setter_iff applicationPid p rfl).1 (h (.setText .null 0) rfl)
  · intro h call hcall
    obtain ⟨⟨states, f⟩, hedit⟩ := Option.isSome_iff_exists.1 hcall
    exact (checked_setter_iff applicationPid p hedit).2 h

end Panel

/-! ### Over a run -/

/-- **The setters of appearance leave the checked states alone exactly while there is nothing to
change.**  Over every run of an action, and of an action button or action buttons, from the
constructor on, with anything done to the action and the buttons from outside: in every state
reached each of the six setters, with any value and any mask, leaves the checked state of the action
and of all listed buttons as it is if and only if in every state reached an error is latched, or the
action has the state it would be put in (if its result is `Yes` and it is checkable, the opposite
of the state remembered) and every checkable button of the list has the state of the action. -/
theorem always_settersKeepChecked_iff {β : Type} [DecidableEq β] (applicationPid : Int64)
    (authority : Authority.System) (pkResult : Result) (actionId : QString)
    (reply : Reply .checkAuthorization) :
    (∀ ms : List Screen.Move,
      let w₀ := Screen.start applicationPid authority pkResult actionId reply
      Always (Screen.move applicationPid) (Screen.SettersKeepChecked applicationPid) w₀ ms ↔
        Always (Screen.move applicationPid)
          (fun w => w.authority.d.hasError = true ∨ w.action.ChecksSettled) w₀ ms) ∧
    ∀ (widget : β → QAbstractButton) (ctor : Panel.Ctor β) (ms : List (Panel.Move β)),
      let p₀ := Panel.start applicationPid authority pkResult actionId reply widget ctor
      Always (Panel.move applicationPid) (Panel.SettersKeepChecked applicationPid) p₀ ms ↔
        Always (Panel.move applicationPid)
          (fun p => p.authority.d.hasError = true ∨
            (p.s.action.ChecksSettled ∧ p.s.Synchronized)) p₀ ms := by
  refine ⟨fun ms => ?_, fun widget ctor ms => ?_⟩
  · exact always_congr (Screen.settersKeepChecked_iff applicationPid) _ ms
  · exact always_congr (Panel.settersKeepChecked_iff applicationPid) _ ms

/-- polkit says yes.  An action that was made checkable is checked when its text is set, and so is
one with a check box. -/
theorem text_checks_action :
    let w₀ := Screen.start 42 (Authority.System.start Authority.freshAuthority) .unknown .null
      (.ok (some ⟨true, false⟩))
    let p₀ := Panel.start 42 (Authority.System.start Authority.freshAuthority) .unknown .null
      (.ok (some ⟨true, false⟩))
      (fun _ : Unit => ⟨true, true, .null, .null, .null, ⟨0⟩, true, false⟩) (.actionButton ())
    ¬ Always (Screen.move 42) (Screen.SettersKeepChecked 42) w₀
        [.outside (w₀.action.base.setCheckable true)] ∧
      ¬ Always (Panel.move 42) (Panel.SettersKeepChecked 42) p₀ [] := by
  intro w₀ p₀
  refine ⟨fun h => ?_, fun h => ?_⟩
  · exact absurd (h.last (.setText .null 0) rfl) (by decide)
  · exact absurd (h.last (.setText .null 0) rfl).1 (by decide)

end Gui

end PolkitQt
