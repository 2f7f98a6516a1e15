/-
**The display refines the result, as long as nothing goes wrong.**

Three layers hold what the user sees: the rows and the result in the private data, the properties
of the `QAction`, and the properties of each button.  The upper two are copies.  In a run in which
the authority never latches an error both copies are always true: the action shows the row its
result selects, and every button of the list shows what the action shows.  The second half needs
no assumption (`Panel.mirrors_step`); the first is carried from call to call here.

Main definitions:

* `PolkitQt.Gui.Action.Displays` — the action carries a result and shows its row;
* `PolkitQt.Gui.NoError` — no error is latched.

Main result:

* `PolkitQt.Gui.display_refined` — over every error-free run of an action, an action button or
  action buttons.
-/

import PolkitQt.ActionButton

set_option relaxedAutoImplicit false
set_option autoImplicit false

namespace PolkitQt

namespace Gui

open Runs

/-- No error is latched in the authority. -/
def NoError (authority : Authority.System) : Prop := authority.d.hasError = false

instance (authority : Authority.System) : Decidable (NoError authority) :=
  inferInstanceAs (Decidable (_ = _))

/-! ### The action -/

namespace Action

/-- The action carries a result, and shows the row it selects. -/
structure Displays (a : Action) : Prop where
  result : a.d.pkResult ≠ .unknown
  upToDate : a.UpToDate

/-- This depends on the private data and on what is shown. -/
theorem Displays.of_same {a a' : Action} (h : Displays a) (hd : a'.d = a.d)
    (hshown : a'.base.shown = a.base.shown) : Displays a' := by
  obtain ⟨hres, hup⟩ := h
  refine ⟨?_, ?_⟩
  · rw [hd]
    exact hres
  · unfold UpToDate at hup ⊢
    rw [hd, hshown]
    exact hup

/-- An action that asked and shows itself displays its result, unless an error is latched. -/
theorem displays_refresh (applicationPid : Int64) (authority : Authority.System) (a : Action)
    (reply : Reply .checkAuthorization)
    (herr : NoError (computePkResult applicationPid authority a reply).authority) :
    Displays (refresh (computePkResult applicationPid authority a reply)).action := by
  refine ⟨?_, upToDate_refresh herr⟩
  rw [refresh_d]
  intro hunknown
  have htrue := (unknown_iff_hasError applicationPid authority a reply).1 hunknown
  rw [herr] at htrue
  exact Bool.false_ne_true htrue

/-- **One call keeps the display**, if no error is latched after it. -/
theorem Displays.perform {applicationPid : Int64} {authority : Authority.System} {a : Action}
    (h : Displays a) (call : Call)
    (herr : NoError (Action.perform applicationPid authority a call).authority) :
    Displays (Action.perform applicationPid authority a call).action := by
  refine ⟨?_, upToDate_perform h.upToDate call herr⟩
  revert herr
  refine performed_elim fun o hdone herr => ?_
  cases hdone with
  | asked a' reply _ _ => exact (displays_refresh applicationPid authority a' reply herr).result
  | kept reply _ => exact h.result
  | edited states f _ =>
      unfold set
      rw [updateAction_d, Private.pkResult_edit]
      exact h.result
  | checked checked => exact h.result
  | activated => exact h.result

end Action

theorem displays_screen_step {applicationPid : Int64} {w : Screen} (h : w.action.Displays)
    (e : Screen.Event) (herr : NoError (Screen.step applicationPid w e).authority) :
    (Screen.step applicationPid w e).action.Displays := by
  cases e with
  | authority e => exact h
  | call call => exact h.perform call herr

/-! ### Action buttons -/

namespace ActionButton

variable {β : Type} [DecidableEq β]

/-- Adding a button may make the action checkable, which does not show. -/
theorem displays_addButton {s : ActionButton β} (h : s.action.Displays) (button : β) :
    (s.addButton button).action.Displays := by
  rw [addButton, updateButton]
  split
  · exact h
  · split
    · exact h.of_same rfl (QAction.shown_setCheckable s.action.base true)
    · exact h

theorem displays_setButtons {s : ActionButton β} (h : s.action.Displays) (buttons : List β) :
    (s.setButtons buttons).action.Displays := by
  induction buttons generalizing s with
  | nil => exact h
  | cons b bs ih => exact ih (displays_addButton h b)

theorem removeButton_action (s : ActionButton β) (button : β) :
    (s.removeButton button).action = s.action := by
  rw [removeButton]
  split <;> rfl

theorem removeButtons_action (s : ActionButton β) (buttons : List β) :
    (buttons.foldl removeButton s).action = s.action := by
  induction buttons generalizing s with
  | nil => rfl
  | cons b bs ih => rw [List.foldl_cons, ih, removeButton_action]

theorem displays_setButton {s : ActionButton β} (h : s.action.Displays) (button : β) :
    (s.setButton button).action.Displays := by
  refine displays_addButton ?_ button
  rw [removeButtons_action]
  exact h

end ActionButton

namespace Panel

variable {β : Type} [DecidableEq β]

theorem displays_step {applicationPid : Int64} {p : Panel β} (h : p.s.action.Displays)
    (e : Event β) (herr : NoError (step applicationPid p e).authority) :
    (step applicationPid p e).s.action.Displays := by
  cases e with
  | authority e => exact h
  | call call =>
      obtain ⟨-, hd, hshown⟩ := ActionButton.prepare_spec p.s call
      have hprepared : (p.s.prepare call).action.Displays := h.of_same hd hshown
      have hperformed := hprepared.perform call herr
      have haction : (step applicationPid p (.call call)).s.action =
          (Action.perform applicationPid p.authority (p.s.prepare call).action call).action :=
        (ActionButton.deliver_spec _ _).2
      rw [haction]
      exact hperformed
  | setButton button => exact ActionButton.displays_setButton h button
  | setButtons buttons => exact ActionButton.displays_setButtons h buttons
  | addButton button => exact ActionButton.displays_addButton h button
  | removeButton button =>
      have haction := ActionButton.removeButton_action p.s button
      exact h.of_same (congrArg Action.d haction) (congrArg (fun a => a.base.shown) haction)
  | click button checked => exact h

theorem displays_start {applicationPid : Int64} {authority : Authority.System} {pkResult : Result}
    {actionId : QString} {reply : Reply .checkAuthorization} {widget : β → QAbstractButton}
    {ctor : Ctor β}
    (herr : NoError (start applicationPid authority pkResult actionId reply widget ctor).authority) :
    (start applicationPid authority pkResult actionId reply widget ctor).s.action.Displays := by
  cases ctor with
  | actionButton button =>
      exact ActionButton.displays_setButton (Action.displays_refresh _ _ _ _ herr) button
  | actionButtons buttons =>
      exact ActionButton.displays_setButtons (Action.displays_refresh _ _ _ _ herr) buttons

end Panel

/-! ### Over a run -/

/-- **The display refines the result.**  In every run of an action, an action button or action
buttons in which the authority never latches an error: in every state reached the action carries a
result and shows the entries of the row it selects, and every button of the list shows the same. -/
theorem display_refined {β : Type} [DecidableEq β] (applicationPid : Int64)
    (authority : Authority.System) (pkResult : Result) (actionId : QString)
    (reply : Reply .checkAuthorization) :
    (∀ es : List Screen.Event,
      let w := Screen.start applicationPid authority pkResult actionId reply
      Always (Screen.step applicationPid) (fun w => NoError w.authority) w es →
        Always (Screen.step applicationPid) (fun w => w.action.Displays) w es) ∧
    ∀ (widget : β → QAbstractButton) (ctor : Panel.Ctor β) (es : List (Panel.Event β)),
      let p := Panel.start applicationPid authority pkResult actionId reply widget ctor
      Always (Panel.step applicationPid) (fun p => NoError p.authority) p es →
        Always (Panel.step applicationPid) (fun p => p.s.action.Displays ∧ p.s.Mirrors) p es := by
  refine ⟨?_, ?_⟩
  · intro es w herr
    have hinit : w.action.Displays := Action.displays_refresh _ _ _ _ herr.head
    refine Always.induct (P := fun w : Screen => w.action.Displays)
      (Q := fun w => NoError w.authority) ?_ hinit herr
    exact fun w e _ herr h => displays_screen_step h e herr
  · intro widget ctor es p herr
    have hinit : p.s.action.Displays ∧ p.s.Mirrors :=
      ⟨Panel.displays_start herr.head, Panel.mirrors_start _ _ _ _ _ _ _⟩
    refine Always.induct (P := fun p : Panel β => p.s.action.Displays ∧ p.s.Mirrors)
      (Q := fun p => NoError p.authority) ?_ hinit herr
    rintro p e _ herr ⟨hdisplays, hmirrors⟩
    exact ⟨Panel.displays_step hdisplays e herr, Panel.mirrors_step applicationPid hmirrors e⟩

/-- An action and two buttons: the answer changes from no to yes, and the text for yes is set. -/
theorem display_refined_two_buttons :
    let authority := Authority.System.start Authority.freshAuthority
    let no : Reply .checkAuthorization := .ok (some ⟨false, false⟩)
    let calls : List Action.Call := [.configChanged (.ok (some ⟨true, false⟩)),
      .setText (.ofUtf16 [0x4F, 0x4B]) State.yes.flag]
    let w := Screen.start 42 authority .unknown .null no
    let p := Panel.start 42 authority .unknown .null no
      (fun _ : Bool => ⟨true, true, .null, .null, .null, ⟨0⟩, false, false⟩)
      (.actionButtons [false, true])
    Always (Screen.step 42) (fun w => w.action.Displays) w (calls.map .call) ∧
      Always (Panel.step 42) (fun p => p.s.action.Displays ∧ p.s.Mirrors) p (calls.map .call) := by
  intro authority no calls w p
  obtain ⟨hscreen, hpanel⟩ := display_refined (β := Bool) 42 authority .unknown .null no
  refine ⟨hscreen _ ?_, hpanel _ _ _ ?_⟩
  · exact always_cons.2 ⟨rfl, always_cons.2 ⟨rfl, always_nil.2 rfl⟩⟩
  · exact always_cons.2 ⟨rfl, always_cons.2 ⟨rfl, always_nil.2 rfl⟩⟩

end Gui

end PolkitQt
