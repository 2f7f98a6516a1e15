/-
**The checked state of an action and its buttons.**

A button is not connected to the checked state of its action, it is told to toggle whenever the
action is toggled.  So the two agree after a toggle if they agreed before and the button is
connected once.  `ActionButton::activate` sees to the first: it sets every checkable button to the
state of the action before it toggles the action.  That the action can be toggled at all, when one
of its buttons can, is what `addButton` sees to.

Only after the toggle does `Action::activate` decide whether the action is authorized; a refusal
comes too late to undo it.

Besides the calls of the library, the user and the application act on the action and on the
buttons, which are Qt objects of their own; here they may do so between any two events.

Main definitions:

* `PolkitQt.Gui.Panel.Move`, `PolkitQt.Gui.Panel.move` — an event, or anything done to the Qt objects
  from outside;
* `PolkitQt.Gui.Panel.KeepsCheckable` — what is done from outside leaves alone whether the action
  and the listed buttons are checkable;
* `PolkitQt.Gui.ActionButton.CheckableTogether` — the listed buttons are checkable if and only if
  the action is;
* `PolkitQt.Gui.RefusesCleanly`, `PolkitQt.Gui.NothingToToggle`.

Main results:

* `PolkitQt.Gui.activate_synchronizes` — **activation negates the action and brings all checkable
  buttons in line**;
* `PolkitQt.Gui.refusesCleanly_iff` — a refused activation changes nothing exactly when it had
  nothing to toggle.
-/

import PolkitQt.ActionButton

set_option relaxedAutoImplicit false
set_option autoImplicit false

namespace PolkitQt

namespace Gui

open Runs Subscriptions

/-! ### What stays checkable -/

namespace Action

/-- Showing an action does not change whether it is checkable. -/
theorem checkable_updateAction (hasError : Bool) (a : Action) :
    (updateAction hasError a).1.base.checkable = a.base.checkable := by
  unfold updateAction
  split
  · rfl
  · cases a.d.pkResult with
    | yes =>
        dsimp only
        split
        · exact QAction.checkable_setChecked _ _
        · rfl
    | _ => rfl

theorem checkable_perform (applicationPid : Int64) (authority : Authority.System) (a : Action)
    (call : Call) :
    (perform applicationPid authority a call).action.base.checkable = a.base.checkable := by
  refine performed_elim fun o hdone => ?_
  cases hdone with
  | asked a' reply _ hbase =>
      rw [← hbase]
      exact checkable_updateAction _ _
  | kept reply _ => rfl
  | edited states f _ => exact checkable_updateAction _ _
  | checked checked => exact QAction.checkable_setChecked _ _
  | activated => rfl

end Action

namespace ActionButton

variable {β : Type}

/-- The listed buttons are the same in both, and they and the action are checkable in both or in
neither. -/
structure SameCheckable (s s' : ActionButton β) : Prop where
  buttons : s'.buttons = s.buttons
  action : s'.action.base.checkable = s.action.base.checkable
  widget : ∀ b ∈ s.buttons, (s'.widget b).checkable = (s.widget b).checkable

theorem SameCheckable.refl (s : ActionButton β) : SameCheckable s s :=
  ⟨rfl, rfl, fun _ _ => rfl⟩

theorem SameCheckable.trans {s t u : ActionButton β} (h : SameCheckable s t)
    (h' : SameCheckable t u) : SameCheckable s u := by
  refine ⟨h'.buttons.trans h.buttons, h'.action.trans h.action, ?_⟩
  intro b hb
  exact (h'.widget b (h.buttons ▸ hb)).trans (h.widget b hb)

/-- Every listed button is checkable if the action is, and the action is if a listed button is,
apart from the buttons `pending`, which are still to be added. -/
structure CheckableUpTo (pending : List β) (s : ActionButton β) : Prop where
  action : ∀ b ∈ s.buttons, (s.widget b).checkable = true →
    s.action.base.checkable = true ∨ b ∈ pending
  buttons : s.action.base.checkable = true → ∀ b ∈ s.buttons, (s.widget b).checkable = true

/-- **Some listed button is checkable only if the action is, and all are if the action is.** -/
structure CheckableTogether (s : ActionButton β) : Prop where
  action : (∃ b ∈ s.buttons, (s.widget b).checkable = true) → s.action.base.checkable = true
  buttons : s.action.base.checkable = true → ∀ b ∈ s.buttons, (s.widget b).checkable = true

theorem CheckableTogether.upTo {s : ActionButton β} (h : CheckableTogether s) (pending : List β) :
    CheckableUpTo pending s :=
  ⟨fun b hb hcheckable => Or.inl (h.action ⟨b, hb, hcheckable⟩), h.buttons⟩

theorem CheckableUpTo.together {s : ActionButton β} (h : CheckableUpTo [] s) :
    CheckableTogether s := by
  refine ⟨?_, h.buttons⟩
  rintro ⟨b, hb, hcheckable⟩
  rcases h.action b hb hcheckable with hq | hpending
  · exact hq
  · exact absurd hpending List.not_mem_nil

theorem SameCheckable.upTo {s s' : ActionButton β} (h : SameCheckable s s') {pending : List β}
    (hs : CheckableUpTo pending s) : CheckableUpTo pending s' := by
  obtain ⟨hbuttons, haction, hwidget⟩ := h
  refine ⟨?_, ?_⟩
  · intro b hb hcheckable
    rw [hbuttons] at hb
    rw [hwidget b hb] at hcheckable
    rw [haction]
    exact hs.action b hb hcheckable
  · intro hcheckable b hb
    rw [hbuttons] at hb
    rw [haction] at hcheckable
    rw [hwidget b hb]
    exact hs.buttons hcheckable b hb

theorem SameCheckable.together {s s' : ActionButton β} (h : SameCheckable s s')
    (hs : CheckableTogether s) : CheckableTogether s' := (h.upTo (hs.upTo [])).together

variable [DecidableEq β]

/-- A notification that changes no checkability. -/
theorem sameCheckable_notify (s : ActionButton β) {f : QAbstractButton → QAbstractButton}
    (hf : ∀ ent, (f ent).checkable = ent.checkable) (l : List β) :
    SameCheckable s { s with widget := notify f l s.widget } :=
  ⟨rfl, rfl, fun b _ => notify_keeps QAbstractButton.checkable hf l s.widget b⟩

theorem checkable_reset (checked : Bool) (ent : QAbstractButton) :
    (if ent.checkable then ent.setChecked checked else ent).checkable = ent.checkable := by
  split
  · exact QAbstractButton.checkable_setChecked ent checked
  · rfl

theorem checkable_refreshButton (q : Action) (ent : QAbstractButton) :
    (refreshButton q ent).checkable = ent.checkable := checkable_reset q.base.checked _

theorem sameCheckable_updateButton (s : ActionButton β) : SameCheckable s s.updateButton :=
  sameCheckable_notify s (checkable_refreshButton s.action) s.buttons

theorem sameCheckable_deliver (s : ActionButton β) (signals : List Signal) :
    SameCheckable s (s.deliver signals) := by
  induction signals generalizing s with
  | nil => exact SameCheckable.refl s
  | cons signal signals ih =>
      refine SameCheckable.trans ?_ (ih (s.deliverOne signal))
      cases signal with
      | toggled checked =>
          exact sameCheckable_notify s QAbstractButton.checkable_toggle s.toggled
      | dataChanged => exact sameCheckable_updateButton s
      | authorized => exact SameCheckable.refl s

theorem sameCheckable_resync (s : ActionButton β) : SameCheckable s s.resync := by
  have hreset := sameCheckable_notify s (checkable_reset s.action.base.checked) s.buttons
  rw [resync]
  split
  · refine SameCheckable.trans ?_ (sameCheckable_deliver _ _)
    exact ⟨rfl, QAction.checkable_setChecked _ _, hreset.widget⟩
  · exact hreset

theorem sameCheckable_prepare (s : ActionButton β) (call : Action.Call) :
    SameCheckable s (s.prepare call) := by
  cases call with
  | activate => exact sameCheckable_resync s
  | _ => exact SameCheckable.refl s

/-! ### Adding and removing -/

/-- **A button that is added is no longer pending.** -/
theorem CheckableUpTo.addButton {s : ActionButton β} {button : β} {pending : List β}
    (h : CheckableUpTo (button :: pending) s) : CheckableUpTo pending (s.addButton button) := by
  rw [ActionButton.addButton]
  refine (sameCheckable_updateButton _).upTo ?_
  split
  · next hq =>
      -- the button follows the action
      refine ⟨fun b _ _ => Or.inl hq, ?_⟩
      intro _ b hb
      by_cases hbutton : b = button
      · subst hbutton
        simp
      · have hold : b ∈ s.buttons := by simpa [hbutton] using hb
        simpa [hbutton] using h.buttons hq b hold
  · next hq =>
      split
      · -- the action follows the button, and so do all the others
        refine ⟨fun b _ _ => Or.inl (QAction.checkable_setCheckable _ _), ?_⟩
        intro _ b hb
        exact notify_establishes (P := fun ent => ent.checkable = true)
          (fun ent => QAbstractButton.checkable_setCheckable ent true) s.widget hb
      · next hbutton =>
          refine ⟨?_, fun hq' => absurd hq' hq⟩
          intro b hb hcheckable
          rcases List.mem_append.1 hb with hold | hnew
          · rcases h.action b hold hcheckable with hq' | hpending
            · exact Or.inl hq'
            · rcases List.mem_cons.1 hpending with rfl | hlater
              · exact absurd hcheckable hbutton
              · exact Or.inr hlater
          · rw [List.mem_singleton.1 hnew] at hcheckable
            exact absurd hcheckable hbutton

theorem CheckableUpTo.setButtons {s : ActionButton β} {buttons : List β}
    (h : CheckableUpTo buttons s) : CheckableTogether (s.setButtons buttons) := by
  induction buttons generalizing s with
  | nil => exact h.together
  | cons b bs ih => exact ih h.addButton

theorem CheckableTogether.addButton {s : ActionButton β} (h : CheckableTogether s) (button : β) :
    CheckableTogether (s.addButton button) := (h.upTo [button]).addButton.together

/-- Removing a button changes no checkability and adds nothing to the list. -/
theorem CheckableTogether.removeButton {s : ActionButton β} (h : CheckableTogether s)
    (button : β) : CheckableTogether (s.removeButton button) := by
  rw [ActionButton.removeButton]
  split
  · refine ⟨?_, ?_⟩
    · rintro ⟨b, hb, hcheckable⟩
      exact h.action ⟨b, List.mem_of_mem_erase hb, hcheckable⟩
    · intro hq b hb
      exact h.buttons hq b (List.mem_of_mem_erase hb)
  · exact h

theorem CheckableTogether.setButton {s : ActionButton β} (h : CheckableTogether s) (button : β) :
    CheckableTogether (s.setButton button) := by
  have hremoved : ∀ l : List β, CheckableTogether (l.foldl ActionButton.removeButton s) := by
    intro l
    induction l generalizing s with
    | nil => exact h
    | cons b l ih => exact ih (h.removeButton b)
  exact (hremoved s.buttons).addButton button

end ActionButton

/-! ### Events, and what happens outside -/

namespace Panel

variable {β : Type}

/-- An event, or whatever the user and the application do to the `QAction` and to the buttons. -/
inductive Move (β : Type)
  | event (e : Event β)
  | outside (base : QAction) (widget : β → QAbstractButton)

/-- From outside the action and the buttons can be changed in any way. -/
def touch (p : Panel β) (base : QAction) (widget : β → QAbstractButton) : Panel β :=
  { p with s := { p.s with action := { p.s.action with base := base }, widget := widget } }

/-- What is done from outside does not make the action or a listed button checkable, nor the
reverse. -/
def KeepsCheckable (p : Panel β) : Move β → Prop
  | .event _ => True
  | .outside base widget => base.checkable = p.s.action.base.checkable ∧
      ∀ b ∈ p.s.buttons, (widget b).checkable = (p.s.widget b).checkable

variable [DecidableEq β]

def move (applicationPid : Int64) (p : Panel β) : Move β → Panel β
  | .event e => step applicationPid p e
  | .outside base widget => p.touch base widget

/-- A call on the action changes no list and no checkability. -/
theorem sameCheckable_perform (applicationPid : Int64) (p : Panel β) (call : Action.Call) :
    ActionButton.SameCheckable p.s (p.perform applicationPid call).1.s := by
  have hprepare := ActionButton.sameCheckable_prepare p.s call
  have haction := Action.checkable_perform applicationPid p.authority (p.s.prepare call).action call
  have hperformed : ActionButton.SameCheckable p.s { p.s.prepare call with action :=
      (Action.perform applicationPid p.authority (p.s.prepare call).action call).action } :=
    ⟨hprepare.buttons, haction.trans hprepare.action, hprepare.widget⟩
  exact hperformed.trans (ActionButton.sameCheckable_deliver _ _)

theorem checkableTogether_step (applicationPid : Int64) {p : Panel β}
    (h : p.s.CheckableTogether) (e : Event β) : (step applicationPid p e).s.CheckableTogether := by
  cases e with
  | authority e => exact h
  | call call => exact (sameCheckable_perform applicationPid p call).together h
  | setButton button => exact h.setButton button
  | setButtons buttons => exact (h.upTo buttons).setButtons
  | addButton button => exact h.addButton button
  | removeButton button => exact h.removeButton button
  | click button checked => exact h

/-- A move that keeps what is checkable keeps the buttons in step with the action. -/
theorem checkableTogether_move (applicationPid : Int64) {p : Panel β}
    (h : p.s.CheckableTogether) {m : Move β} (hm : KeepsCheckable p m) :
    (move applicationPid p m).s.CheckableTogether := by
  cases m with
  | event e => exact checkableTogether_step applicationPid h e
  | outside base widget =>
      obtain ⟨hbase, hwidget⟩ := hm
      have hsame : ActionButton.SameCheckable p.s (p.touch base widget).s := ⟨rfl, hbase, hwidget⟩
      exact hsame.together h

/-- The constructors: the action is not checkable when the first button comes. -/
theorem checkableTogether_start (applicationPid : Int64) (authority : Authority.System)
    (pkResult : Result) (actionId : QString) (reply : Reply .checkAuthorization)
    (widget : β → QAbstractButton) (ctor : Ctor β) :
    (start applicationPid authority pkResult actionId reply widget ctor).s.CheckableTogether := by
  let o := Action.construct applicationPid authority pkResult actionId reply
  have hq : o.action.base.checkable = false := Action.checkable_updateAction _ _
  -- the buttons the constructor lists beforehand are the ones it then adds
  have hlisted : ∀ bs : List β,
      ActionButton.CheckableUpTo bs ⟨o.action, bs, [], [], widget⟩ := by
    intro bs
    refine ⟨fun b hb _ => Or.inr hb, fun htrue => ?_⟩
    exact absurd (htrue.symm.trans hq) (by decide)
  cases ctor with
  | actionButton button =>
      have hadded : ActionButton.CheckableTogether (ActionButton.addButton
          ⟨o.action, [], [], [], widget⟩ button) := by
        refine ActionButton.CheckableTogether.addButton ⟨?_, ?_⟩ button
        · rintro ⟨b, hb, -⟩
          exact absurd hb List.not_mem_nil
        · exact fun _ b hb => absurd hb List.not_mem_nil
      have hstart : (start applicationPid authority pkResult actionId reply widget
          (.actionButton button)).s =
          ActionButton.addButton ⟨o.action, [], [], [], widget⟩ button := by
        simp [start, ActionButton.setButton, ActionButton.removeButton, o]
      rw [hstart]
      exact hadded
  | actionButtons buttons => exact (hlisted buttons).setButtons

end Panel

/-! ### Activation -/

namespace ActionButton

variable {β : Type} [DecidableEq β]

/-- Some listed button is checkable. -/
def HasCheckable (s : ActionButton β) : Prop := ∃ b ∈ s.buttons, (s.widget b).checkable = true

instance (s : ActionButton β) : Decidable s.HasCheckable :=
  inferInstanceAs (Decidable (∃ b ∈ s.buttons, (s.widget b).checkable = true))

/-- Every checkable button of the list has the checked state of the action. -/
def Synchronized (s : ActionButton β) : Prop :=
  ∀ b ∈ s.buttons, (s.widget b).checkable = true → (s.widget b).checked = s.action.base.checked

/-- The buttons go back to the state of the action. -/
theorem checked_reset (checked : Bool) (ent : QAbstractButton) (h : ent.checkable = true) :
    (if ent.checkable then ent.setChecked checked else ent).checked = checked := by
  rw [if_pos h, QAbstractButton.checked_setChecked, if_pos h]

/-- The state `resync` puts the buttons in before it toggles the action. -/
def reset (s : ActionButton β) : ActionButton β :=
  { s with widget := notify (fun ent : QAbstractButton =>
      if ent.checkable then ent.setChecked s.action.base.checked else ent) s.buttons s.widget }

theorem synchronized_reset (s : ActionButton β) : s.reset.Synchronized := by
  intro b hb hcheckable
  have hbefore : (s.widget b).checkable = true :=
    (notify_keeps QAbstractButton.checkable (checkable_reset s.action.base.checked) s.buttons
      s.widget b).symm.trans hcheckable
  exact (notify_establishes (P := fun ent => ent.checkable = true →
    ent.checked = s.action.base.checked) (fun ent hent => checked_reset _ ent
      ((checkable_reset _ ent).symm.trans hent)) s.widget hb) hcheckable

/-- With no button that can be toggled, or an action that cannot, nothing is toggled. -/
theorem resync_eq_reset {s : ActionButton β}
    (h : ¬ s.HasCheckable ∨ s.action.base.checkable = false) : s.resync = s.reset := by
  rw [resync]
  split
  · next hany =>
      rcases h with hnone | hq
      · exact absurd (List.any_eq_true.1 hany) hnone
      · -- `toggle()` on an action that is not checkable does nothing and tells nobody
        simp only [QAction.toggle_of_not_checkable hq]
        rfl
  · rfl

/-- Otherwise the action is negated, and the buttons that are connected are toggled. -/
theorem resync_of_toggle {s : ActionButton β} (h : s.HasCheckable)
    (hq : s.action.base.checkable = true) :
    s.resync =
      { s with
        action := { s.action with
          base := { s.action.base with checked := !s.action.base.checked } }
        widget := notify QAbstractButton.toggle s.toggled s.reset.widget } := by
  have hany : (s.buttons.any fun ent => (s.widget ent).checkable) = true := List.any_eq_true.2 h
  rw [resync, if_pos hany]
  simp only [QAction.toggle_of_checkable hq]
  rfl

/-- A checkable button with one connection follows a toggle of the action. -/
theorem checked_toggled_once {s : ActionButton β} {b : β} (hb : b ∈ s.buttons)
    (hcheckable : (s.widget b).checkable = true) (hcount : s.toggled.count b = 1) :
    (notify QAbstractButton.toggle s.toggled s.reset.widget b).checked =
      !s.action.base.checked := by
  have hreset : (s.reset.widget b).checkable = true :=
    (notify_keeps QAbstractButton.checkable (checkable_reset s.action.base.checked) s.buttons
      s.widget b).trans hcheckable
  have hchecked : (s.reset.widget b).checked = s.action.base.checked :=
    synchronized_reset s b hb hreset
  rw [notify_apply, hcount, Function.iterate_one, QAbstractButton.toggle,
    QAbstractButton.checked_setChecked, if_pos hreset, hchecked]

end ActionButton

namespace Panel

variable {β : Type} [DecidableEq β]

/-- Of an activation only the preparation changes anything. -/
theorem step_activate (applicationPid : Int64) (p : Panel β) :
    (step applicationPid p (.call .activate)).s = p.s.resync := by
  have hsignals : ∀ s : ActionButton β,
      s.deliver (if s.action.activates then [Signal.authorized] else []) = s := by
    intro s
    split <;> rfl
  exact hsignals p.s.resync

/-- The action is activated by the decision of `Action::activate`, which the toggle does not
influence. -/
theorem authorized_mem_out_activate (applicationPid : Int64) (p : Panel β) :
    Obs.authorized ∈ out applicationPid p (.call .activate) ↔ p.s.action.activates = true := by
  have hd : p.s.resync.action.d = p.s.action.d := (ActionButton.prepare_spec p.s .activate).2.1
  have hsame : p.s.resync.action.activates = p.s.action.activates := by
    rw [Action.activates, Action.activates, hd]
  have hout : out applicationPid p (.call .activate) =
      if Signal.authorized ∈ (if p.s.resync.action.activates then [Signal.authorized] else []) then
        [Obs.authorized] else [] := rfl
  rw [hout, hsame]
  cases p.s.action.activates <;> simp

end Panel

section Runs

variable {β : Type} [DecidableEq β]

/-- **Activation negates the action and brings all checkable buttons in line.**  In every run of an
action button or action buttons, from the constructor on, in which nothing outside the library
changes whether the action or a listed button is checkable: in every state reached some listed
button is checkable only if the action is, and all of them are if the action is.  From every such
state in which each listed button is connected once, whatever is checked before, `activate` negates
the checked state of the action if some listed button is checkable and leaves it otherwise, and
then every checkable button of the list has the checked state of the action. -/
theorem activate_synchronizes (applicationPid : Int64) (authority : Authority.System)
    (pkResult : Result) (actionId : QString) (reply : Reply .checkAuthorization)
    (widget : β → QAbstractButton) (ctor : Panel.Ctor β) (ms : List (Panel.Move β)) :
    let p₀ := Panel.start applicationPid authority pkResult actionId reply widget ctor
    (EachStep (Panel.move applicationPid) Panel.KeepsCheckable p₀ ms →
        Always (Panel.move applicationPid) (fun p => p.s.CheckableTogether) p₀ ms) ∧
      ∀ p : Panel β, p.s.CheckableTogether → (∀ b ∈ p.s.buttons, p.s.toggled.count b = 1) →
        let p' := Panel.step applicationPid p (.call .activate)
        p'.s.action.base.checked =
            (if p.s.HasCheckable then !p.s.action.base.checked else p.s.action.base.checked) ∧
          ∀ b ∈ p.s.buttons, (p.s.widget b).checkable = true →
            (p'.s.widget b).checked = p'.s.action.base.checked := by
  intro p₀
  refine ⟨?_, ?_⟩
  · intro hms
    have hstart := Panel.checkableTogether_start applicationPid authority pkResult actionId reply
      widget ctor
    exact EachStep.always (P := fun p : Panel β => p.s.CheckableTogether)
      (fun p m hm hp => Panel.checkableTogether_move applicationPid hp hm) hstart hms
  · intro p htogether hconnected p'
    have hstep : p'.s = p.s.resync := Panel.step_activate applicationPid p
    rw [hstep]
    by_cases hsome : p.s.HasCheckable
    · have hq : p.s.action.base.checkable = true := htogether.action hsome
      rw [ActionButton.resync_of_toggle hsome hq, if_pos hsome]
      refine ⟨rfl, fun b hb hcheckable => ?_⟩
      exact ActionButton.checked_toggled_once hb hcheckable (hconnected b hb)
    · rw [ActionButton.resync_eq_reset (Or.inl hsome), if_neg hsome]
      refine ⟨rfl, fun b hb hcheckable => ?_⟩
      exact absurd ⟨b, hb, hcheckable⟩ hsome

/-! ### A refused activation -/

/-- Activation changes the checked state of the action or leaves a checkable button of the list in
another state only if it is authorized. -/
def RefusesCleanly (applicationPid : Int64) (p : Panel β) : Prop :=
  let p' := Panel.step applicationPid p (.call .activate)
  Panel.Obs.authorized ∉ Panel.out applicationPid p (.call .activate) →
    p'.s.action.base.checked = p.s.action.base.checked ∧
      ∀ b ∈ p.s.buttons, (p.s.widget b).checkable = true →
        (p'.s.widget b).checked = p.s.action.base.checked

/-- The action is authorized or emits its signal regardless, or else it has no checkable button or
cannot be toggled itself. -/
def NothingToToggle (p : Panel β) : Prop :=
  p.s.action.d.pkResult = .yes ∨ p.s.action.d.pkResult = .challenge ∨
    p.s.action.d.no.enabled = true ∨ ¬ p.s.HasCheckable ∨ p.s.action.base.checkable = false

theorem activates_iff (a : Action) : a.activates = true ↔
    a.d.pkResult = .yes ∨ a.d.pkResult = .challenge ∨ a.d.no.enabled = true := by
  rw [Action.activates]
  cases a.d.pkResult <;> simp

/-- **Refusing comes too late**: what the toggle has changed stays changed. -/
theorem refusesCleanly_iff (applicationPid : Int64) (p : Panel β) :
    RefusesCleanly applicationPid p ↔ NothingToToggle p := by
  have hcond : NothingToToggle p ↔ p.s.action.activates = true ∨
      (¬ p.s.HasCheckable ∨ p.s.action.base.checkable = false) := by
    rw [activates_iff, NothingToToggle]
    tauto
  rw [hcond, RefusesCleanly, Panel.authorized_mem_out_activate, Panel.step_activate]
  by_cases htoggle : ¬ p.s.HasCheckable ∨ p.s.action.base.checkable = false
  · -- the buttons go back to the state of the action, which stays as it is
    refine ⟨fun _ => Or.inr htoggle, fun _ _ => ?_⟩
    rw [ActionButton.resync_eq_reset htoggle]
    refine ⟨rfl, fun b hb hcheckable => ?_⟩
    refine ActionButton.synchronized_reset p.s b hb ?_
    exact (notify_keeps QAbstractButton.checkable
      (ActionButton.checkable_reset p.s.action.base.checked) p.s.buttons p.s.widget b).trans
        hcheckable
  · obtain ⟨hsome, hq⟩ := not_or.1 htoggle
    rw [ActionButton.resync_of_toggle (not_not.1 hsome) (Bool.not_eq_false _ ▸ hq)]
    constructor
    · intro h
      refine Or.inl (by_contra fun hrefused => ?_)
      -- the action is negated
      have hnegated : (!p.s.action.base.checked) = p.s.action.base.checked := (h hrefused).1
      simp at hnegated
    · intro h hrefused
      rcases h with hactivates | hnothing
      · exact absurd hactivates hrefused
      · exact absurd hnothing htoggle

/-- **A refused activation leaves no trace exactly when there was nothing to toggle.**  Over every
run of an action button or action buttons, from the constructor on, with anything done to the
action and the buttons from outside: a refusal is clean in every state reached if and only if in
every state reached the action is authorized, or emits its signal when it is not, or has no
checkable button, or is not checkable itself. -/
theorem always_refusesCleanly_iff (applicationPid : Int64) (authority : Authority.System)
    (pkResult : Result) (actionId : QString) (reply : Reply .checkAuthorization)
    (widget : β → QAbstractButton) (ctor : Panel.Ctor β) (ms : List (Panel.Move β)) :
    let p₀ := Panel.start applicationPid authority pkResult actionId reply widget ctor
    Always (Panel.move applicationPid) (RefusesCleanly applicationPid) p₀ ms ↔
      Always (Panel.move applicationPid) NothingToToggle p₀ ms :=
  always_congr (refusesCleanly_iff applicationPid) _ ms

end Runs

/-- A check box comes with a push button and is checked by hand; activation leaves all three
checked. -/
theorem activate_synchronizes_two :
    let p₀ := Panel.start 42 (Authority.System.start Authority.freshAuthority) .unknown .null
      (.ok (some ⟨true, false⟩))
      (fun checkBox : Bool => ⟨true, true, .null, .null, .null, ⟨0⟩, checkBox, false⟩)
      (.actionButtons [false, true])
    let p := Panel.move 42 p₀
      (.outside p₀.s.action.base fun b => { p₀.s.widget b with checked := b })
    let p' := Panel.step 42 p (.call .activate)
    p'.s.action.base.checked = true ∧ ∀ b, (p'.s.widget b).checked = true := by
  intro p₀ p p'
  obtain ⟨hruns, hactivate⟩ := activate_synchronizes 42
    (Authority.System.start Authority.freshAuthority) .unknown .null (.ok (some ⟨true, false⟩))
    (fun checkBox : Bool => ⟨true, true, .null, .null, .null, ⟨0⟩, checkBox, false⟩)
    (.actionButtons [false, true])
    [.outside p₀.s.action.base fun b => { p₀.s.widget b with checked := b }]
  have htogether : p.s.CheckableTogether :=
    (hruns (eachStep_cons.2 ⟨⟨rfl, fun _ _ => rfl⟩, eachStep_nil⟩)).last
  obtain ⟨haction, hbuttons⟩ := hactivate p htogether (by decide)
  have hchecked : p'.s.action.base.checked = true := by
    rw [haction, if_pos (by decide)]
    rfl
  refine ⟨hchecked, fun b => ?_⟩
  rw [hbuttons b (by cases b <;> decide) (by cases b <;> decide), hchecked]

/-- polkit says no to the action of a check box: the refused activation checks the action. -/
theorem refused_check_box :
    let p₀ := Panel.start 42 (Authority.System.start Authority.freshAuthority) .unknown .null
      (.ok (some ⟨false, false⟩))
      (fun _ : Unit => ⟨true, true, .null, .null, .null, ⟨0⟩, true, false⟩) (.actionButton ())
    ¬ Always (Panel.move 42) (RefusesCleanly 42) p₀ [] := by
  intro p₀ h
  have hsame := (h.head ((Panel.authorized_mem_out_activate 42 p₀).not.2 (by decide))).1
  exact absurd hsame (by decide)

end Gui

end PolkitQt
