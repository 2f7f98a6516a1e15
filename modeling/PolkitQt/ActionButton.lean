/-
**Action buttons: widgets that follow an action.**

An `ActionButton` is an action with a list of buttons.  Each button is connected twice: its
`clicked` signal is forwarded as the action's own, and it is toggled when the action is.  Whenever
the action announces that its data changed, every button of the list is made to look like it.
`ActionButtons` is the same object with methods to add and remove buttons; its constructor hands
the list over twice.

Connections are kept in lists too, one entry for each: `connect` adds one, `disconnect` removes all
that a button has, and a button is taken off the list once.  Signals are delivered at once, in the
order of emission.

Main definitions:

* `PolkitQt.Gui.ActionButton`, with `updateButton`, `addButton`, `removeButton`, `setButton`,
  `setButtons`, `deliver` and `activate`;
* `PolkitQt.Gui.Panel` — an action button and the authority; `Panel.Event`, `Panel.Obs`;
* `PolkitQt.Gui.Panel.start` — the two constructors.

Main results:

* `PolkitQt.Gui.Panel.mirrors_step` — **the buttons of the list always look like the
  action**.
-/

import PolkitQt.ActionDisplay
import PolkitQt.Subscriptions

set_option relaxedAutoImplicit false
set_option autoImplicit false

namespace PolkitQt

namespace Gui

open Runs Subscriptions

/-! ### The object -/

/-- An `ActionButton` or `ActionButtons`.  `clicked` has the buttons whose `clicked` signal is
connected to `streamClicked`, and `toggled` those whose `toggle` slot is connected to the action's
`toggled` signal, as often as they are; `widget` is the state of every button there is. -/
structure ActionButton (β : Type) where
  action : Action
  buttons : List β
  clicked : List β
  toggled : List β
  widget : β → QAbstractButton

namespace ActionButton

variable {β : Type} [DecidableEq β]

/-- The body of the loop of `updateButton`. -/
def refreshButton (q : Action) (ent : QAbstractButton) : QAbstractButton :=
  let ent : QAbstractButton :=
    { ent with
      visible := q.isVisible .none
      enabled := q.isEnabled .none
      text := q.text .none
      toolTip := if (q.toolTip .none).isNull then ent.toolTip else q.toolTip .none
      whatsThis := if (q.whatsThis .none).isNull then ent.whatsThis else q.whatsThis .none
      icon := q.icon .none }
  if ent.checkable then ent.setChecked q.base.checked else ent

/-- `updateButton`. -/
def updateButton (s : ActionButton β) : ActionButton β :=
  { s with widget := notify (refreshButton s.action) s.buttons s.widget }

/-- `addButton`.  A checkable action makes the new button checkable; a checkable button makes the
action and all the buttons checkable. -/
def addButton (s : ActionButton β) (button : β) : ActionButton β :=
  let s : ActionButton β :=
    { s with
      buttons := s.buttons ++ [button]
      clicked := s.clicked ++ [button]
      toggled := s.toggled ++ [button] }
  let s : ActionButton β :=
    if s.action.base.checkable then
      { s with widget := Function.update s.widget button ((s.widget button).setCheckable true) }
    else if (s.widget button).checkable then
      { s with
        widget := notify (fun ent => ent.setCheckable true) s.buttons s.widget
        action := { s.action with base := s.action.base.setCheckable true } }
    else s
  s.updateButton

/-- `removeButton`: all connections go, and one entry of the list. -/
def removeButton (s : ActionButton β) (button : β) : ActionButton β :=
  if button ∈ s.buttons then
    { s with
      buttons := s.buttons.erase button
      clicked := s.clicked.filter fun b => b ≠ button
      toggled := s.toggled.filter fun b => b ≠ button }
  else s

/-- `setButton`: the list is cleared, entry by entry. -/
def setButton (s : ActionButton β) (button : β) : ActionButton β :=
  (s.buttons.foldl removeButton s).addButton button

/-- `setButtons`: nothing is cleared. -/
def setButtons (s : ActionButton β) (buttons : List β) : ActionButton β :=
  buttons.foldl addButton s

/-- One signal of the action is delivered to its slots. -/
def deliverOne (s : ActionButton β) : Signal → ActionButton β
  | .toggled _ => { s with widget := notify QAbstractButton.toggle s.toggled s.widget }
  | .dataChanged => s.updateButton
  | .authorized => s

def deliver (s : ActionButton β) (signals : List Signal) : ActionButton β :=
  signals.foldl deliverOne s

/-- `ActionButton::activate` up to the call of `Action::activate`: the buttons go back to the state
of the action, and the action is toggled. -/
def resync (s : ActionButton β) : ActionButton β :=
  let checked := s.action.base.checked
  let tg := s.buttons.any fun ent => (s.widget ent).checkable
  let reset := fun ent : QAbstractButton => if ent.checkable then ent.setChecked checked else ent
  let s : ActionButton β := { s with widget := notify reset s.buttons s.widget }
  if tg then
    let (q, toggled) := s.action.base.toggle
    let s : ActionButton β := { s with action := { s.action with base := q } }
    s.deliver (toggled.map Signal.toggled).toList
  else s

/-- What an action button does before a call reaches the action. -/
def prepare (s : ActionButton β) : Action.Call → ActionButton β
  | .activate => s.resync
  | _ => s

end ActionButton

/-! ### With the authority -/

/-- The authority and one action button. -/
structure Panel (β : Type) where
  authority : Authority.System
  s : ActionButton β

namespace Panel

/-- What can happen: something to the authority, a call of one of the action's methods, a call of
one of the button methods (of which a plain `ActionButton` has the first), or a button emits its
`clicked` signal. -/
inductive Event (β : Type)
  | authority (e : Authority.Event)
  | call (call : Action.Call)
  | setButton (button : β)
  | setButtons (buttons : List β)
  | addButton (button : β)
  | removeButton (button : β)
  | click (button : β) (checked : Bool)

/-- What is recorded of it: the signals the object emits to its clients. -/
inductive Obs (β : Type)
  | clicked (button : β) (checked : Bool)
  | authorized

variable {β : Type} [DecidableEq β]

/-- A call on the action, and the signals it emits are delivered.  `activate` is that of
`ActionButton`. -/
def perform (applicationPid : Int64) (p : Panel β) (call : Action.Call) :
    Panel β × List Signal :=
  let s := p.s.prepare call
  let o := Action.perform applicationPid p.authority s.action call
  let s : ActionButton β := { s with action := o.action }
  (⟨o.authority, s.deliver o.signals⟩, o.signals)

def react (applicationPid : Int64) (p : Panel β) : Event β → Panel β × List (Obs β)
  | .authority e => ({ p with authority := Authority.step p.authority e }, [])
  | .call call =>
      let (p, signals) := p.perform applicationPid call
      (p, if Signal.authorized ∈ signals then [.authorized] else [])
  | .setButton button => ({ p with s := p.s.setButton button }, [])
  | .setButtons buttons => ({ p with s := p.s.setButtons buttons }, [])
  | .addButton button => ({ p with s := p.s.addButton button }, [])
  | .removeButton button => ({ p with s := p.s.removeButton button }, [])
  | .click button checked =>
      (p, List.replicate (p.s.clicked.count button) (.clicked button checked))

def step (applicationPid : Int64) (p : Panel β) (e : Event β) : Panel β :=
  (react applicationPid p e).1

def out (applicationPid : Int64) (p : Panel β) (e : Event β) : List (Obs β) :=
  (react applicationPid p e).2

/-- Which constructor: `ActionButton(button, …)` or `ActionButtons(buttons, …)`. -/
inductive Ctor (β : Type)
  | actionButton (button : β)
  | actionButtons (buttons : List β)

/-- The constructors.  Both give the list to the private data first and then set the same buttons;
the action is shown before anything is connected to it. -/
def start (applicationPid : Int64) (authority : Authority.System) (pkResult : Result)
    (actionId : QString) (reply : Reply .checkAuthorization) (widget : β → QAbstractButton)
    (ctor : Ctor β) : Panel β :=
  let o := Action.construct applicationPid authority pkResult actionId reply
  match ctor with
  | .actionButton button =>
      let s : ActionButton β := ⟨o.action, [button], [], [], widget⟩
      ⟨o.authority, s.setButton button⟩
  | .actionButtons buttons =>
      let s : ActionButton β := ⟨o.action, buttons, [], [], widget⟩
      ⟨o.authority, s.setButtons buttons⟩

end Panel

/-! ### The buttons look like the action -/

namespace ActionButton

variable {β : Type}

/-- Every button of the list shows what the action shows. -/
def Mirrors (s : ActionButton β) : Prop :=
  ∀ b ∈ s.buttons, (s.widget b).shown = s.action.base.shown

/-- A change of the action that does not show is mirrored without more ado. -/
theorem Mirrors.action {s : ActionButton β} (h : Mirrors s) {a : Action}
    (ha : a.base.shown = s.action.base.shown) : Mirrors { s with action := a } := by
  intro b hb
  exact (h b hb).trans ha.symm

variable [DecidableEq β]

/-- A checkable button that goes back to a state shows what it did. -/
theorem shown_reset (checked : Bool) (ent : QAbstractButton) :
    (if ent.checkable then ent.setChecked checked else ent).shown = ent.shown := by
  split
  · exact QAbstractButton.shown_setChecked ent checked
  · rfl

theorem shown_refreshButton (q : Action) (ent : QAbstractButton) :
    (refreshButton q ent).shown = q.base.shown :=
  (shown_reset q.base.checked _).trans rfl

/-- An update makes the buttons look like the action. -/
theorem mirrors_updateButton (s : ActionButton β) : Mirrors s.updateButton := by
  intro b hb
  exact notify_establishes (P := fun ent => ent.shown = s.action.base.shown)
    (shown_refreshButton s.action) s.widget hb

theorem mirrors_addButton (s : ActionButton β) (button : β) : Mirrors (s.addButton button) :=
  mirrors_updateButton _

/-- Removing a button changes no widget and leaves no button that was not there. -/
theorem Mirrors.removeButton {s : ActionButton β} (h : Mirrors s) (button : β) :
    Mirrors (s.removeButton button) := by
  rw [ActionButton.removeButton]
  split
  · exact fun b hb => h b (List.mem_of_mem_erase hb)
  · exact h

theorem Mirrors.setButtons {s : ActionButton β} (h : Mirrors s) (buttons : List β) :
    Mirrors (s.setButtons buttons) := by
  induction buttons generalizing s with
  | nil => exact h
  | cons b bs ih => exact ih (mirrors_addButton s b)

/-- Changing the buttons by a change that shows nothing. -/
theorem Mirrors.notify {s : ActionButton β} (h : Mirrors s) {f : QAbstractButton → QAbstractButton}
    (hf : ∀ ent, (f ent).shown = ent.shown) (l : List β) :
    Mirrors { s with widget := Subscriptions.notify f l s.widget } := by
  intro b hb
  exact notify_preserves (P := fun ent => ent.shown = s.action.base.shown)
    (fun ent hent => (hf ent).trans hent) l (h b hb)

theorem Mirrors.deliver {s : ActionButton β} (h : Mirrors s) (signals : List Signal) :
    Mirrors (s.deliver signals) := by
  induction signals generalizing s with
  | nil => exact h
  | cons signal signals ih =>
      refine ih ?_
      cases signal with
      | toggled checked => exact h.notify QAbstractButton.shown_toggle s.toggled
      | dataChanged => exact mirrors_updateButton s
      | authorized => exact h

/-- Signals with a `dataChanged` among them make the buttons look like the action. -/
theorem mirrors_deliver_of_mem (s : ActionButton β) {signals : List Signal}
    (h : Signal.dataChanged ∈ signals) : Mirrors (s.deliver signals) := by
  obtain ⟨before, after, rfl⟩ := List.append_of_mem h
  rw [ActionButton.deliver, List.foldl_append, List.foldl_cons]
  -- what comes after it keeps them so
  exact (mirrors_updateButton _).deliver after

theorem Mirrors.prepare {s : ActionButton β} (h : Mirrors s) (call : Action.Call) :
    Mirrors (s.prepare call) := by
  cases call with
  | activate =>
      have hreset := h.notify (shown_reset s.action.base.checked) s.buttons
      rw [ActionButton.prepare, ActionButton.resync]
      split
      · -- some button is checkable, so the action is toggled and tells the buttons
        exact (hreset.action (QAction.shown_setChecked s.action.base _)).deliver _
      · exact hreset
  | _ => exact h

end ActionButton

namespace Panel

variable {β : Type} [DecidableEq β]

theorem mirrors_perform (applicationPid : Int64) {p : Panel β} (h : p.s.Mirrors)
    (call : Action.Call) : (p.perform applicationPid call).1.s.Mirrors := by
  rw [perform]
  rcases Action.perform_announces applicationPid p.authority (p.s.prepare call).action call with
    hdata | hshown
  · -- whatever the widgets were before, the slot of `dataChanged` refreshes them
    exact ActionButton.mirrors_deliver_of_mem _ hdata
  · exact ((h.prepare call).action hshown).deliver _

/-- **The buttons of the list always look like the action**, whether or not the action is up to
date. -/
theorem mirrors_step (applicationPid : Int64) {p : Panel β} (h : p.s.Mirrors) (e : Event β) :
    (step applicationPid p e).s.Mirrors := by
  cases e with
  | authority e => exact h
  | call call => exact mirrors_perform applicationPid h call
  | setButton button => exact ActionButton.mirrors_addButton _ button
  | setButtons buttons => exact h.setButtons buttons
  | addButton button => exact ActionButton.mirrors_addButton _ button
  | removeButton button => exact h.removeButton button
  | click button checked => exact h

theorem mirrors_start (applicationPid : Int64) (authority : Authority.System) (pkResult : Result)
    (actionId : QString) (reply : Reply .checkAuthorization) (widget : β → QAbstractButton)
    (ctor : Ctor β) :
    (start applicationPid authority pkResult actionId reply widget ctor).s.Mirrors := by
  cases ctor with
  | actionButton button => exact ActionButton.mirrors_addButton _ button
  | actionButtons buttons =>
      cases buttons with
      | nil => exact fun b hb => absurd hb List.not_mem_nil
      | cons b bs => exact (ActionButton.mirrors_addButton _ b).setButtons bs

end Panel

/-! ### The lists -/

namespace ActionButton

variable {β : Type}

/-- The list of buttons and the connections are the same in both. -/
structure SameLists (s s' : ActionButton β) : Prop where
  buttons : s'.buttons = s.buttons
  clicked : s'.clicked = s.clicked
  toggled : s'.toggled = s.toggled

theorem SameLists.trans {s t u : ActionButton β} (h : SameLists s t) (h' : SameLists t u) :
    SameLists s u :=
  ⟨h'.buttons.trans h.buttons, h'.clicked.trans h.clicked, h'.toggled.trans h.toggled⟩

variable [DecidableEq β]

/-- Delivering signals touches the widgets only. -/
theorem deliver_spec (s : ActionButton β) (signals : List Signal) :
    SameLists s (s.deliver signals) ∧ (s.deliver signals).action = s.action := by
  induction signals generalizing s with
  | nil => exact ⟨⟨rfl, rfl, rfl⟩, rfl⟩
  | cons signal signals ih =>
      obtain ⟨hlists, haction⟩ := ih (s.deliverOne signal)
      have hone : SameLists s (s.deliverOne signal) := by
        cases signal <;> exact ⟨rfl, rfl, rfl⟩
      have haction' : (s.deliverOne signal).action = s.action := by
        cases signal <;> rfl
      exact ⟨hone.trans hlists, haction.trans haction'⟩

/-- Preparing a call changes no list, and of the action at most the checked state. -/
theorem prepare_spec (s : ActionButton β) (call : Action.Call) :
    SameLists s (s.prepare call) ∧ (s.prepare call).action.d = s.action.d ∧
      (s.prepare call).action.base.shown = s.action.base.shown := by
  cases call with
  | activate =>
      rw [prepare, resync]
      split
      · refine ⟨⟨?_, ?_, ?_⟩, ?_, ?_⟩
        · exact (deliver_spec _ _).1.buttons
        · exact (deliver_spec _ _).1.clicked
        · exact (deliver_spec _ _).1.toggled
        · rw [(deliver_spec _ _).2]
        · rw [(deliver_spec _ _).2]
          exact QAction.shown_setChecked s.action.base _
      · exact ⟨⟨rfl, rfl, rfl⟩, rfl, rfl⟩
  | _ => exact ⟨⟨rfl, rfl, rfl⟩, rfl, rfl⟩

end ActionButton

end Gui

end PolkitQt
