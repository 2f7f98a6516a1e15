/-
**Clicks and menu entries.**

An application does not activate an `ActionButton` by hand.  It connects the signal `clicked` of the
action button to `activate`, puts the action into a menu, and connects `triggered` to a slot that calls
`Action::activate`, which is not virtual.  Qt toggles a checkable button before it says that it was
clicked, and a checkable action before it says that it was triggered; so on one way the button is ahead
of the action, and on the other the action is ahead of its buttons.

Main definitions:

* `PolkitQt.Gui.Client.step` — an application wired like that, and its user;
* `PolkitQt.Gui.ActionButton.Connected` — the checkable buttons of the list are told an odd number of
  times when the action is toggled;
* `PolkitQt.Gui.Client.Follows` — the condition on a step.

Main results:

* `PolkitQt.Gui.Client.synchronized_step_iff` — what every step does to the checked states;
* `PolkitQt.Gui.Client.click_eq_trigger` — a click does what a menu entry does;
* `PolkitQt.Gui.Client.clicks_agree` — **the checkable buttons agree with the action all the time**
  exactly when all steps meet the condition.
-/

import PolkitQt.ButtonChecks

set_option relaxedAutoImplicit false
set_option autoImplicit false

namespace PolkitQt

namespace Gui

open Runs Subscriptions

/-! ### Toggling -/

namespace ActionButton

variable {β : Type} [DecidableEq β]

/-- Every checkable button of the list is connected an odd number of times, so that it follows when
the action is toggled. -/
def Connected (s : ActionButton β) : Prop :=
  ∀ b ∈ s.buttons, (s.widget b).checkable = true → s.toggled.count b % 2 = 1

instance (s : ActionButton β) : Decidable s.Connected :=
  inferInstanceAs (Decidable (∀ b ∈ s.buttons, (s.widget b).checkable = true →
    s.toggled.count b % 2 = 1))

/-- The action has been toggled and has told the buttons. -/
def negate (s : ActionButton β) : ActionButton β :=
  { s with
    action := { s.action with base := { s.action.base with checked := !s.action.base.checked } }
    widget := notify QAbstractButton.toggle s.toggled s.widget }

theorem sameCheckable_negate (s : ActionButton β) : SameCheckable s s.negate :=
  ⟨rfl, rfl, fun b _ =>
    notify_keeps QAbstractButton.checkable QAbstractButton.checkable_toggle s.toggled s.widget b⟩

theorem checked_iterate_toggle {w : QAbstractButton} (h : w.checkable = true) (n : Nat) :
    (QAbstractButton.toggle^[n] w).checked = !w.checked ↔ n % 2 = 1 := by
  induction n with
  | zero =>
      rw [Function.iterate_zero]
      simp
  | succ n ih =>
      have hkeeps : (QAbstractButton.toggle^[n] w).checkable = true :=
        Function.Iterate.rec (fun x => x.checkable = true) h
          (fun x hx => (QAbstractButton.checkable_toggle x).trans hx) n
      have hone : (QAbstractButton.toggle^[n + 1] w).checked =
          !(QAbstractButton.toggle^[n] w).checked := by
        rw [Function.iterate_succ_apply', QAbstractButton.toggle, QAbstractButton.checked_setChecked,
          if_pos hkeeps]
      have hparity : (n + 1) % 2 = 1 ↔ ¬ n % 2 = 1 := by omega
      rw [hone, hparity, ← ih]
      cases w.checked <;> cases (QAbstractButton.toggle^[n] w).checked <;> decide

/-- Buttons that agree with the action agree after a toggle if they are connected, and only then. -/
theorem synchronized_negate_iff {s : ActionButton β} (h : s.Synchronized) :
    s.negate.Synchronized ↔ s.Connected := by
  refine forall₂_congr fun b hb => ?_
  rw [(sameCheckable_negate s).widget b hb]
  refine imp_congr_right fun htrue => ?_
  have hbutton : (s.negate.widget b).checked =
      (QAbstractButton.toggle^[s.toggled.count b] (s.widget b)).checked := by
    rw [← notify_apply]
    rfl
  have haction : s.negate.action.base.checked = !(s.widget b).checked := by
    rw [h b hb htrue]
    rfl
  rw [hbutton, haction]
  exact checked_iterate_toggle htrue _

theorem connected_congr {s s' : ActionButton β} (h : SameCheckable s s')
    (htoggled : s'.toggled = s.toggled) : s'.Connected ↔ s.Connected := by
  rw [Connected, Connected, h.buttons, htoggled]
  refine forall₂_congr fun b hb => ?_
  rw [h.widget b hb]

theorem connected_reset (s : ActionButton β) : s.reset.Connected ↔ s.Connected :=
  connected_congr (sameCheckable_notify s (checkable_reset s.action.base.checked) s.buttons) rfl

/-- With nothing to toggle there is nothing to connect. -/
theorem connected_of_not_checkable {s : ActionButton β} (h : s.CheckableTogether)
    (hq : s.action.base.checkable = false) : s.Connected := by
  intro b hb hcheckable
  exact absurd ((h.action ⟨b, hb, hcheckable⟩).symm.trans hq) (by decide)

/-- **What an activation leaves**: whatever was checked before. -/
theorem synchronized_resync_iff {s : ActionButton β} (h : s.CheckableTogether) :
    s.resync.Synchronized ↔ s.Connected := by
  by_cases hsome : s.HasCheckable
  · have htoggle : s.resync = s.reset.negate := resync_of_toggle hsome (h.action hsome)
    rw [htoggle, synchronized_negate_iff (synchronized_reset s), connected_reset]
  · rw [resync_eq_reset (Or.inl hsome)]
    refine iff_of_true (synchronized_reset s) fun b hb hcheckable => ?_
    exact absurd ⟨b, hb, hcheckable⟩ hsome

/-! ### Updates -/

/-- An update brings the buttons in line. -/
theorem synchronized_updateButton (s : ActionButton β) : s.updateButton.Synchronized := by
  intro b hb
  refine notify_establishes (P := fun ent => ent.checkable = true →
    ent.checked = s.action.base.checked) ?_ s.widget hb
  intro ent hcheckable
  have hbefore : ent.checkable = true := (checkable_refreshButton s.action ent).symm.trans hcheckable
  exact checked_reset s.action.base.checked _ hbefore

theorem synchronized_addButton (s : ActionButton β) (button : β) :
    (s.addButton button).Synchronized := synchronized_updateButton _

theorem Synchronized.setButtons {s : ActionButton β} (h : s.Synchronized) (buttons : List β) :
    (s.setButtons buttons).Synchronized := by
  induction buttons generalizing s with
  | nil => exact h
  | cons b bs ih => exact ih (synchronized_addButton s b)

theorem Synchronized.removeButton {s : ActionButton β} (h : s.Synchronized) (button : β) :
    (s.removeButton button).Synchronized := by
  rw [ActionButton.removeButton]
  split
  · exact fun b hb => h b (List.mem_of_mem_erase hb)
  · exact h

/-- Signals that end with `dataChanged` bring the buttons in line. -/
theorem synchronized_deliver_concat (s : ActionButton β) (signals : List Signal) :
    (s.deliver (signals ++ [.dataChanged])).Synchronized := by
  rw [deliver, List.foldl_append]
  exact synchronized_updateButton _

end ActionButton

/-- Showing an action does nothing, or it ends with `dataChanged`. -/
theorem Action.updateAction_cases (hasError : Bool) (a : Action) :
    updateAction hasError a = (a, []) ∨
      ∃ signals, (updateAction hasError a).2 = signals ++ [.dataChanged] := by
  cases hasError with
  | true => exact Or.inl rfl
  | false =>
      refine Or.inr ?_
      simp only [updateAction, Bool.false_eq_true, if_false]
      cases a.d.pkResult with
      | yes =>
          dsimp only
          split
          · exact ⟨_, rfl⟩
          · exact ⟨[], rfl⟩
      | _ => exact ⟨[], rfl⟩

/-! ### The application and its user -/

namespace Client

variable {β : Type}

/-- What can happen: an event of the panel; the user clicks a button, or chooses the menu entry of the
action. -/
inductive Event (β : Type)
  | panel (e : Panel.Event β)
  | click (button : β)
  | trigger

variable [DecidableEq β]

/-- Qt toggles a checkable button that is clicked. -/
def press (p : Panel β) (button : β) : Panel β :=
  { p with s := { p.s with widget := notify QAbstractButton.toggle [button] p.s.widget } }

/-- The signal `clicked` of a button with that many connections: `streamClicked` passes each on, and
the application activates. -/
def stream (applicationPid : Int64) (button : β) (checked : Bool) :
    Nat → Panel β → Panel β × List (Panel.Obs β)
  | 0, p => (p, [])
  | n + 1, p =>
      let (p, activated) := Panel.react applicationPid p (.call .activate)
      let (p, later) := stream applicationPid button checked n p
      (p, .clicked button checked :: activated ++ later)

/-- A disabled button cannot be clicked, and a disabled entry cannot be chosen. -/
def react (applicationPid : Int64) (p : Panel β) : Event β → Panel β × List (Panel.Obs β)
  | .panel (.click button checked) =>
      stream applicationPid button checked (p.s.clicked.count button) p
  | .panel e => Panel.react applicationPid p e
  | .click button =>
      if (p.s.widget button).enabled then
        let p := press p button
        stream applicationPid button (p.s.widget button).checked (p.s.clicked.count button) p
      else (p, [])
  | .trigger =>
      if p.s.action.base.enabled then
        let (q, toggled) := p.s.action.base.toggle
        let s : ActionButton β := { p.s with action := { p.s.action with base := q } }
        -- the slot calls `Action::activate`, which toggles nothing
        ({ p with s := s.deliver (toggled.map Signal.toggled).toList },
          if p.s.action.activates then [.authorized] else [])
      else (p, [])

def step (applicationPid : Int64) (p : Panel β) (e : Event β) : Panel β :=
  (react applicationPid p e).1

def out (applicationPid : Int64) (p : Panel β) (e : Event β) : List (Panel.Obs β) :=
  (react applicationPid p e).2

/-- When the action is toggled the buttons are connected; and a click on a checkable button of the
list is passed on. -/
def Follows (p : Panel β) : Event β → Prop
  | .panel (.call .activate) => p.s.Connected
  | .panel (.call (.setChecked checked)) => p.s.action.base.checked ≠ checked → p.s.Connected
  | .panel (.click button _) => button ∈ p.s.clicked → p.s.Connected
  | .panel _ => True
  | .click button =>
      (p.s.widget button).enabled = true →
        (button ∈ p.s.clicked → p.s.Connected) ∧
          (button ∈ p.s.buttons → (p.s.widget button).checkable = true → button ∈ p.s.clicked)
  | .trigger => p.s.action.base.enabled = true → p.s.Connected

/-! ### One step -/

/-- Showing the action brings the buttons in line, or nothing is shown. -/
theorem synchronized_updateAction {s : ActionButton β} (h : s.Synchronized) (hasError : Bool)
    {a : Action} (ha : a.base = s.action.base) :
    ({ s with action := (Action.updateAction hasError a).1 }.deliver
      (Action.updateAction hasError a).2).Synchronized := by
  rcases Action.updateAction_cases hasError a with hnone | ⟨signals, hsignals⟩
  · rw [hnone]
    intro b hb hcheckable
    exact (h b hb hcheckable).trans (congrArg QAction.checked ha).symm
  · rw [hsignals]
    exact ActionButton.synchronized_deliver_concat _ signals

/-- `setChecked` toggles the action if it changes anything. -/
theorem synchronized_setChecked_iff {s : ActionButton β} (htogether : s.CheckableTogether)
    (h : s.Synchronized) (authority : Authority.System) (checked : Bool) :
    let o := Action.setChecked authority s.action checked
    ({ s with action := o.action }.deliver o.signals).Synchronized ↔
      (s.action.base.checked ≠ checked → s.Connected) := by
  intro o
  have ho : o = ⟨authority, ⟨(s.action.base.setChecked checked).1,
      { s.action.d with initiallyChecked := checked }⟩,
      ((s.action.base.setChecked checked).2.map Signal.toggled).toList, none⟩ := rfl
  by_cases hsame : s.action.base.checkable = false ∨ s.action.base.checked = checked
  · have hset : s.action.base.setChecked checked = (s.action.base, none) := by
      refine if_pos ?_
      simpa using hsame
    have hconnected : s.action.base.checked ≠ checked → s.Connected := by
      intro hne
      exact ActionButton.connected_of_not_checkable htogether (hsame.resolve_right hne)
    rw [ho, hset]
    exact iff_of_true h hconnected
  · obtain ⟨hcheckable, hne⟩ := not_or.1 hsame
    have hset : s.action.base.setChecked checked =
        ({ s.action.base with checked := !s.action.base.checked }, some checked) := by
      have hchecked : checked = !s.action.base.checked := by
        cases checked <;> simpa using hne
      rw [QAction.setChecked, if_neg (by simpa using hsame), hchecked]
    rw [ho, hset, forall_prop_of_true hne]
    exact ActionButton.synchronized_negate_iff h

/-- A call of the action keeps the buttons in line, unless it toggles the action. -/
theorem synchronized_perform_iff (applicationPid : Int64) {p : Panel β}
    (htogether : p.s.CheckableTogether) (h : p.s.Synchronized) (call : Action.Call) :
    (p.perform applicationPid call).1.s.Synchronized ↔ Follows p (.panel (.call call)) := by
  have hshown : ∀ {o : Action.Outcome},
      Action.Performed applicationPid p.authority p.s.action call o →
        (∀ checked, call ≠ .setChecked checked) → call ≠ .activate →
          ({ p.s with action := o.action }.deliver o.signals).Synchronized := by
    intro o hdone hset hactivate
    cases hdone with
    | asked a' reply _ hbase => exact synchronized_updateAction h _ hbase
    | kept reply _ => exact h
    | edited states f _ => exact synchronized_updateAction h _ rfl
    | checked checked => exact absurd rfl (hset checked)
    | activated => exact absurd rfl hactivate
  cases call with
  | activate =>
      have hstep : (p.perform applicationPid .activate).1.s = p.s.resync :=
        Panel.step_activate applicationPid p
      rw [hstep]
      exact ActionButton.synchronized_resync_iff htogether
  | setChecked checked => exact synchronized_setChecked_iff htogether h p.authority checked
  | _ => exact iff_of_true (hshown (Action.performed _ _ _ _) (by simp) (by simp)) trivial

theorem sameCheckable_activate (applicationPid : Int64) (p : Panel β) :
    ActionButton.SameCheckable p.s (Panel.react applicationPid p (.call .activate)).1.s :=
  Panel.sameCheckable_perform applicationPid p .activate

theorem sameCheckable_press (p : Panel β) (button : β) :
    ActionButton.SameCheckable p.s (press p button).s :=
  ActionButton.sameCheckable_notify p.s QAbstractButton.checkable_toggle [button]

theorem sameCheckable_stream (applicationPid : Int64) (button : β) (checked : Bool) (n : Nat)
    (p : Panel β) : ActionButton.SameCheckable p.s (stream applicationPid button checked n p).1.s := by
  induction n generalizing p with
  | zero => exact ActionButton.SameCheckable.refl p.s
  | succ n ih => exact (sameCheckable_activate applicationPid p).trans (ih _)

/-- The last activation decides. -/
theorem synchronized_stream_iff (applicationPid : Int64) (button : β) (checked : Bool) (n : Nat)
    {p : Panel β} (h : p.s.CheckableTogether) :
    (stream applicationPid button checked (n + 1) p).1.s.Synchronized ↔ p.s.Connected := by
  have hstep : (Panel.react applicationPid p (.call .activate)).1.s = p.s.resync :=
    Panel.step_activate applicationPid p
  induction n generalizing p with
  | zero =>
      have hlast : (stream applicationPid button checked (0 + 1) p).1.s = p.s.resync := hstep
      rw [hlast]
      exact ActionButton.synchronized_resync_iff h
  | succ n ih =>
      have hsame := sameCheckable_activate applicationPid p
      have htoggled : (Panel.react applicationPid p (.call .activate)).1.s.toggled = p.s.toggled := by
        rw [hstep]
        exact (ActionButton.prepare_spec p.s .activate).1.toggled
      rw [← ActionButton.connected_congr hsame htoggled]
      exact ih (hsame.together h) (Panel.step_activate applicationPid _)

/-- A click that is not passed on leaves the button as the user has set it. -/
theorem synchronized_press_iff {p : Panel β} (h : p.s.Synchronized) (button : β) :
    (press p button).s.Synchronized ↔
      ¬ (button ∈ p.s.buttons ∧ (p.s.widget button).checkable = true) := by
  have hself : (press p button).s.widget button = (p.s.widget button).toggle := Function.update_self ..
  constructor
  · rintro hpressed ⟨hb, hcheckable⟩
    have hafter := hpressed button hb
    rw [hself, QAbstractButton.checkable_toggle, QAbstractButton.toggle,
      QAbstractButton.checked_setChecked, if_pos hcheckable] at hafter
    have hnegated : (!(p.s.widget button).checked) = p.s.action.base.checked := hafter hcheckable
    rw [h button hb hcheckable] at hnegated
    exact absurd hnegated (by simp)
  · intro hnone b hb
    by_cases hbutton : b = button
    · subst hbutton
      rw [hself, QAbstractButton.checkable_toggle]
      exact fun hcheckable => absurd ⟨hb, hcheckable⟩ hnone
    · have hother : (press p button).s.widget b = p.s.widget b := Function.update_of_ne hbutton ..
      rw [hother]
      exact h b hb

/-- The menu entry toggles the action if that is checkable. -/
theorem step_trigger (applicationPid : Int64) {p : Panel β} (henabled : p.s.action.base.enabled = true) :
    step applicationPid p .trigger =
      if p.s.action.base.checkable then { p with s := p.s.negate } else p := by
  rw [step, react, if_pos henabled]
  cases hq : p.s.action.base.checkable with
  | false =>
      simp only [QAction.toggle_of_not_checkable hq]
      rfl
  | true =>
      simp only [QAction.toggle_of_checkable hq]
      rfl

/-- **What every step does to the checked states.** -/
theorem synchronized_step_iff (applicationPid : Int64) {p : Panel β}
    (htogether : p.s.CheckableTogether) (h : p.s.Synchronized) (e : Event β) :
    (step applicationPid p e).s.Synchronized ↔ Follows p e := by
  -- a click with some connections, and one with none
  have hstream : ∀ (button : β) (checked : Bool) {q : Panel β}, q.s.CheckableTogether →
      button ∈ q.s.clicked →
        ((stream applicationPid button checked (q.s.clicked.count button) q).1.s.Synchronized ↔
          q.s.Connected) := by
    intro button checked q hq hmem
    have hpos := List.count_pos_iff.2 hmem
    obtain ⟨n, hn⟩ : ∃ n, q.s.clicked.count button = n + 1 := ⟨_, (Nat.succ_pred_eq_of_pos hpos).symm⟩
    rw [hn]
    exact synchronized_stream_iff applicationPid button checked n hq
  have hnone : ∀ (button : β) (checked : Bool) {q : Panel β}, button ∉ q.s.clicked →
      stream applicationPid button checked (q.s.clicked.count button) q = (q, []) := by
    intro button checked q hmem
    rw [List.count_eq_zero_of_not_mem hmem]
    rfl
  cases e with
  | panel e =>
      cases e with
      | authority e => exact iff_of_true h trivial
      | call call => exact synchronized_perform_iff applicationPid htogether h call
      | setButton button => exact iff_of_true (ActionButton.synchronized_addButton _ button) trivial
      | setButtons buttons => exact iff_of_true (h.setButtons buttons) trivial
      | addButton button => exact iff_of_true (ActionButton.synchronized_addButton _ button) trivial
      | removeButton button => exact iff_of_true (h.removeButton button) trivial
      | click button checked =>
          by_cases hmem : button ∈ p.s.clicked
          · rw [Follows, forall_prop_of_true hmem]
            exact hstream button checked htogether hmem
          · rw [step, react, hnone button checked hmem]
            exact iff_of_true h fun hin => absurd hin hmem
  | click button =>
      rw [step, react]
      split
      · next henabled =>
          rw [Follows, forall_prop_of_true henabled]
          have hsame := sameCheckable_press p button
          by_cases hmem : button ∈ p.s.clicked
          · have hconnected : (press p button).s.Connected ↔ p.s.Connected :=
              ActionButton.connected_congr hsame rfl
            have hlast := hstream button ((press p button).s.widget button).checked
              (hsame.together htogether) (q := press p button) hmem
            refine hlast.trans (hconnected.trans ⟨fun hc => ⟨fun _ => hc, fun _ _ => hmem⟩, fun hc => hc.1 hmem⟩)
          · have hquiet := hnone button ((press p button).s.widget button).checked
              (q := press p button) hmem
            refine Iff.trans (b := (press p button).s.Synchronized) ?_ ?_
            · exact iff_of_eq (congrArg (fun x => x.1.s.Synchronized) hquiet)
            · rw [synchronized_press_iff h button]
              constructor
              · exact fun hnot => ⟨fun hin => absurd hin hmem,
                  fun hb hcheckable => absurd ⟨hb, hcheckable⟩ hnot⟩
              · rintro ⟨-, hpassed⟩ ⟨hb, hcheckable⟩
                exact hmem (hpassed hb hcheckable)
      · next hdisabled => exact iff_of_true h fun henabled => absurd henabled hdisabled
  | trigger =>
      by_cases henabled : p.s.action.base.enabled = true
      · rw [step_trigger applicationPid henabled, Follows, forall_prop_of_true henabled]
        split
        · exact ActionButton.synchronized_negate_iff h
        · next hq =>
            refine iff_of_true h (ActionButton.connected_of_not_checkable htogether ?_)
            simpa using hq
      · rw [step, react, if_neg henabled]
        exact iff_of_true h fun htrue => absurd htrue henabled

theorem checkableTogether_step (applicationPid : Int64) {p : Panel β} (h : p.s.CheckableTogether)
    (e : Event β) : (step applicationPid p e).s.CheckableTogether := by
  cases e with
  | panel e =>
      cases e with
      | click button checked => exact (sameCheckable_stream applicationPid button checked _ p).together h
      | _ => exact Panel.checkableTogether_step applicationPid h _
  | click button =>
      rw [step, react]
      split
      · exact ((sameCheckable_press p button).trans
          (sameCheckable_stream applicationPid button _ _ _)).together h
      · exact h
  | trigger =>
      by_cases henabled : p.s.action.base.enabled = true
      · rw [step_trigger applicationPid henabled]
        split
        · exact (ActionButton.sameCheckable_negate p.s).together h
        · exact h
      · rw [step, react, if_neg henabled]
        exact h

theorem synchronized_start (applicationPid : Int64) (authority : Authority.System) (pkResult : Result)
    (actionId : QString) (reply : Reply .checkAuthorization) (widget : β → QAbstractButton)
    (ctor : Panel.Ctor β) :
    (Panel.start applicationPid authority pkResult actionId reply widget ctor).s.Synchronized := by
  cases ctor with
  | actionButton button => exact ActionButton.synchronized_addButton _ button
  | actionButtons buttons =>
      cases buttons with
      | nil => exact fun b hb => absurd hb List.not_mem_nil
      | cons b bs => exact (ActionButton.synchronized_addButton _ b).setButtons bs

theorem synchronized_iff_follows (applicationPid : Int64) (authority : Authority.System)
    (pkResult : Result) (actionId : QString) (reply : Reply .checkAuthorization)
    (widget : β → QAbstractButton) (ctor : Panel.Ctor β) (es : List (Event β)) :
    let p₀ := Panel.start applicationPid authority pkResult actionId reply widget ctor
    Always (step applicationPid) (fun p => p.s.Synchronized) p₀ es ↔
      EachStep (step applicationPid) Follows p₀ es :=
  always_iff_eachStep (I := fun p : Panel β => p.s.CheckableTogether)
    (P := fun p : Panel β => p.s.Synchronized) (C := Follows) (fun _ e h => checkableTogether_step applicationPid h e)
    (fun _ e htogether h => synchronized_step_iff applicationPid htogether h e)
    (Panel.checkableTogether_start applicationPid authority pkResult actionId reply widget ctor)
    (synchronized_start applicationPid authority pkResult actionId reply widget ctor) es

/-! ### Two ways to activate -/

theorem mirrors_step (applicationPid : Int64) {p : Panel β} (h : p.s.Mirrors) (e : Event β) :
    (step applicationPid p e).s.Mirrors := by
  have hstream : ∀ (button : β) (checked : Bool) (n : Nat) {q : Panel β}, q.s.Mirrors →
      (stream applicationPid button checked n q).1.s.Mirrors := by
    intro button checked n
    induction n with
    | zero => exact fun hq => hq
    | succ n ih => exact fun hq => ih (Panel.mirrors_perform applicationPid hq .activate)
  cases e with
  | panel e =>
      cases e with
      | click button checked => exact hstream button checked _ h
      | _ => exact Panel.mirrors_step applicationPid h _
  | click button =>
      rw [step, react]
      split
      · exact hstream button _ _ (h.notify QAbstractButton.shown_toggle [button])
      · exact h
  | trigger =>
      by_cases henabled : p.s.action.base.enabled = true
      · rw [step_trigger applicationPid henabled]
        split
        · exact (h.notify QAbstractButton.shown_toggle p.s.toggled).action rfl
        · exact h
      · rw [step, react, if_neg henabled]
        exact h

/-- The state a button goes back to before an activation toggles the action. -/
def back (checked : Bool) (ent : QAbstractButton) : QAbstractButton :=
  if ent.checkable then ent.setChecked checked else ent

/-- A button that agrees with the action goes back to what it was, even if it was just toggled. -/
theorem back_toggle {w : QAbstractButton} {checked : Bool}
    (h : w.checkable = true → w.checked = checked) :
    back checked w = w ∧ back checked w.toggle = w := by
  obtain ⟨visible, enabled, text, toolTip, whatsThis, icon, checkable, state⟩ := w
  cases checkable with
  | false => exact ⟨rfl, rfl⟩
  | true =>
      obtain rfl : state = checked := h rfl
      exact ⟨rfl, rfl⟩

/-- The first thing an activation does undoes what the click has done. -/
theorem reset_press {p : Panel β} (h : p.s.Synchronized) {button : β} (hb : button ∈ p.s.buttons) :
    (press p button).s.reset = p.s := by
  have hwidget : notify (back p.s.action.base.checked) p.s.buttons (press p button).s.widget =
      p.s.widget := by
    funext b
    rw [notify_apply]
    by_cases hlisted : b ∈ p.s.buttons
    · obtain ⟨hfixed, hundone⟩ := back_toggle (h b hlisted)
      have hone : back p.s.action.base.checked ((press p button).s.widget b) = p.s.widget b := by
        by_cases hbutton : b = button
        · subst hbutton
          have hself : (press p b).s.widget b = (p.s.widget b).toggle := Function.update_self ..
          rw [hself, hundone]
        · have hother : (press p button).s.widget b = p.s.widget b :=
            Function.update_of_ne hbutton ..
          rw [hother, hfixed]
      obtain ⟨n, hn⟩ : ∃ n, p.s.buttons.count b = n + 1 :=
        ⟨_, (Nat.succ_pred_eq_of_pos (List.count_pos_iff.2 hlisted)).symm⟩
      rw [hn, Function.iterate_succ_apply, hone]
      exact Function.iterate_fixed hfixed n
    · have hne : b ≠ button := fun heq => hlisted (heq ▸ hb)
      rw [List.count_eq_zero_of_not_mem hlisted]
      exact Function.update_of_ne hne ..
  have hreset : (press p button).s.reset =
      { p.s with
        widget := notify (back p.s.action.base.checked) p.s.buttons (press p button).s.widget } := rfl
  rw [hreset, hwidget]

/-- An activation of a panel whose buttons agree with the action, or one of whose buttons was just
clicked. -/
theorem resync_press {p : Panel β} (htogether : p.s.CheckableTogether) (h : p.s.Synchronized)
    {button : β} (hb : button ∈ p.s.buttons) :
    (press p button).s.resync = if p.s.action.base.checkable then p.s.negate else p.s := by
  have hsame := sameCheckable_press p button
  have hreset := reset_press h hb
  cases hq : p.s.action.base.checkable with
  | false =>
      rw [ActionButton.resync_eq_reset (Or.inr (hsame.action.trans hq)), hreset]
      rfl
  | true =>
      have hcheckable := htogether.buttons hq button hb
      have hsome : (press p button).s.HasCheckable :=
        ⟨button, hb, (hsame.widget button hb).trans hcheckable⟩
      have htoggle : (press p button).s.resync = (press p button).s.reset.negate :=
        ActionButton.resync_of_toggle hsome (hsame.action.trans hq)
      rw [htoggle, hreset]
      rfl

/-- A click on a button with one connection. -/
theorem react_click (applicationPid : Int64) {p : Panel β} {button : β}
    (henabled : (p.s.widget button).enabled = true) (hcount : p.s.clicked.count button = 1) :
    react applicationPid p (.click button) =
      ({ p with s := (press p button).s.resync },
        .clicked button ((press p button).s.widget button).checked ::
          Panel.out applicationPid (press p button) (.call .activate) ++ []) := by
  have hone : (press p button).s.clicked.count button = 1 := hcount
  have hstep : (Panel.react applicationPid (press p button) (.call .activate)).1 =
      { p with s := (press p button).s.resync } := by
    rw [← Panel.step_activate applicationPid (press p button)]
    rfl
  rw [react, if_pos henabled]
  dsimp only
  rw [hone]
  exact Prod.ext hstep rfl

/-- In a panel whose buttons agree with the action, clicking a button of the list that has one
connection leaves the panel as choosing the menu entry does. -/
theorem click_eq_trigger (applicationPid : Int64) {p : Panel β} (htogether : p.s.CheckableTogether)
    (hsynchronized : p.s.Synchronized) (hmirrors : p.s.Mirrors) {b : β} (hb : b ∈ p.s.buttons)
    (hcount : p.s.clicked.count b = 1) :
    step applicationPid p (.click b) = step applicationPid p .trigger ∧
      (Panel.Obs.authorized ∈ out applicationPid p (.click b) ↔
        Panel.Obs.authorized ∈ out applicationPid p .trigger) := by
  -- the button is enabled when the action is
  have henabled : (p.s.widget b).enabled = p.s.action.base.enabled :=
    congrArg Shown.enabled (hmirrors b hb)
  cases hon : p.s.action.base.enabled with
  | false =>
      have hoff : ¬ (p.s.widget b).enabled = true := by simp [henabled, hon]
      have hclick : react applicationPid p (.click b) = (p, []) := by rw [react, if_neg hoff]
      have htrigger : react applicationPid p .trigger = (p, []) := by
        rw [react, if_neg (by simp [hon])]
      rw [step, step, out, out, hclick, htrigger]
      exact ⟨rfl, Iff.rfl⟩
  | true =>
      have hclick := react_click applicationPid (henabled.trans hon) hcount
      refine ⟨?_, ?_⟩
      · rw [step_trigger applicationPid hon, step, hclick, resync_press htogether hsynchronized hb]
        split <;> rfl
      · have hactivated := Panel.authorized_mem_out_activate applicationPid (press p b)
        have hsame : (press p b).s.action.activates = p.s.action.activates := rfl
        have htrigger : out applicationPid p .trigger =
            if p.s.action.activates then [.authorized] else [] := by
          rw [out, react, if_pos hon]
        rw [out, hclick, htrigger]
        simp only [List.append_nil, List.mem_cons, reduceCtorEq, false_or]
        rw [hactivated, hsame]
        cases p.s.action.activates <;> simp

/-- A menu entry that calls `activate` of the action button toggles the action twice. -/
theorem checked_trigger_activate (applicationPid : Int64) {p : Panel β}
    (htogether : p.s.CheckableTogether) {b : β} (hb : b ∈ p.s.buttons)
    (hon : p.s.action.base.enabled = true) :
    (step applicationPid (step applicationPid p .trigger)
      (.panel (.call .activate))).s.action.base.checked = p.s.action.base.checked := by
  have htwice : (step applicationPid (step applicationPid p .trigger) (.panel (.call .activate))).s =
      (step applicationPid p .trigger).s.resync := Panel.step_activate applicationPid _
  rw [htwice, step_trigger applicationPid hon]
  cases hq : p.s.action.base.checkable with
  | false =>
      rw [if_neg Bool.false_ne_true, ActionButton.resync_eq_reset (Or.inr hq)]
      rfl
  | true =>
      have hcheckable := htogether.buttons hq b hb
      have hsome : p.s.negate.HasCheckable :=
        ⟨b, hb, ((ActionButton.sameCheckable_negate p.s).widget b hb).trans hcheckable⟩
      rw [if_pos rfl, ActionButton.resync_of_toggle hsome hq]
      exact Bool.not_not _

/-- **The buttons agree with the action, and a click does what a menu entry does.**  Over every run of
an application from a constructor on, events of the authority, calls of the action and of the buttons,
clicks of the user and choices of the menu entry, in any order: all checkable buttons of the list have
the checked state of the action after every event if and only if, whenever the action is toggled, each
of them is connected an odd number of times, and no click on one of them goes unheard.  In such a run
a click on any button of the list with one connection leaves the same panel as the menu entry, and
emits `authorized` if that does; and an entry that is connected to `activate` of the action button
instead leaves the action as it was. -/
theorem clicks_agree (applicationPid : Int64) (authority : Authority.System) (pkResult : Result)
    (actionId : QString) (reply : Reply .checkAuthorization) (widget : β → QAbstractButton)
    (ctor : Panel.Ctor β) (es : List (Event β)) :
    let p₀ := Panel.start applicationPid authority pkResult actionId reply widget ctor
    let p := run (step applicationPid) p₀ es
    (Always (step applicationPid) (fun p => p.s.Synchronized) p₀ es ↔
        EachStep (step applicationPid) Follows p₀ es) ∧
      (EachStep (step applicationPid) Follows p₀ es →
        ∀ b ∈ p.s.buttons, p.s.clicked.count b = 1 →
          step applicationPid p (.click b) = step applicationPid p .trigger ∧
            (Panel.Obs.authorized ∈ out applicationPid p (.click b) ↔
              Panel.Obs.authorized ∈ out applicationPid p .trigger) ∧
            (p.s.action.base.enabled = true →
              let twice := step applicationPid (step applicationPid p .trigger)
                (.panel (.call .activate))
              twice.s.action.base.checked = p.s.action.base.checked)) := by
  intro p₀ p
  have htogether : p.s.CheckableTogether :=
    run_inv (I := fun p : Panel β => p.s.CheckableTogether)
      (fun _ e h => checkableTogether_step applicationPid h e)
      (Panel.checkableTogether_start applicationPid authority pkResult actionId reply widget ctor) es
  have hmirrors : p.s.Mirrors :=
    run_inv (I := fun p : Panel β => p.s.Mirrors) (fun _ e h => mirrors_step applicationPid h e)
      (Panel.mirrors_start applicationPid authority pkResult actionId reply widget ctor) es
  have hiff := synchronized_iff_follows applicationPid authority pkResult actionId reply widget ctor es
  refine ⟨hiff, fun hfollows b hb hcount => ?_⟩
  obtain ⟨hstep, hauthorized⟩ :=
    click_eq_trigger applicationPid htogether (hiff.2 hfollows).last hmirrors hb hcount
  exact ⟨hstep, hauthorized, fun hon => checked_trigger_activate applicationPid htogether hb hon⟩

/-- A check box and a push button of an action that is allowed: the user clicks both, and then what the
check box shows is what the menu would have made of it. -/
theorem clicks_agree_two :
    let p₀ := Panel.start 42 (Authority.System.start Authority.freshAuthority) .unknown .null
      (.ok (some ⟨true, false⟩))
      (fun checkBox : Bool => ⟨true, true, .null, .null, .null, ⟨0⟩, checkBox, false⟩)
      (.actionButtons [false, true])
    let p := run (step 42) p₀ [.click true, .click false]
    Always (step 42) (fun p => p.s.Synchronized) p₀ [.click true, .click false] ∧
      step 42 p (.click true) = step 42 p .trigger := by
  intro p₀ p
  obtain ⟨hiff, hsame⟩ := clicks_agree 42 (Authority.System.start Authority.freshAuthority) .unknown
    .null (.ok (some ⟨true, false⟩))
    (fun checkBox : Bool => ⟨true, true, .null, .null, .null, ⟨0⟩, checkBox, false⟩)
    (.actionButtons [false, true]) [.click true, .click false]
  have hfollows : EachStep (step 42) Follows p₀ [.click true, .click false] := by
    refine eachStep_cons.2 ⟨?_, eachStep_cons.2 ⟨?_, eachStep_nil⟩⟩
    · exact fun _ => ⟨fun _ => by decide, fun _ _ => by decide⟩
    · exact fun _ => ⟨fun _ => by decide, fun _ _ => by decide⟩
  exact ⟨hiff.2 hfollows, (hsame hfollows true (by decide) (by decide)).1⟩

end Client

end Gui

end PolkitQt
