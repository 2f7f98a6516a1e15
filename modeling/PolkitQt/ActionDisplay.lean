/-
**What an action shows, and whether it recovers from an error.**

An action is up to date when its visible, enabled, text and icon are the entries stored for the row
its result selects.  Two shortcuts of the code stand in the way: nothing is shown while an error is
latched, and a change of configuration shows the action only if the result changed.  Each is
harmless alone.  Together they can leave an action stale for good: a setter called in the error
window changes the row on show and is not shown, and when the error is gone the same result comes
back and nothing is shown either.

Main definitions:

* `PolkitQt.Gui.Action.UpToDate`;
* `PolkitQt.Gui.Screen` — an action and the authority, with events on both;
* `PolkitQt.Gui.Recovers` — once the error is cleared and a check succeeds, the action is up to
  date;
* `PolkitQt.Gui.KeepsShownRow` — a setter does not change the row on show while an error is
  latched.

Main results:

* `PolkitQt.Gui.recovers_iff` — to recover is to be up to date, or to carry no result;
* `PolkitQt.Gui.always_recovers_iff` — a run keeps the action able to recover exactly when its
  setters keep the row on show.
-/

import PolkitQt.Action

set_option relaxedAutoImplicit false
set_option autoImplicit false

namespace PolkitQt

namespace Gui

open Runs

/-! ### Up to date -/

namespace Action

/-- The four properties shown are the entries of the row the result selects. -/
def UpToDate (a : Action) : Prop := a.base.shown = (a.d.row a.d.pkResult).shown

instance (a : Action) : Decidable a.UpToDate := inferInstanceAs (Decidable (_ = _))

theorem upToDate_updateAction (a : Action) : UpToDate (updateAction false a).1 := by
  rw [UpToDate, updateAction_d, updateAction_shown]

/-- An action that asked and shows itself is up to date unless an error is latched. -/
theorem upToDate_refresh {c : Computed} (h : c.authority.d.hasError = false) :
    UpToDate (refresh c).action := by
  have haction : (refresh c).action = (updateAction false c.action).1 := by
    rw [← h]
    rfl
  rw [haction]
  exact upToDate_updateAction c.action

theorem upToDate_set {authority : Authority.System} (a : Action) (states : States)
    (f : Row → Row) (h : authority.d.hasError = false) :
    UpToDate (set authority a states f).action := by
  have haction : (set authority a states f).action =
      (updateAction false { a with d := a.d.edit states f }).1 := by
    rw [← h]
    rfl
  rw [haction]
  exact upToDate_updateAction _

/-- `setChecked` shows nothing and changes no row. -/
theorem upToDate_setChecked {authority : Authority.System} {a : Action} (checked : Bool) :
    UpToDate (setChecked authority a checked).action ↔ UpToDate a := by
  have hshown : (setChecked authority a checked).action.base.shown = a.base.shown :=
    QAction.shown_setChecked a.base checked
  have hrow : (setChecked authority a checked).action.d.row
      (setChecked authority a checked).action.d.pkResult = a.d.row a.d.pkResult := rfl
  rw [UpToDate, hshown, hrow, UpToDate]

/-- A call that does not announce a change of data changes nothing that is shown. -/
theorem perform_announces (applicationPid : Int64) (authority : Authority.System) (a : Action)
    (call : Call) :
    Signal.dataChanged ∈ (perform applicationPid authority a call).signals ∨
      (perform applicationPid authority a call).action.base.shown = a.base.shown := by
  refine performed_elim fun o hdone => ?_
  cases hdone with
  | asked a' reply _ hbase =>
      unfold refresh
      cases (computePkResult applicationPid authority a' reply).authority.d.hasError with
      | true =>
          right
          rw [← hbase]
          rfl
      | false => exact Or.inl (dataChanged_mem_updateAction _)
  | kept reply _ => exact Or.inr rfl
  | edited states f _ =>
      unfold set
      cases authority.d.hasError with
      | true => exact Or.inr rfl
      | false => exact Or.inl (dataChanged_mem_updateAction _)
  | checked checked => exact Or.inr (QAction.shown_setChecked a.base checked)
  | activated => exact Or.inr rfl

/-- **While no error is latched, a call leaves the action up to date.** -/
theorem upToDate_perform {applicationPid : Int64} {authority : Authority.System} {a : Action}
    (h : UpToDate a) (call : Call)
    (herr : (perform applicationPid authority a call).authority.d.hasError = false) :
    UpToDate (perform applicationPid authority a call).action := by
  revert herr
  refine performed_elim fun o hdone herr => ?_
  cases hdone with
  | asked a' reply _ _ => exact upToDate_refresh herr
  | kept reply _ => exact h
  | edited states f _ => exact upToDate_set a states f herr
  | checked checked => exact (upToDate_setChecked checked).2 h
  | activated => exact h

end Action

/-! ### An action and the authority -/

/-- The authority and one action. -/
structure Screen where
  authority : Authority.System
  action : Action

namespace Screen

/-- Something happens to the authority, or the action is called. -/
inductive Event
  | authority (e : Authority.Event)
  | call (call : Action.Call)

def step (applicationPid : Int64) (w : Screen) : Event → Screen
  | .authority e => { w with authority := Authority.step w.authority e }
  | .call call =>
      let o := Action.perform applicationPid w.authority w.action call
      ⟨o.authority, o.action⟩

/-- An action is constructed. -/
def start (applicationPid : Int64) (authority : Authority.System) (pkResult : Result)
    (actionId : QString) (reply : Reply .checkAuthorization) : Screen :=
  let o := Action.construct applicationPid authority pkResult actionId reply
  ⟨o.authority, o.action⟩

end Screen

/-! ### Recovery -/

/-- `clearError()` is called, and then a change of configuration is handled whose check polkit
answers with `r`. -/
def recovery (applicationPid : Int64) (w : Screen) (r : PolkitAuthorizationResult) : Screen :=
  run (Screen.step applicationPid) w
    [.authority .clearError, .call (.configChanged (.ok (some r)))]

/-- Whatever the answer is, the action then has it as its result and is up to date. -/
def Recovers (applicationPid : Int64) (w : Screen) : Prop :=
  ∀ r, (recovery applicationPid w r).action.d.pkResult = polkitResultToResult r ∧
    (recovery applicationPid w r).action.UpToDate

/-- If the action carries a result, it is up to date. -/
def Fresh (a : Action) : Prop := a.d.pkResult ≠ .unknown → a.UpToDate

theorem exists_polkitResultToResult {v : Result} (h : v ≠ .unknown) :
    ∃ r, polkitResultToResult r = v := by
  cases v with
  | unknown => exact absurd rfl h
  | yes => exact ⟨⟨true, false⟩, rfl⟩
  | no => exact ⟨⟨false, false⟩, rfl⟩
  | challenge => exact ⟨⟨false, true⟩, rfl⟩

/-- What a recovery does: the action is shown if the answer is news, and left as it is if not. -/
theorem recovery_action (applicationPid : Int64) (w : Screen) (r : PolkitAuthorizationResult) :
    (recovery applicationPid w r).action.d.pkResult = polkitResultToResult r ∧
      if w.action.d.pkResult = polkitResultToResult r then
        (recovery applicationPid w r).action = w.action
      else (recovery applicationPid w r).action.UpToDate := by
  have hcleared : (Authority.step w.authority .clearError).d.hasError = false := rfl
  obtain ⟨hres, herr⟩ := Action.computePkResult_answered applicationPid _ w.action hcleared r
  have hstep : (recovery applicationPid w r).action =
      (Action.configChanged applicationPid (Authority.step w.authority .clearError) w.action
        (.ok (some r))).action := rfl
  rw [hstep]
  rw [Action.configChanged, Action.computePkResult_changed, hres]
  by_cases hsame : w.action.d.pkResult = polkitResultToResult r
  · rw [if_pos hsame, hsame, bne_self_eq_false, if_neg Bool.false_ne_true]
    refine ⟨hres, Action.computePkResult_same _ _ _ _ ?_⟩
    rw [hres, hsame]
  · rw [if_neg hsame, if_pos (bne_iff_ne.2 hsame)]
    refine ⟨?_, Action.upToDate_refresh herr⟩
    rw [Action.refresh_d, hres]

/-- **To recover is to be fresh.** -/
theorem recovers_iff (applicationPid : Int64) (w : Screen) :
    Recovers applicationPid w ↔ Fresh w.action := by
  constructor
  · intro h hne
    -- let polkit give the answer the action has already
    obtain ⟨r, hr⟩ := exists_polkitResultToResult hne
    have hkeep := (recovery_action applicationPid w r).2
    rw [if_pos hr.symm] at hkeep
    have hshown := (h r).2
    rw [hkeep] at hshown
    exact hshown
  · intro h r
    obtain ⟨hres, hkeep⟩ := recovery_action applicationPid w r
    refine ⟨hres, ?_⟩
    by_cases hsame : w.action.d.pkResult = polkitResultToResult r
    · rw [if_pos hsame] at hkeep
      rw [hkeep]
      refine h ?_
      rw [hsame]
      exact polkitResultToResult_ne_unknown r
    · rw [if_neg hsame] at hkeep
      exact hkeep

/-! ### Which calls keep an action fresh -/

/-- A setter called while an error is latched does not change the entries shown of the row the
result selects, if there is a result. -/
def KeepsShownRow (w : Screen) : Screen.Event → Prop
  | .authority _ => True
  | .call call => ∀ states f, call.edit? = some (states, f) → w.authority.d.hasError = true →
      w.action.d.pkResult ≠ .unknown →
        ((w.action.d.edit states f).row w.action.d.pkResult).shown =
          (w.action.d.row w.action.d.pkResult).shown

/-- An action that asked and shows itself is fresh: a result means that no error is latched. -/
theorem fresh_refresh (applicationPid : Int64) (authority : Authority.System) (a : Action)
    (reply : Reply .checkAuthorization) :
    Fresh (Action.refresh (Action.computePkResult applicationPid authority a reply)).action := by
  intro hne
  rw [Action.refresh_d] at hne
  refine Action.upToDate_refresh ?_
  rw [← Bool.not_eq_true]
  intro herr
  exact hne ((Action.unknown_iff_hasError applicationPid authority a reply).2 herr)

/-- A setter called while an error is latched keeps the action fresh exactly when it keeps the row
on show. -/
theorem fresh_set_iff {authority : Authority.System} {a : Action} (h : Fresh a)
    (herr : authority.d.hasError = true) (states : States) (f : Row → Row) :
    Fresh (Action.set authority a states f).action ↔
      (a.d.pkResult ≠ .unknown →
        ((a.d.edit states f).row a.d.pkResult).shown = (a.d.row a.d.pkResult).shown) := by
  have haction : (Action.set authority a states f).action =
      { a with d := a.d.edit states f } := by
    rw [Action.set, herr]
    rfl
  unfold Fresh Action.UpToDate
  rw [haction]
  dsimp only
  rw [Action.Private.pkResult_edit]
  refine forall_congr' fun hne => ?_
  have hshown : a.base.shown = (a.d.row a.d.pkResult).shown := h hne
  rw [hshown]
  exact eq_comm

/-- A call that is not a setter keeps the row on show. -/
theorem keepsShownRow_of_edit?_eq_none {w : Screen} {call : Action.Call}
    (h : call.edit? = none) : KeepsShownRow w (.call call) := by
  intro states f hsome
  rw [h] at hsome
  simp at hsome

/-- One event keeps a fresh action fresh exactly when it keeps the row on show. -/
theorem fresh_step_iff (applicationPid : Int64) {w : Screen} (h : Fresh w.action)
    (e : Screen.Event) :
    Fresh (Screen.step applicationPid w e).action ↔ KeepsShownRow w e := by
  cases e with
  | authority e => exact ⟨fun _ => trivial, fun _ => h⟩
  | call call =>
      show Fresh (Action.perform applicationPid w.authority w.action call).action ↔ _
      refine Action.performed_elim fun o hdone => ?_
      cases hdone with
      | asked a' reply hedit _ =>
          constructor
          · exact fun _ => keepsShownRow_of_edit?_eq_none hedit
          · exact fun _ => fresh_refresh applicationPid w.authority a' reply
      | kept reply _ =>
          constructor
          · exact fun _ => keepsShownRow_of_edit?_eq_none rfl
          · exact fun _ => h
      | edited states f hedit =>
          cases herr : w.authority.d.hasError with
          | true =>
              -- the row is changed and nothing is shown
              rw [fresh_set_iff h herr]
              constructor
              · intro hrow states' f' hsome _ hne
                rw [hedit] at hsome
                obtain ⟨rfl, rfl⟩ := Prod.mk.inj (Option.some.inj hsome)
                exact hrow hne
              · exact fun hrow hne => hrow states f hedit herr hne
          | false =>
              constructor
              · intro _ states' f' _ htrue
                simp [herr] at htrue
              · exact fun _ _ => Action.upToDate_set w.action states f herr
      | checked checked =>
          constructor
          · exact fun _ => keepsShownRow_of_edit?_eq_none rfl
          · exact fun _ hne => (Action.upToDate_setChecked checked).2 (h hne)
      | activated =>
          constructor
          · exact fun _ => keepsShownRow_of_edit?_eq_none rfl
          · exact fun _ => h

/-- **The action can recover exactly as long as its setters keep the row on show.**  Over every
run of an action, from its constructor on, with errors latched and cleared at any point: in every
state reached the action is up to date again after `clearError()` and a successful check if and
only if no setter called while an error was latched, the action carrying a result, changed an
entry shown of the row that result selects. -/
theorem always_recovers_iff (applicationPid : Int64) (authority : Authority.System)
    (pkResult : Result) (actionId : QString) (reply : Reply .checkAuthorization)
    (es : List Screen.Event) :
    Always (Screen.step applicationPid) (Recovers applicationPid)
        (Screen.start applicationPid authority pkResult actionId reply) es ↔
      EachStep (Screen.step applicationPid) KeepsShownRow
        (Screen.start applicationPid authority pkResult actionId reply) es := by
  refine always_iff_eachStep (I := fun _ => True) (fun _ _ _ => trivial) ?_ trivial ?_ es
  · intro w e _ hw
    rw [recovers_iff] at hw ⊢
    exact fresh_step_iff applicationPid hw e
  · rw [recovers_iff]
    exact fresh_refresh applicationPid authority _ reply

/-- polkit says no; then an unrelated call latches an error, and the text for no is set. -/
def staleRun : List Screen.Event :=
  [.authority (.sync (.checkAuthorization .null ⟨none⟩ 0 .empty) (.ok none)),
    .call (.setText (.ofUtf16 [0x4E, 0x6F]) State.no.flag)]

/-- The new text is never shown: not when it is set, and not when the error is gone and polkit
says no again. -/
theorem staleRun_not_recovers :
    ¬ Always (Screen.step 42) (Recovers 42)
      (Screen.start 42 (Authority.System.start Authority.freshAuthority) .unknown .null
        (.ok (some ⟨false, false⟩))) staleRun := by
  intro h
  have hlast := (recovers_iff 42 _).1 h.last
  exact absurd (hlast (by decide)) (by decide)

end Gui

end PolkitQt
