/-
**The tool tip and the what's-this text of an action.**

A row is copied into the `QAction` with the exception of its null texts: a tool tip or a what's-this
that is null leaves in place what is shown already.  So what is shown may stem from another state,
and depends on the history of the action.

Main definitions:

* `PolkitQt.QAction.texts` — the two texts, as they are shown;
* `PolkitQt.Gui.Row.texts` — what an action shows that never showed anything but this row;
* `PolkitQt.Gui.Action.OwnTexts` — the texts shown are those of the row the result selects;
* `PolkitQt.Gui.LeavesNothing` — a call that leaves no text of another row on show.

Main results:

* `PolkitQt.Gui.Action.OwnTexts.texts_eq` — own texts depend on nothing but the row;
* `PolkitQt.Gui.always_ownTexts_iff` — an error-free run shows own texts throughout exactly when
  none of its calls leaves a text behind.
-/

import PolkitQt.ButtonDisplay

set_option relaxedAutoImplicit false
set_option autoImplicit false

namespace PolkitQt

/-! ### What is shown -/

/-- The two texts, as characters: a null text shows as an empty one. -/
structure Texts where
  toolTip : List UInt16
  whatsThis : List UInt16
  deriving DecidableEq, Repr

def QAction.texts (q : QAction) : Texts := ⟨q.toolTip.utf16, q.whatsThis.utf16⟩

@[simp] theorem QAction.texts_setChecked (q : QAction) (checked : Bool) :
    (q.setChecked checked).1.texts = q.texts := by
  rw [setChecked]
  split <;> rfl

namespace Gui

open Runs

/-- What a new action shows once it is shown as this row. -/
def Row.texts (r : Row) : Texts := (Action.showRow r QAction.new).texts

/-- The text of the row, which stands in for a tool tip. -/
def Row.fallback (r : Row) : QString :=
  if r.text.isEmpty then QString.null.qtStrippedText else r.text.qtStrippedText

/-- Where the row has no text of its own, none is on show, or by chance the right one. -/
def Row.Covers (r : Row) (q : QAction) : Prop :=
  (r.toolTip.isNull = true → q.tooltip.isEmpty = true ∨ q.tooltip.utf16 = r.fallback.utf16) ∧
    (r.whatsThis.isNull = true → q.whatsThis.isEmpty = true)

instance (r : Row) (q : QAction) : Decidable (r.Covers q) :=
  inferInstanceAs (Decidable ((_ = _ → _ ∨ _) ∧ (_ = _ → _)))

namespace Action

/-- The texts shown are those of the row the result selects. -/
def OwnTexts (a : Action) : Prop := a.base.texts = (a.d.row a.d.pkResult).texts

/-- **Own texts do not depend on the history.** -/
theorem OwnTexts.texts_eq {a a' : Action} (h : OwnTexts a) (h' : OwnTexts a')
    (hrow : a.d.row a.d.pkResult = a'.d.row a'.d.pkResult) : a.base.texts = a'.base.texts := by
  rw [OwnTexts] at h h'
  rw [h, h', hrow]

theorem isEmpty_eq_true {s : QString} : s.isEmpty = true ↔ s.utf16 = [] := List.isEmpty_iff

/-- The tool tip of a row that is shown. -/
theorem toolTip_showRow (r : Row) (q : QAction) :
    (showRow r q).toolTip =
      if (if r.toolTip.isNull then q.tooltip else r.toolTip).isEmpty then r.fallback
      else if r.toolTip.isNull then q.tooltip else r.toolTip := rfl

/-- Showing a row shows its texts exactly when it covers what was there. -/
theorem texts_showRow_iff (r : Row) (q : QAction) : (showRow r q).texts = r.texts ↔ r.Covers q := by
  have hwhatsThis : (showRow r q).whatsThis.utf16 = (showRow r QAction.new).whatsThis.utf16 ↔
      (r.whatsThis.isNull = true → q.whatsThis.isEmpty = true) := by
    cases hnull : r.whatsThis.isNull with
    | false => simp [showRow, hnull]
    | true => simp [showRow, hnull, isEmpty_eq_true, QAction.new, QString.utf16]
  have htoolTip : (showRow r q).toolTip.utf16 = (showRow r QAction.new).toolTip.utf16 ↔
      (r.toolTip.isNull = true →
        q.tooltip.isEmpty = true ∨ q.tooltip.utf16 = r.fallback.utf16) := by
    rw [toolTip_showRow, toolTip_showRow]
    cases hnull : r.toolTip.isNull with
    | false => simp
    | true =>
        have hnew : QAction.new.tooltip.isEmpty = true := rfl
        cases hempty : q.tooltip.isEmpty with
        | true => simp [hnew, hempty]
        | false => simp [hnew, hempty]
  rw [Row.texts, QAction.texts, QAction.texts, Texts.mk.injEq, htoolTip, hwhatsThis]
  exact Iff.rfl

/-- Without an error, showing an action shows the texts of its row and those it has already. -/
theorem updateAction_texts (a : Action) :
    (updateAction false a).1.base.texts = (showRow (a.d.row a.d.pkResult) a.base).texts := by
  unfold updateAction
  rw [if_neg Bool.false_ne_true]
  cases hres : a.d.pkResult with
  | yes =>
      dsimp only
      split
      · exact QAction.texts_setChecked _ _
      · rfl
  | _ => rfl

theorem ownTexts_updateAction (a : Action) :
    OwnTexts (updateAction false a).1 ↔ (a.d.row a.d.pkResult).Covers a.base := by
  rw [OwnTexts, updateAction_d, updateAction_texts, texts_showRow_iff]

/-- An action that shows own texts is covered by its row already. -/
theorem OwnTexts.covers {a : Action} (h : OwnTexts a) :
    (a.d.row a.d.pkResult).Covers a.base := by
  rw [OwnTexts, Row.texts, QAction.texts, QAction.texts, Texts.mk.injEq] at h
  obtain ⟨htoolTip, hwhatsThis⟩ := h
  constructor
  · intro hnull
    have hnew : QAction.new.tooltip.isEmpty = true := rfl
    rw [toolTip_showRow, if_pos hnull, if_pos hnew, QAction.toolTip] at htoolTip
    cases hempty : a.base.tooltip.isEmpty with
    | true => exact Or.inl rfl
    | false =>
        rw [hempty, if_neg Bool.false_ne_true] at htoolTip
        exact Or.inr htoolTip
  · intro hnull
    rw [isEmpty_eq_true, hwhatsThis, showRow, if_pos hnull]
    rfl

end Action

/-! ### What a call leaves behind -/

/-- The row the result selects after an error-free call. -/
def Action.rowAfter (a : Action) (call : Call) : Row :=
  match call with
  | .setPolkitAction _ reply | .setTargetPID _ reply | .configChanged reply =>
      a.d.row (Action.verdict reply)
  | .setText .. | .setToolTip .. | .setWhatsThis .. | .setIcon .. | .setEnabled .. |
    .setVisible .. =>
      match call.edit? with
      | some (states, f) => (a.d.edit states f).row a.d.pkResult
      | none => a.d.row a.d.pkResult
  | .setChecked _ | .activate => a.d.row a.d.pkResult

/-- The row that the event selects covers what the action shows. -/
def LeavesNothing (w : Screen) : Screen.Event → Prop
  | .authority _ => True
  | .call call => (w.action.rowAfter call).Covers w.action.base

instance (w : Screen) : (e : Screen.Event) → Decidable (LeavesNothing w e)
  | .authority _ => isTrue trivial
  | .call call => inferInstanceAs (Decidable ((w.action.rowAfter call).Covers w.action.base))

/-- An error-free check has polkit's answer as its result. -/
theorem pkResult_computePkResult (applicationPid : Int64) {authority : Authority.System}
    {a : Action} {reply : Reply .checkAuthorization}
    (herr : NoError (Action.computePkResult applicationPid authority a reply).authority) :
    (Action.computePkResult applicationPid authority a reply).action.d.pkResult =
      Action.verdict reply := by
  have hne : (Action.computePkResult applicationPid authority a reply).action.d.pkResult ≠
      .unknown := by
    intro hunknown
    have htrue := (Action.unknown_iff_hasError applicationPid authority a reply).1 hunknown
    rw [herr] at htrue
    exact Bool.false_ne_true htrue
  rw [Action.computePkResult_pkResult] at hne ⊢
  cases herr' : authority.d.hasError with
  | true => simp [herr'] at hne
  | false => rfl

/-- The row a result selects is one of three. -/
theorem row_congr {d d' : Action.Private} (hno : d.no = d'.no) (hauth : d.auth = d'.auth)
    (hyes : d.yes = d'.yes) (result : Result) : d.row result = d'.row result := by
  cases result with
  | yes => exact hyes
  | challenge => exact hauth
  | no => exact hno
  | unknown => exact hno

/-- The action asks and shows itself. -/
theorem ownTexts_refresh_iff (applicationPid : Int64) {authority : Authority.System}
    {a : Action} {reply : Reply .checkAuthorization}
    (herr : NoError (Action.computePkResult applicationPid authority a reply).authority) :
    (Action.refresh (Action.computePkResult applicationPid authority a reply)).action.OwnTexts ↔
      (a.d.row (Action.verdict reply)).Covers a.base := by
  have haction :
      (Action.refresh (Action.computePkResult applicationPid authority a reply)).action =
        (Action.updateAction false
          (Action.computePkResult applicationPid authority a reply).action).1 := by
    rw [← herr]
    rfl
  have hrow : (Action.computePkResult applicationPid authority a reply).action.d.row
      (Action.verdict reply) = a.d.row (Action.verdict reply) := row_congr rfl rfl rfl _
  rw [haction, Action.ownTexts_updateAction, pkResult_computePkResult applicationPid herr, hrow]
  exact Iff.rfl

/-- So it does after a change of what the rows do not depend on. -/
theorem ownTexts_asked_iff (applicationPid : Int64) {authority : Authority.System} {a : Action}
    {d : Action.Private} {reply : Reply .checkAuthorization}
    (hrow : ∀ result, d.row result = a.d.row result)
    (herr : NoError (Action.computePkResult applicationPid authority ⟨a.base, d⟩ reply).authority) :
    (Action.refresh
        (Action.computePkResult applicationPid authority ⟨a.base, d⟩ reply)).action.OwnTexts ↔
      (a.d.row (Action.verdict reply)).Covers a.base := by
  rw [← hrow]
  exact ownTexts_refresh_iff applicationPid herr

theorem ownTexts_set_iff {authority : Authority.System} {a : Action} (herr : NoError authority)
    (states : States) (f : Row → Row) :
    (Action.set authority a states f).action.OwnTexts ↔
      ((a.d.edit states f).row a.d.pkResult).Covers a.base := by
  have haction : (Action.set authority a states f).action =
      (Action.updateAction false { a with d := a.d.edit states f }).1 := by
    rw [← herr]
    rfl
  rw [haction, Action.ownTexts_updateAction, Action.Private.pkResult_edit]

/-- **A call keeps own texts exactly when it leaves nothing of another row on show.** -/
theorem ownTexts_step_iff (applicationPid : Int64) {w : Screen} (herr : NoError w.authority)
    (e : Screen.Event) (herr' : NoError (Screen.step applicationPid w e).authority)
    (h : w.action.OwnTexts) :
    (Screen.step applicationPid w e).action.OwnTexts ↔ LeavesNothing w e := by
  cases e with
  | authority e => exact ⟨fun _ => trivial, fun _ => h⟩
  | call call =>
      cases call with
      | setPolkitAction actionId reply =>
          exact ownTexts_asked_iff applicationPid (row_congr rfl rfl rfl) herr'
      | setTargetPID pid reply =>
          exact ownTexts_asked_iff applicationPid (row_congr rfl rfl rfl) herr'
      | configChanged reply =>
          revert herr'
          simp only [Screen.step, Action.perform, Action.configChanged]
          split
          · exact ownTexts_refresh_iff applicationPid
          · next hsame =>
              intro herr'
              -- the result is what it was, and so is the action
              rw [Action.computePkResult_changed, Bool.not_eq_true, bne_eq_false_iff_eq] at hsame
              rw [Action.computePkResult_same applicationPid w.authority w.action reply hsame.symm]
              rw [pkResult_computePkResult applicationPid herr'] at hsame
              have hcovers := h.covers
              rw [hsame] at hcovers
              exact ⟨fun _ => hcovers, fun _ => h⟩
      | setText text states => exact ownTexts_set_iff herr _ _
      | setToolTip toolTip states => exact ownTexts_set_iff herr _ _
      | setWhatsThis whatsThis states => exact ownTexts_set_iff herr _ _
      | setIcon icon states => exact ownTexts_set_iff herr _ _
      | setEnabled enabled states => exact ownTexts_set_iff herr _ _
      | setVisible visible states => exact ownTexts_set_iff herr _ _
      | setChecked checked =>
          have htexts : (Screen.step applicationPid w (.call (.setChecked checked))).action.OwnTexts ↔
              w.action.OwnTexts := by
            rw [Action.OwnTexts, Action.OwnTexts, ← QAction.texts_setChecked w.action.base checked]
            exact Iff.rfl
          exact ⟨fun _ => h.covers, fun _ => htexts.2 h⟩
      | activate => exact ⟨fun _ => h.covers, fun _ => h⟩

/-! ### Over a run -/

/-- A new action has no texts, and shows none. -/
theorem ownTexts_start (applicationPid : Int64) (authority : Authority.System) (pkResult : Result)
    (actionId : QString) (reply : Reply .checkAuthorization)
    (herr : NoError (Screen.start applicationPid authority pkResult actionId reply).authority) :
    (Screen.start applicationPid authority pkResult actionId reply).action.OwnTexts :=
  (ownTexts_refresh_iff applicationPid herr).2 ⟨fun _ => Or.inl rfl, fun _ => rfl⟩

/-- **When the texts do not leak.**  Over every error-free run of an action, from its constructor
on: in every state reached the tool tip and the what's-this text shown are those of the row the
result selects, and so do not depend on the history, if and only if every call selects a row that
covers what is shown before it — where the row's what's-this is null, none is on show, and where
its tool tip is null, none has been set in the `QAction`, or the one that was is the text that
stands in for it. -/
theorem always_ownTexts_iff (applicationPid : Int64) (authority : Authority.System)
    (pkResult : Result) (actionId : QString) (reply : Reply .checkAuthorization)
    (es : List Screen.Event)
    (herr : Always (Screen.step applicationPid) (fun w => NoError w.authority)
      (Screen.start applicationPid authority pkResult actionId reply) es) :
    Always (Screen.step applicationPid) (fun w => w.action.OwnTexts)
        (Screen.start applicationPid authority pkResult actionId reply) es ↔
      EachStep (Screen.step applicationPid) LeavesNothing
        (Screen.start applicationPid authority pkResult actionId reply) es := by
  have hstart := ownTexts_start applicationPid authority pkResult actionId reply herr.head
  refine Always.iff_eachStep (P := fun w : Screen => w.action.OwnTexts) ?_ hstart herr
  intro w e herr herr' h
  exact ownTexts_step_iff applicationPid herr e herr' h

/-- "Go!" -/
def goAhead : QString := .ofUtf16 [0x47, 0x6F, 0x21]

/-- The run that sets a tool tip for every state, before the answer changes from yes to no. -/
theorem always_ownTexts_iff_all :
    Always (Screen.step 42) (fun w => w.action.OwnTexts)
      (Screen.start 42 (Authority.System.start Authority.freshAuthority) .unknown .null
        (.ok (some ⟨true, false⟩)))
      [.call (.setToolTip goAhead State.all.flag), .call (.configChanged (.ok (some ⟨false, false⟩)))] :=
  (always_ownTexts_iff 42 _ .unknown .null _ _ (by decide)).2 (by decide)

/-- Two error-free runs of an action with a tool tip for yes.  Both end with the result no and the
same private data; in the first the result was yes when the tool tip was set, and it is still
shown. -/
theorem toolTip_leaks :
    let authority := Authority.System.start Authority.freshAuthority
    let w := Screen.start 42 authority .unknown .null (.ok (some ⟨true, false⟩))
    let es : List Screen.Event := [.call (.setToolTip goAhead State.yes.flag),
      .call (.configChanged (.ok (some ⟨false, false⟩)))]
    let w' := Screen.start 42 authority .unknown .null (.ok (some ⟨false, false⟩))
    let es' : List Screen.Event := [.call (.setToolTip goAhead State.yes.flag)]
    Always (Screen.step 42) (fun w => NoError w.authority) w es ∧
      Always (Screen.step 42) (fun w => NoError w.authority) w' es' ∧
        (run (Screen.step 42) w es).action.d = (run (Screen.step 42) w' es').action.d ∧
          (run (Screen.step 42) w es).action.base.texts ≠
            (run (Screen.step 42) w' es').action.base.texts := by
  intro authority w es w' es'
  refine ⟨by decide, by decide, by decide, by decide⟩

end Gui

end PolkitQt
