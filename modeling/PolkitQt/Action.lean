/-
**The action: a `QAction` that follows an authorization.**

`Gui::Action` asks the authority, synchronously, whether a process may perform a polkit action,
and shows itself accordingly.  It stores one row of appearance for each of four states — self
blocked, no, auth, yes — and copies the row its last result selects into the `QAction` it is.
Copying is skipped while an error is latched in the authority.

The six setters with a state mask differ only in the property they write, so they are one function
applied to a change of row.  Every function that asks the authority takes polkit's reply as an
argument; signals are returned in the order of emission, and the request an action makes is kept
beside them.

Main definitions:

* `PolkitQt.Gui.Row` — the entries stored for a state;
* `PolkitQt.Gui.Action`, `PolkitQt.Gui.Action.Private`;
* `PolkitQt.Gui.Action.computePkResult`, `PolkitQt.Gui.Action.updateAction`;
* `PolkitQt.Gui.Action.Call`, `PolkitQt.Gui.Action.perform` — everything that can happen to an
  action.

Main results:

* `PolkitQt.Gui.Action.computePkResult_verdict` — a result other than `Unknown` is polkit's answer;
* `PolkitQt.Gui.Action.performed` — **what a call does** is one of four things.
-/

import PolkitQt.AuthoritySystem
import PolkitQt.QtGui

set_option relaxedAutoImplicit false
set_option autoImplicit false

namespace PolkitQt

namespace Gui

/-! ### States -/

/-- `Action::State`. -/
inductive State
  | none
  | selfBlocked
  | yes
  | no
  | auth
  | all
  deriving DecidableEq, Repr

/-- `Action::States`: a mask of states. -/
abbrev States := BitVec 32

/-- The bit of a state. -/
def State.flag : State → States
  | none => 0
  | selfBlocked => 1
  | yes => 2
  | no => 4
  | auth => 8
  | all => 512

/-- `states & flag`, as a condition. -/
def States.test (states : States) (state : State) : Bool := states &&& state.flag != 0

/-- The entries stored for one state. -/
structure Row where
  visible : Bool
  enabled : Bool
  text : QString
  whatsThis : QString
  toolTip : QString
  icon : QIcon
  deriving DecidableEq, Repr

def Row.shown (r : Row) : Shown := ⟨r.visible, r.enabled, r.text, r.icon⟩

/-! ### The action -/

/-- `Action::Private`. -/
structure Action.Private where
  actionId : QString
  pkResult : Result
  targetPID : Int64
  initiallyChecked : Bool
  selfBlocked : Row
  no : Row
  auth : Row
  yes : Row
  deriving DecidableEq, Repr

/-- `Action`: the `QAction` it is, and its private data. -/
structure Action where
  base : QAction
  d : Action.Private
  deriving DecidableEq, Repr

/-- A signal an action emits. -/
inductive Signal
  | toggled (checked : Bool)
  | dataChanged
  | authorized
  deriving DecidableEq, Repr

/-- A call of `checkAuthorizationSync` made by an action: its arguments, the request sent if one
was, polkit's reply if it was asked, and the value returned. -/
structure CheckCall where
  actionId : QString
  subject : Subject
  request : Option Request
  reply : Reply .checkAuthorization
  value : Result

namespace Action

namespace Private

/-- A row with the given defaults; the texts are null and so is the icon. -/
def defaultRow (visible enabled : Bool) : Row := ⟨visible, enabled, .null, .null, .null, ⟨0⟩⟩

/-- `Private(p)`.  The constructor does not set `pkResult`, so what it holds is a parameter. -/
def new (applicationPid : Int64) (pkResult : Result) : Private where
  actionId := .null
  pkResult := pkResult
  targetPID := applicationPid
  initiallyChecked := false
  selfBlocked := defaultRow true false
  no := defaultRow true false
  auth := defaultRow true true
  yes := defaultRow true true

/-- The row a result selects: nothing is shown as self blocked. -/
def row (d : Private) : Result → Row
  | .yes => d.yes
  | .challenge => d.auth
  | .no | .unknown => d.no

/-- The chain of tests the six setters share.  `All` goes first, and of the other states only the
first that the mask contains is changed. -/
def edit (d : Private) (states : States) (f : Row → Row) : Private :=
  if states.test .all then
    { d with selfBlocked := f d.selfBlocked, no := f d.no, auth := f d.auth, yes := f d.yes }
  else if states.test .auth then { d with auth := f d.auth }
  else if states.test .no then { d with no := f d.no }
  else if states.test .selfBlocked then { d with selfBlocked := f d.selfBlocked }
  else if states.test .yes then { d with yes := f d.yes }
  else d

@[simp] theorem actionId_edit (d : Private) (states : States) (f : Row → Row) :
    (d.edit states f).actionId = d.actionId := by
  simp only [edit, apply_ite Private.actionId, ite_self]

@[simp] theorem pkResult_edit (d : Private) (states : States) (f : Row → Row) :
    (d.edit states f).pkResult = d.pkResult := by
  simp only [edit, apply_ite Private.pkResult, ite_self]

@[simp] theorem targetPID_edit (d : Private) (states : States) (f : Row → Row) :
    (d.edit states f).targetPID = d.targetPID := by
  simp only [edit, apply_ite Private.targetPID, ite_self]

end Private

/-! ### Reading -/

/-- The chain of cases the six getters share. -/
def get {β : Type} (a : Action) (state : State) (entry : Row → β) (current null : β) : β :=
  match state with
  | .yes => entry a.d.yes
  | .no => entry a.d.no
  | .auth => entry a.d.auth
  | .selfBlocked => entry a.d.selfBlocked
  | .none => current
  | .all => null

def text (a : Action) (state : State) : QString := a.get state Row.text a.base.text .null

def toolTip (a : Action) (state : State) : QString :=
  a.get state Row.toolTip a.base.toolTip .null

def whatsThis (a : Action) (state : State) : QString :=
  a.get state Row.whatsThis a.base.whatsThis .null

def icon (a : Action) (state : State) : QIcon := a.get state Row.icon a.base.icon ⟨0⟩

def isVisible (a : Action) (state : State) : Bool := a.get state Row.visible a.base.visible false

def isEnabled (a : Action) (state : State) : Bool := a.get state Row.enabled a.base.enabled false

/-- `targetPID()`: 0 stands for the application itself. -/
def targetPID (applicationPid : Int64) (a : Action) : Int64 :=
  if a.d.targetPID ≠ 0 then a.d.targetPID else applicationPid

/-! ### Asking and showing -/

/-- What `computePkResult` leaves: the authority, the action, whether the result changed, and the
call it made. -/
structure Computed where
  authority : Authority.System
  action : Action
  changed : Bool
  call : CheckCall

/-- `Private::computePkResult`. -/
def computePkResult (applicationPid : Int64) (authority : Authority.System) (a : Action)
    (reply : Reply .checkAuthorization) : Computed :=
  let subject := unixProcessSubject (a.targetPID applicationPid)
  let o := Authority.checkAuthorizationSync authority.d a.d.actionId subject 0 reply
  { authority := (authority.sync .checkAuthorization o reply).1
    action := { a with d := { a.d with pkResult := o.value } }
    changed := a.d.pkResult != o.value
    call := ⟨a.d.actionId, subject, o.request, reply, o.value⟩ }

/-- A row is copied into the `QAction`; a null what's-this or tool tip is not. -/
def showRow (r : Row) (q : QAction) : QAction where
  visible := r.visible
  enabled := r.enabled
  text := r.text
  whatsThis := if r.whatsThis.isNull then q.whatsThis else r.whatsThis
  tooltip := if r.toolTip.isNull then q.tooltip else r.toolTip
  icon := r.icon
  checkable := q.checkable
  checked := q.checked

/-- `Private::updateAction`. -/
def updateAction (hasError : Bool) (a : Action) : Action × List Signal :=
  if hasError then (a, [])
  else
    match a.d.pkResult with
    | .unknown | .no => ({ a with base := showRow a.d.no a.base }, [.dataChanged])
    | .challenge => ({ a with base := showRow a.d.auth a.base }, [.dataChanged])
    | .yes =>
        let q := showRow a.d.yes a.base
        if q.checkable then
          let (q, toggled) := q.setChecked (!a.d.initiallyChecked)
          ({ a with base := q }, (toggled.map Signal.toggled).toList ++ [.dataChanged])
        else ({ a with base := q }, [.dataChanged])

/-! ### Calls and slots -/

/-- What a call or a slot leaves: the authority, the action, the signals emitted and the check
made, if one was. -/
structure Outcome where
  authority : Authority.System
  action : Action
  signals : List Signal
  call : Option CheckCall

/-- The tail of the functions that ask and then show in any case. -/
def refresh (c : Computed) : Outcome :=
  let (a, signals) := updateAction c.authority.d.hasError c.action
  ⟨c.authority, a, signals, some c.call⟩

section Calls

variable (applicationPid : Int64) (authority : Authority.System) (a : Action)

def setPolkitAction (actionId : QString) (reply : Reply .checkAuthorization) : Outcome :=
  let a := { a with d := { a.d with actionId := actionId } }
  refresh (computePkResult applicationPid authority a reply)

def setTargetPID (pid : Int64) (reply : Reply .checkAuthorization) : Outcome :=
  let a := { a with d := { a.d with targetPID := pid } }
  refresh (computePkResult applicationPid authority a reply)

/-- `Private::configChanged`: the action is shown anew only if the result changed. -/
def configChanged (reply : Reply .checkAuthorization) : Outcome :=
  let c := computePkResult applicationPid authority a reply
  if c.changed then refresh c else ⟨c.authority, c.action, [], some c.call⟩

/-- The body the six setters share. -/
def set (states : States) (f : Row → Row) : Outcome :=
  let a := { a with d := a.d.edit states f }
  let (a, signals) := updateAction authority.d.hasError a
  ⟨authority, a, signals, none⟩

def setText (text : QString) (states : States) : Outcome :=
  set authority a states fun r => { r with text := text }

def setToolTip (toolTip : QString) (states : States) : Outcome :=
  set authority a states fun r => { r with toolTip := toolTip }

def setWhatsThis (whatsThis : QString) (states : States) : Outcome :=
  set authority a states fun r => { r with whatsThis := whatsThis }

def setIcon (icon : QIcon) (states : States) : Outcome :=
  set authority a states fun r => { r with icon := icon }

def setEnabled (enabled : Bool) (states : States) : Outcome :=
  set authority a states fun r => { r with enabled := enabled }

def setVisible (visible : Bool) (states : States) : Outcome :=
  set authority a states fun r => { r with visible := visible }

/-- `setChecked`: the state is remembered, to be able to undo changes. -/
def setChecked (checked : Bool) : Outcome :=
  let (q, toggled) := a.base.setChecked checked
  ⟨authority, { base := q, d := { a.d with initiallyChecked := checked } },
    (toggled.map Signal.toggled).toList, none⟩

/-- Whether `activate` emits `authorized()`, which is also what it returns. -/
def activates : Bool :=
  match a.d.pkResult with
  | .yes | .challenge => true
  | .no | .unknown => a.d.no.enabled

def activate : Outcome := ⟨authority, a, if a.activates then [.authorized] else [], none⟩

/-- `Action(actionId, parent)`; `pkResult` is what the member held before it was set. -/
def construct (pkResult : Result) (actionId : QString) (reply : Reply .checkAuthorization) :
    Outcome :=
  setPolkitAction applicationPid authority ⟨QAction.new, Private.new applicationPid pkResult⟩
    actionId reply

end Calls

/-- The calls and slots of an action, with their arguments. -/
inductive Call
  | setPolkitAction (actionId : QString) (reply : Reply .checkAuthorization)
  | setTargetPID (pid : Int64) (reply : Reply .checkAuthorization)
  | configChanged (reply : Reply .checkAuthorization)
  | setText (text : QString) (states : States)
  | setToolTip (toolTip : QString) (states : States)
  | setWhatsThis (whatsThis : QString) (states : States)
  | setIcon (icon : QIcon) (states : States)
  | setEnabled (enabled : Bool) (states : States)
  | setVisible (visible : Bool) (states : States)
  | setChecked (checked : Bool)
  | activate

/-- One call. -/
def perform (applicationPid : Int64) (authority : Authority.System) (a : Action) : Call → Outcome
  | .setPolkitAction actionId reply => setPolkitAction applicationPid authority a actionId reply
  | .setTargetPID pid reply => setTargetPID applicationPid authority a pid reply
  | .configChanged reply => configChanged applicationPid authority a reply
  | .setText text states => setText authority a text states
  | .setToolTip toolTip states => setToolTip authority a toolTip states
  | .setWhatsThis whatsThis states => setWhatsThis authority a whatsThis states
  | .setIcon icon states => setIcon authority a icon states
  | .setEnabled enabled states => setEnabled authority a enabled states
  | .setVisible visible states => setVisible authority a visible states
  | .setChecked checked => setChecked authority a checked
  | .activate => activate authority a

/-! ### What a check does -/

/-- polkit answered the call, without an error and with this result. -/
def Answered (call : CheckCall) (value : Result) : Prop :=
  (∃ authority, call.request = some (.checkAuthorization authority call.subject.subject
      (cString call.actionId.toLatin1) none 0)) ∧
    ∃ r, call.reply = .ok (some r) ∧ polkitResultToResult r = value

/-- polkit's answer, if it gives one. -/
def verdict (reply : Reply .checkAuthorization) : Result :=
  match reply with
  | .ok (some r) => polkitResultToResult r
  | .ok none | .error _ => .unknown

/-- The operation behind `checkAuthorizationSync`. -/
def checkOperation (applicationPid : Int64) (a : Action) : Authority.Operation :=
  .checkAuthorization a.d.actionId (unixProcessSubject (a.targetPID applicationPid)) 0 .empty

section Check

variable (applicationPid : Int64) (authority : Authority.System) (a : Action)

/-- Asking is one event of the authority. -/
theorem computePkResult_authority (reply : Reply .checkAuthorization) :
    (computePkResult applicationPid authority a reply).authority =
      Authority.step authority (.sync (a.checkOperation applicationPid) reply) := rfl

/-- The call is about the action's own id and target process. -/
theorem computePkResult_call (reply : Reply .checkAuthorization) :
    let c := computePkResult applicationPid authority a reply
    c.call.actionId = a.d.actionId ∧
      c.call.subject = unixProcessSubject (a.targetPID applicationPid) := ⟨rfl, rfl⟩

/-- **The result is polkit's answer or an error is latched.** -/
theorem computePkResult_verdict (reply : Reply .checkAuthorization) :
    let c := computePkResult applicationPid authority a reply
    (Answered c.call c.action.d.pkResult ∧ c.action.d.pkResult ≠ .unknown ∧
        c.authority.d.hasError = false) ∨
      (c.action.d.pkResult = .unknown ∧ c.authority.d.hasError = true) := by
  intro c
  have hpriv : c.authority.d = (Authority.checkAuthorizationSync authority.d a.d.actionId
      (unixProcessSubject (a.targetPID applicationPid)) 0 reply).priv :=
    Authority.System.sync_d _ _ _ _
  rcases Authority.checkAuthorizationSync_spec authority.d a.d.actionId
    (unixProcessSubject (a.targetPID applicationPid)) 0 reply with
    ⟨hsame, herr, hrequest, r, hr, hvalue⟩ | ⟨herr, hvalue⟩
  · left
    refine ⟨⟨⟨_, hrequest⟩, r, hr, hvalue⟩, ?_, ?_⟩
    · intro hunknown
      exact polkitResultToResult_ne_unknown r (hvalue.trans hunknown)
    · rw [hpriv, hsame]
      exact herr
  · right
    refine ⟨hvalue, ?_⟩
    rw [hpriv]
    exact herr

/-- A check polkit answers while nothing is latched gives its answer. -/
theorem computePkResult_answered (herr : authority.d.hasError = false)
    (r : PolkitAuthorizationResult) :
    let c := computePkResult applicationPid authority a (.ok (some r))
    c.action.d.pkResult = polkitResultToResult r ∧ c.authority.d.hasError = false := by
  intro c
  obtain ⟨hvalue, hsame⟩ := Authority.checkAuthorizationSync_answered herr a.d.actionId
    (unixProcessSubject (a.targetPID applicationPid)) rfl 0 r
  have hpriv : c.authority.d = authority.d := (Authority.System.sync_d _ _ _ _).trans hsame
  refine ⟨hvalue, ?_⟩
  rw [hpriv]
  exact herr

theorem computePkResult_changed (reply : Reply .checkAuthorization) :
    (computePkResult applicationPid authority a reply).changed =
      (a.d.pkResult != (computePkResult applicationPid authority a reply).action.d.pkResult) := rfl

/-- Asking changes nothing but the result. -/
theorem computePkResult_same (reply : Reply .checkAuthorization)
    (h : (computePkResult applicationPid authority a reply).action.d.pkResult = a.d.pkResult) :
    (computePkResult applicationPid authority a reply).action = a := by
  have haction : (computePkResult applicationPid authority a reply).action =
      { a with d := { a.d with pkResult :=
        (computePkResult applicationPid authority a reply).action.d.pkResult } } := rfl
  rw [haction, h]

theorem unknown_iff_hasError (reply : Reply .checkAuthorization) :
    (computePkResult applicationPid authority a reply).action.d.pkResult = .unknown ↔
      (computePkResult applicationPid authority a reply).authority.d.hasError = true := by
  rcases computePkResult_verdict applicationPid authority a reply with
    ⟨-, hne, herr⟩ | ⟨heq, herr⟩
  · simp [hne, herr]
  · simp [heq, herr]

/-- **The result is polkit's answer, unless an error is latched already.** -/
theorem computePkResult_pkResult (reply : Reply .checkAuthorization) :
    (computePkResult applicationPid authority a reply).action.d.pkResult =
      if authority.d.hasError then .unknown else verdict reply := by
  have hvalue : (computePkResult applicationPid authority a reply).action.d.pkResult =
      (Authority.checkAuthorizationSync authority.d a.d.actionId
        (unixProcessSubject (a.targetPID applicationPid)) 0 reply).value := rfl
  rw [hvalue]
  cases herr : authority.d.hasError with
  | true =>
      rw [if_pos rfl]
      rcases Authority.checkAuthorizationSync_spec authority.d a.d.actionId
        (unixProcessSubject (a.targetPID applicationPid)) 0 reply with ⟨-, hfalse, -⟩ | ⟨-, hvalue⟩
      · rw [herr] at hfalse
        exact absurd hfalse.symm Bool.false_ne_true
      · exact hvalue
  | false =>
      rw [if_neg Bool.false_ne_true]
      rcases Authority.checkAuthorizationSync_spec authority.d a.d.actionId
        (unixProcessSubject (a.targetPID applicationPid)) 0 reply with
        ⟨-, -, -, r, rfl, hr⟩ | ⟨htrue, hunknown⟩
      · exact hr.symm
      · rw [hunknown]
        match reply with
        | .ok none | .error _ => rfl
        | .ok (some r) =>
            -- an answer latches nothing
            rw [(Authority.checkAuthorizationSync_answered herr a.d.actionId
              (unixProcessSubject (a.targetPID applicationPid)) rfl 0 r).2, herr] at htrue
            exact absurd htrue Bool.false_ne_true

end Check

/-! ### What showing does -/

@[simp] theorem shown_showRow (r : Row) (q : QAction) : (showRow r q).shown = r.shown := rfl

@[simp] theorem updateAction_true (a : Action) : updateAction true a = (a, []) := rfl

/-- Showing an action leaves its private data alone. -/
@[simp] theorem updateAction_d (hasError : Bool) (a : Action) :
    (updateAction hasError a).1.d = a.d := by
  unfold updateAction
  split
  · rfl
  · cases a.d.pkResult with
    | yes =>
        dsimp only
        split <;> rfl
    | _ => rfl

@[simp] theorem refresh_d (c : Computed) : (refresh c).action.d = c.action.d :=
  updateAction_d _ _

/-- **Without an error, what is shown is the row the result selects.** -/
theorem updateAction_shown (a : Action) :
    (updateAction false a).1.base.shown = (a.d.row a.d.pkResult).shown := by
  unfold updateAction
  rw [if_neg Bool.false_ne_true]
  cases hres : a.d.pkResult with
  | yes =>
      dsimp only
      split
      · exact QAction.shown_setChecked _ _
      · rfl
  | _ => rfl

/-- Showing is announced, once the row is in place. -/
theorem dataChanged_mem_updateAction (a : Action) :
    Signal.dataChanged ∈ (updateAction false a).2 := by
  unfold updateAction
  rw [if_neg Bool.false_ne_true]
  cases a.d.pkResult with
  | yes =>
      dsimp only
      split
      · exact List.mem_append_right _ (List.mem_singleton.2 rfl)
      · exact List.mem_singleton.2 rfl
  | _ => exact List.mem_singleton.2 rfl

/-! ### What a call does -/

/-- The row a setter changes, and how. -/
def Call.edit? : Call → Option (States × (Row → Row))
  | setText text states => some (states, fun r => { r with text := text })
  | setToolTip toolTip states => some (states, fun r => { r with toolTip := toolTip })
  | setWhatsThis whatsThis states => some (states, fun r => { r with whatsThis := whatsThis })
  | setIcon icon states => some (states, fun r => { r with icon := icon })
  | setEnabled enabled states => some (states, fun r => { r with enabled := enabled })
  | setVisible visible states => some (states, fun r => { r with visible := visible })
  | setPolkitAction .. | setTargetPID .. | configChanged _ | setChecked _ | activate => none

/-- Everything a call can do. -/
inductive Performed (applicationPid : Int64) (authority : Authority.System) (a : Action) :
    Call → Outcome → Prop
  /-- The action asks and shows itself. -/
  | asked {call : Call} (a' : Action) (reply : Reply .checkAuthorization)
      (hedit : call.edit? = none) (hbase : a'.base = a.base) :
      Performed applicationPid authority a call
        (refresh (computePkResult applicationPid authority a' reply))
  /-- The action asks, and the result is what it was. -/
  | kept (reply : Reply .checkAuthorization)
      (hsame : (computePkResult applicationPid authority a reply).action = a) :
      Performed applicationPid authority a (.configChanged reply)
        ⟨(computePkResult applicationPid authority a reply).authority, a, [],
          some (computePkResult applicationPid authority a reply).call⟩
  /-- A row is changed. -/
  | edited {call : Call} (states : States) (f : Row → Row) (hedit : call.edit? = some (states, f)) :
      Performed applicationPid authority a call (set authority a states f)
  | checked (checked : Bool) :
      Performed applicationPid authority a (.setChecked checked) (setChecked authority a checked)
  | activated : Performed applicationPid authority a .activate (activate authority a)

/-- **Every call does one of these.** -/
theorem performed (applicationPid : Int64) (authority : Authority.System) (a : Action)
    (call : Call) :
    Performed applicationPid authority a call (perform applicationPid authority a call) := by
  cases call with
  | setPolkitAction actionId reply => exact Performed.asked _ reply rfl rfl
  | setTargetPID pid reply => exact Performed.asked _ reply rfl rfl
  | configChanged reply =>
      unfold perform configChanged
      dsimp only
      split
      · exact Performed.asked a reply rfl rfl
      · next hsame =>
          rw [computePkResult_changed, Bool.not_eq_true, bne_eq_false_iff_eq] at hsame
          have haction := computePkResult_same applicationPid authority a reply hsame.symm
          rw [haction]
          exact Performed.kept reply haction
  | setText text states => exact Performed.edited states _ rfl
  | setToolTip toolTip states => exact Performed.edited states _ rfl
  | setWhatsThis whatsThis states => exact Performed.edited states _ rfl
  | setIcon icon states => exact Performed.edited states _ rfl
  | setEnabled enabled states => exact Performed.edited states _ rfl
  | setVisible visible states => exact Performed.edited states _ rfl
  | setChecked checked => exact Performed.checked checked
  | activate => exact Performed.activated

/-- What holds of each of them holds of a call. -/
@[elab_as_elim] theorem performed_elim {applicationPid : Int64} {authority : Authority.System}
    {a : Action} {call : Call} {motive : Outcome → Prop}
    (h : ∀ o, Performed applicationPid authority a call o → motive o) :
    motive (perform applicationPid authority a call) :=
  h _ (performed applicationPid authority a call)

end Action

end Gui

end PolkitQt
