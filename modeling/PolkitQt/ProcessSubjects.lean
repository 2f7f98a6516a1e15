/-
**Which process a subject names, and which one an action asks about.**

A pid enters `PolkitQt1` as a `qint64`, and polkit takes and stores a `gint`: both constructors of
`UnixProcessSubject` that take a pid, and `setPid`, narrow it on the way.  A start time is a
`guint64` for polkit and a `quint64` or a `qint64` here, so nothing of it is lost; what polkit looks
up in place of a start time of 0 is left out.  An action keeps the pid it is given, and narrows it
each time it asks.

Main definitions:

* `PolkitQt.unixProcessSubjectWithStartTime`, `PolkitQt.Subject.setPid`, `PolkitQt.Subject.pid`,
  `PolkitQt.Subject.startTime`;
* `PolkitQt.UnixProcess` — the constructors that take a pid, and what a history gave last;
* `PolkitQt.Gui.AsksForTarget` — the process asked about is the one `targetPID()` reports;
* `PolkitQt.Gui.GivenFits` — the pid an event gives to an action fits a `gint`.

Main results:

* `PolkitQt.UnixProcess.readsBack_iff` — a history reads back exactly when the last pid fits;
* `PolkitQt.Gui.asksForTarget_of_fits`, `PolkitQt.Gui.targetsFit_step` — what one event does;
* `PolkitQt.Gui.namesProcess_iff` — over every history of a subject and every run of a desktop.
-/

import PolkitQt.ActionVerdict

set_option relaxedAutoImplicit false
set_option autoImplicit false

namespace PolkitQt

open Runs

/-! ### The pid and the start time of a subject -/

/-- `UnixProcessSubject(pid, startTime)`: the owner is left for polkit to look up. -/
def unixProcessSubjectWithStartTime (pid : Int64) (startTime : UInt64) : Subject :=
  ⟨polkitUnixProcessNewForOwner pid startTime (-1)⟩

/-- `polkit_unix_process_get_pid`: 0 if the pointer is null or not to a process. -/
def polkitUnixProcessGetPid : Option PolkitSubject → Int32
  | some (.unixProcess pid _ _) => pid
  | _ => 0

/-- `polkit_unix_process_get_start_time`: 0 if the pointer is null or not to a process. -/
def polkitUnixProcessGetStartTime : Option PolkitSubject → UInt64
  | some (.unixProcess _ startTime _) => startTime
  | _ => 0

/-- `polkit_unix_process_set_pid`: the pid is passed as a `gint`. -/
def polkitUnixProcessSetPid (subject : Option PolkitSubject) (pid : Int64) :
    Option PolkitSubject :=
  match subject with
  | some (.unixProcess _ startTime uid) => some (.unixProcess pid.toInt32 startTime uid)
  | subject => subject

namespace Subject

/-- `UnixProcessSubject::pid`: the `gint` is widened. -/
def pid (s : Subject) : Int64 := (polkitUnixProcessGetPid s.subject).toInt64

/-- `UnixProcessSubject::startTime`: the `guint64` becomes a `qint64`. -/
def startTime (s : Subject) : Int64 := (polkitUnixProcessGetStartTime s.subject).toInt64

/-- `UnixProcessSubject::setPid`. -/
def setPid (s : Subject) (pid : Int64) : Subject := ⟨polkitUnixProcessSetPid s.subject pid⟩

end Subject

/-! ### Narrowing -/

namespace Gui

/-- **Narrowing a pid to a `gint` and widening it again gives it back exactly when it fits.** -/
theorem toInt64_toInt32_iff {pid : Int64} : pid.toInt32.toInt64 = pid ↔ FitsGint pid := by
  constructor
  · intro h
    have hint : pid.toInt = pid.toInt32.toInt := by
      rw [← Int32.toInt_toInt64, h]
    have hlo := pid.toInt32.le_toInt
    have hhi := pid.toInt32.toInt_lt
    rw [FitsGint, hint]
    constructor
    · omega
    · omega
  · exact toInt64_toInt32

theorem namesProcess_unixProcessSubject_iff {pid : Int64} :
    NamesProcess (unixProcessSubject pid) pid ↔ FitsGint pid := by
  constructor
  · rintro ⟨p, hp, hpid⟩
    have hnarrow : p = pid.toInt32 := by
      simpa [unixProcessSubject, polkitUnixProcessNewForOwner] using hp.symm
    rw [hnarrow] at hpid
    exact toInt64_toInt32_iff.1 hpid
  · exact namesProcess_unixProcessSubject

end Gui

/-! ### Histories of a subject -/

namespace UnixProcess

open Gui

/-- The two constructors that take a pid. -/
inductive Constructor
  | ofPid (pid : Int64)
  | ofPidAndStartTime (pid : Int64) (startTime : UInt64)

namespace Constructor

def subject : Constructor → Subject
  | ofPid pid => unixProcessSubject pid
  | ofPidAndStartTime pid startTime => unixProcessSubjectWithStartTime pid startTime

def pid : Constructor → Int64
  | ofPid pid => pid
  | ofPidAndStartTime pid _ => pid

/-- The start time given, if one is. -/
def startTime? : Constructor → Option UInt64
  | ofPid _ => none
  | ofPidAndStartTime _ startTime => some startTime

end Constructor

/-- The subject after a constructor and any calls of `setPid`. -/
def history (c : Constructor) (pids : List Int64) : Subject := run Subject.setPid c.subject pids

/-- The pid given last. -/
def lastPid (c : Constructor) (pids : List Int64) : Int64 := pids.getLast?.getD c.pid

/-- The subject is invalid, or reads back as the pid and the start time given.  A start time is taken
as it is stored: that polkit looks it up for the process when it is given 0 is left out. -/
def ReadsBack (s : Subject) (pid : Int64) (startTime? : Option UInt64) : Prop :=
  s.isValid = false ∨ (s.pid = pid ∧ ∀ startTime ∈ startTime?, s.startTime.toUInt64 = startTime)

/-- What polkit holds after a call of `setPid`: of the process, only the pid is new. -/
theorem setPid_subject {s : Subject} {p : Int32} {startTime : UInt64} {uid : Int32}
    (h : s.subject = some (.unixProcess p startTime uid)) (pid : Int64) :
    (s.setPid pid).subject = some (.unixProcess pid.toInt32 startTime uid) := by
  rw [Subject.setPid, h]
  rfl

theorem constructor_subject (c : Constructor) :
    c.subject.subject = some (.unixProcess c.pid.toInt32 (c.startTime?.getD 0) (-1)) := by
  cases c <;> rfl

/-- **What polkit holds after a history**: the pid given last, narrowed, and the start time
given. -/
theorem history_subject (c : Constructor) (pids : List Int64) :
    (history c pids).subject =
      some (.unixProcess (lastPid c pids).toInt32 (c.startTime?.getD 0) (-1)) := by
  induction pids using List.reverseRecOn with
  | nil => exact constructor_subject c
  | append_singleton pids pid ih =>
      have hstep : history c (pids ++ [pid]) = (history c pids).setPid pid := by
        rw [history, run_append]
        rfl
      have hlast : lastPid c (pids ++ [pid]) = pid := by
        rw [lastPid, List.getLast?_concat]
        rfl
      rw [hstep, hlast]
      exact setPid_subject ih pid

/-- **A history reads back exactly when the pid given last fits a `gint`.**  The start time always
does. -/
theorem readsBack_iff (c : Constructor) (pids : List Int64) :
    ReadsBack (history c pids) (lastPid c pids) c.startTime? ↔ FitsGint (lastPid c pids) := by
  have hsubject := history_subject c pids
  have hvalid : (history c pids).isValid = true := by
    rw [Subject.isValid, hsubject]
    rfl
  have hpid : (history c pids).pid = (lastPid c pids).toInt32.toInt64 := by
    rw [Subject.pid, hsubject]
    rfl
  have hstart : ∀ startTime ∈ c.startTime?,
      (history c pids).startTime.toUInt64 = startTime := by
    intro startTime hmem
    rw [Subject.startTime, hsubject, Option.mem_def.1 hmem]
    exact UInt64.toUInt64_toInt64 startTime
  rw [ReadsBack, hvalid, hpid, ← toInt64_toInt32_iff]
  constructor
  · rintro (hfalse | ⟨hsame, -⟩)
    · exact absurd hfalse.symm Bool.false_ne_true
    · exact hsame
  · intro hsame
    exact Or.inr ⟨hsame, hstart⟩

end UnixProcess

/-! ### What a call of an action asks -/

namespace Gui

/-- The pid a call gives to the action. -/
def Action.Call.pid? : Action.Call → Option Int64
  | .setTargetPID pid _ => some pid
  | _ => none

namespace Action

section Calls

variable (applicationPid : Int64) (authority : Authority.System) (a : Action)

theorem targetPID_set (states : States) (f : Row → Row) :
    (set authority a states f).action.d.targetPID = a.d.targetPID := by
  simp [set]

/-- Only `setTargetPID` changes the process the action is about. -/
theorem targetPID_perform (call : Call) :
    (perform applicationPid authority a call).action.d.targetPID =
      call.pid?.getD a.d.targetPID := by
  cases call with
  | setPolkitAction actionId reply => simp [perform, setPolkitAction, computePkResult, Call.pid?]
  | setTargetPID pid reply => simp [perform, setTargetPID, computePkResult, Call.pid?]
  | configChanged reply =>
      simp only [perform, configChanged]
      split
      · simp [computePkResult, Call.pid?]
      · rfl
  | setText text states => exact targetPID_set authority a states _
  | setToolTip toolTip states => exact targetPID_set authority a states _
  | setWhatsThis whatsThis states => exact targetPID_set authority a states _
  | setIcon icon states => exact targetPID_set authority a states _
  | setEnabled enabled states => exact targetPID_set authority a states _
  | setVisible visible states => exact targetPID_set authority a states _
  | setChecked checked => rfl
  | activate => rfl

/-- Whatever is asked is asked about what `targetPID()` reports, narrowed. -/
theorem subject_perform (call : Call) :
    let o := perform applicationPid authority a call
    ∀ c ∈ o.call, c.subject = unixProcessSubject (o.action.targetPID applicationPid) := by
  refine performed_elim fun o hdone c hc => ?_
  cases hdone with
  | asked a' reply _ _ =>
      obtain rfl := Option.some.inj hc
      rw [targetPID, refresh_d]
      rfl
  | kept reply hsame =>
      obtain rfl := Option.some.inj hc
      rfl
  | edited states f _ => simp [set] at hc
  | checked checked => simp [setChecked] at hc
  | activated => simp [activate] at hc

end Calls

end Action

/-! ### What an event asks -/

/-- Every check observed is about the process its action then reports as its target. -/
def AsksForTarget (applicationPid : Int64) (w : Desktop) (obs : List Desktop.Obs) : Prop :=
  ∀ i call, Desktop.Obs.checked i call ∈ obs →
    ∃ a, w.actions[i]? = some a ∧ NamesProcess call.subject (a.targetPID applicationPid)

/-- The step checks the process `targetPID()` reports. -/
def StepAsksForTarget (applicationPid : Int64) (w : Desktop) (e : Desktop.Event) : Prop :=
  AsksForTarget applicationPid (Desktop.step applicationPid w e)
    (Desktop.out applicationPid w e)

/-- What `targetPID()` reports once the pid is given: 0 stands for the application itself. -/
def reportedPID (applicationPid pid : Int64) : Int64 := if pid ≠ 0 then pid else applicationPid

/-- The pid the event gives to an action fits a `gint`: the application's own to a new action, and
the argument of `setTargetPID`. -/
def GivenFits (applicationPid : Int64) (w : Desktop) : Desktop.Event → Prop
  | .authority _ => True
  | .construct .. => FitsGint applicationPid
  | .call i call =>
      i < w.actions.length → ∀ pid ∈ call.pid?, FitsGint (reportedPID applicationPid pid)

/-- The pid every action reports fits a `gint`. -/
def TargetsFit (applicationPid : Int64) (w : Desktop) : Prop :=
  ∀ (i : Nat) (a : Action), w.actions[i]? = some a → FitsGint (a.targetPID applicationPid)

theorem checked_mem_observe {i j : Nat} {o : Action.Outcome} {call : CheckCall} :
    Desktop.Obs.checked j call ∈ Desktop.observe i o ↔ i = j ∧ o.call = some call := by
  rw [Desktop.observe, List.mem_append]
  cases o.call with
  | none => split <;> simp
  | some c => split <;> simp [eq_comm]

section Step

variable {applicationPid : Int64} {w : Desktop}

theorem asksForTarget_nil : AsksForTarget applicationPid w [] := by
  intro i call hmem
  simp at hmem

/-- What a call leaves asks for the process reported exactly when its pid fits, if it asks at
all. -/
theorem asksForTarget_observe {i : Nat} {o : Action.Outcome}
    (hself : w.actions[i]? = some o.action)
    (hsubject : ∀ c ∈ o.call, c.subject = unixProcessSubject (o.action.targetPID applicationPid)) :
    AsksForTarget applicationPid w (Desktop.observe i o) ↔
      (o.call.isSome = true → FitsGint (o.action.targetPID applicationPid)) := by
  constructor
  · intro h hsome
    obtain ⟨c, hc⟩ := Option.isSome_iff_exists.1 hsome
    obtain ⟨a', ha', hnames⟩ := h i c (checked_mem_observe.2 ⟨rfl, hc⟩)
    rw [hself] at ha'
    obtain rfl := Option.some.inj ha'
    rw [hsubject c hc] at hnames
    exact namesProcess_unixProcessSubject_iff.1 hnames
  · intro h j c hmem
    obtain ⟨rfl, hc⟩ := checked_mem_observe.1 hmem
    refine ⟨o.action, hself, ?_⟩
    rw [hsubject c hc]
    exact namesProcess_unixProcessSubject (h (Option.isSome_iff_exists.2 ⟨c, hc⟩))

/-- A new action reports the application, and asks about it. -/
theorem construct_targetPID (applicationPid : Int64) (authority : Authority.System)
    (pkResult : Result) (actionId : QString) (reply : Reply .checkAuthorization) :
    let o := Action.construct applicationPid authority pkResult actionId reply
    o.action.targetPID applicationPid = applicationPid ∧ o.call.isSome = true ∧
      ∀ c ∈ o.call, c.subject = unixProcessSubject (o.action.targetPID applicationPid) := by
  intro o
  have hpid : o.action.d.targetPID = applicationPid :=
    Action.targetPID_perform applicationPid authority
      ⟨QAction.new, Action.Private.new applicationPid pkResult⟩ (.setPolkitAction actionId reply)
  refine ⟨?_, rfl, Action.subject_perform applicationPid authority _
    (.setPolkitAction actionId reply)⟩
  rw [Action.targetPID, hpid, ite_id]

/-- A call that gives a pid asks about it. -/
theorem perform_pid (applicationPid : Int64) (authority : Authority.System) (a : Action)
    {call : Action.Call} {pid : Int64} (hpid : call.pid? = some pid) :
    let o := Action.perform applicationPid authority a call
    o.action.targetPID applicationPid = reportedPID applicationPid pid ∧ o.call.isSome = true := by
  intro o
  have htarget : o.action.d.targetPID = pid := by
    rw [Action.targetPID_perform, hpid]
    rfl
  refine ⟨?_, ?_⟩
  · rw [Action.targetPID, htarget, reportedPID]
  · cases call with
    | setTargetPID pid reply => rfl
    | _ => simp [Action.Call.pid?] at hpid

/-- **What one event keeps.**  If the pids it gives fit, so do the pids reported after it. -/
theorem targetsFit_step {e : Desktop.Event} (hfit : TargetsFit applicationPid w)
    (hgiven : GivenFits applicationPid w e) :
    TargetsFit applicationPid (Desktop.step applicationPid w e) := by
  -- of a desktop where only one action is new or changed, only that one is to be looked at
  have honlyAt : ∀ {w' i a}, Desktop.OnlyAt w w' i a → FitsGint (a.targetPID applicationPid) →
      TargetsFit applicationPid w' := by
    intro w' i a honly ha j a' ha'
    by_cases hij : j = i
    · subst hij
      rw [honly.self] at ha'
      obtain rfl := Option.some.inj ha'
      exact ha
    · rw [honly.other j hij] at ha'
      exact hfit j a' ha'
  refine Desktop.reacted_elim
    (motive := fun w' _ => TargetsFit applicationPid w') fun w' obs hreact => ?_
  cases hreact with
  | authority e => exact hfit
  | constructed pkResult actionId reply honly =>
      refine honlyAt honly ?_
      rw [(construct_targetPID applicationPid w.authority pkResult actionId reply).1]
      exact hgiven
  | missing i call hi => exact hfit
  | called i call a ha honly =>
      refine honlyAt honly ?_
      cases hpid : call.pid? with
      | none =>
          rw [Action.targetPID, Action.targetPID_perform, hpid]
          exact hfit i a ha
      | some pid =>
          rw [(perform_pid applicationPid w.authority a hpid).1]
          exact hgiven (List.getElem?_eq_some_iff.1 ha).1 pid hpid

/-- An event after which the pids reported fit asks for the processes reported. -/
theorem asksForTarget_of_fits {e : Desktop.Event}
    (hfit : TargetsFit applicationPid (Desktop.step applicationPid w e)) :
    StepAsksForTarget applicationPid w e := by
  revert hfit
  refine Desktop.reacted_elim (motive := fun w' obs => TargetsFit applicationPid w' →
    AsksForTarget applicationPid w' obs) fun w' obs hreact hfit => ?_
  cases hreact with
  | authority e => exact asksForTarget_nil
  | constructed pkResult actionId reply honly =>
      obtain ⟨-, -, hsubject⟩ :=
        construct_targetPID applicationPid w.authority pkResult actionId reply
      exact (asksForTarget_observe honly.self hsubject).2 fun _ => hfit _ _ honly.self
  | missing i call hi => exact asksForTarget_nil
  | called i call a ha honly =>
      have hsubject := Action.subject_perform applicationPid w.authority a call
      exact (asksForTarget_observe honly.self hsubject).2 fun _ => hfit _ _ honly.self

/-- An event that asks for the process reported gave a pid that fits. -/
theorem givenFits_of_asks {e : Desktop.Event} (hasks : StepAsksForTarget applicationPid w e) :
    GivenFits applicationPid w e := by
  revert hasks
  refine Desktop.reacted_elim (motive := fun w' obs => AsksForTarget applicationPid w' obs →
    GivenFits applicationPid w e) fun w' obs hreact hasks => ?_
  cases hreact with
  | authority e => trivial
  | constructed pkResult actionId reply honly =>
      obtain ⟨htarget, hsome, hsubject⟩ :=
        construct_targetPID applicationPid w.authority pkResult actionId reply
      have hfits := (asksForTarget_observe honly.self hsubject).1 hasks hsome
      rw [htarget] at hfits
      exact hfits
  | missing i call hi =>
      intro hlt
      rw [List.getElem?_eq_none_iff] at hi
      omega
  | called i call a ha honly =>
      intro _ pid hpid
      obtain ⟨htarget, hsome⟩ := perform_pid applicationPid w.authority a hpid
      have hsubject := Action.subject_perform applicationPid w.authority a call
      have hfits := (asksForTarget_observe honly.self hsubject).1 hasks hsome
      rw [htarget] at hfits
      exact hfits

end Step

/-! ### Over a run -/

/-- The steps of a run ask for the processes reported exactly when the pids given on the way
fit. -/
theorem eachStep_asksForTarget_iff (applicationPid : Int64) (d : Authority.Private)
    (es : List Desktop.Event) :
    EachStep (Desktop.step applicationPid) (StepAsksForTarget applicationPid)
        (Desktop.start d) es ↔
      EachStep (Desktop.step applicationPid) (GivenFits applicationPid) (Desktop.start d) es := by
  constructor
  · intro h pre e post heq
    exact givenFits_of_asks (h pre e post heq)
  · -- every action on the way reports a pid that fits
    intro h
    have hstart : TargetsFit applicationPid (Desktop.start d) := by
      intro i a ha
      simp [Desktop.start] at ha
    have hfit := EachStep.always (P := TargetsFit applicationPid)
      (fun w e hgiven hfit => targetsFit_step hfit hgiven) hstart h
    exact EachStep.imp_of_always (I := TargetsFit applicationPid)
      (C := GivenFits applicationPid) (D := StepAsksForTarget applicationPid)
      (fun w e hfit hgiven => asksForTarget_of_fits (targetsFit_step hfit hgiven)) hfit h

/-- **Which process a subject names, and which one an action asks about.**  For every constructor
of `UnixProcessSubject` that takes a pid and every sequence of calls of `setPid`: the subject is
invalid or reads back as the last pid and the start time given if and only if that pid fits a
`gint`.  And over every run of a desktop: every check is about the process `targetPID()` then
reports if and only if the pids given to actions fit, the application's own where the pid is 0. -/
theorem namesProcess_iff (applicationPid : Int64) (lastError : Authority.ErrorCode)
    (authority : Option PolkitAuthority) (get : Except GError (Option PolkitAuthority))
    (c : UnixProcess.Constructor) (pids : List Int64) (es : List Desktop.Event) :
    let w := Desktop.start (Authority.Private.construct lastError authority get)
    (UnixProcess.ReadsBack (UnixProcess.history c pids) (UnixProcess.lastPid c pids)
        c.startTime? ↔ FitsGint (UnixProcess.lastPid c pids)) ∧
      (EachStep (Desktop.step applicationPid) (StepAsksForTarget applicationPid) w es ↔
        EachStep (Desktop.step applicationPid) (GivenFits applicationPid) w es) :=
  ⟨UnixProcess.readsBack_iff c pids, eachStep_asksForTarget_iff applicationPid _ es⟩

/-- One action, about the application itself. -/
def oneAction : Desktop :=
  run (Desktop.step 42)
    (Desktop.start (Authority.Private.construct .none (some 1) (.ok none)))
    [.construct .unknown (.ofUtf16 [0x61]) (.ok (some ⟨false, false⟩))]

/-- Of `2 ^ 32 + 1` a `gint` keeps 1: the subject is valid and names process 1, and so it is in the
check of an action whose target is that pid. -/
theorem large_pid_names_first_process :
    let s := UnixProcess.history (.ofPid 4294967297) []
    s.isValid = true ∧ s.pid = 1 ∧ ¬ UnixProcess.ReadsBack s 4294967297 none ∧
      ¬ StepAsksForTarget 42 oneAction
        (.call 0 (.setTargetPID 4294967297 (.ok (some ⟨true, false⟩)))) := by
  intro s
  have hlarge : ¬ FitsGint 4294967297 := by decide
  refine ⟨by decide, by decide, ?_, ?_⟩
  · intro h
    exact hlarge ((UnixProcess.readsBack_iff (.ofPid 4294967297) []).1 h)
  · intro h
    exact hlarge (givenFits_of_asks h (by decide) 4294967297 rfl)

end Gui

end PolkitQt
