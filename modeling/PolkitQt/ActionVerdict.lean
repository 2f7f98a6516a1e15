/-
**An action never carries a verdict for another action or process.**

Any number of `Gui::Action` objects share the one authority.  Whatever is called on them, in
whatever order, and whatever else happens to the authority in between, an action that carries a
result carries polkit's answer to the last check *it* made, and that check was about the id and the
process it has now.

Main definitions:

* `PolkitQt.Gui.Desktop` — the authority and the actions; `Desktop.Event`, `Desktop.Obs`;
* `PolkitQt.Gui.Desktop.Reacted` — everything an event can do;
* `PolkitQt.Gui.lastCheck` — the last check an action made, read off the trace;
* `PolkitQt.Gui.Verdict` — the check is about the action as it is now, and polkit answered it.

Main results:

* `PolkitQt.Gui.authority_run` — the authority of a desktop run makes a run of its own;
* `PolkitQt.Gui.hasVerdict_perform` — no call on an action loses the connection;
* `PolkitQt.Gui.verdict_of_result` — over every run, of every action.
-/

import PolkitQt.Action

set_option relaxedAutoImplicit false
set_option autoImplicit false

namespace PolkitQt

namespace Gui

open Runs

/-! ### The desktop -/

/-- The authority and the actions that share it, in the order of their construction. -/
structure Desktop where
  authority : Authority.System
  actions : List Action

namespace Desktop

/-- What can happen: something to the authority, a new action, or a call on an action. -/
inductive Event
  | authority (e : Authority.Event)
  | construct (pkResult : Result) (actionId : QString) (reply : Reply .checkAuthorization)
  | call (i : Nat) (call : Action.Call)

/-- What is recorded of it: a check an action made, and its `authorized()` signal. -/
inductive Obs
  | checked (i : Nat) (call : CheckCall)
  | authorized (i : Nat)

/-- The observations of a call on action `i`. -/
def observe (i : Nat) (o : Action.Outcome) : List Obs :=
  (o.call.map (Obs.checked i)).toList ++
    if Signal.authorized ∈ o.signals then [.authorized i] else []

def react (applicationPid : Int64) (w : Desktop) : Event → Desktop × List Obs
  | .authority e => ({ w with authority := Authority.step w.authority e }, [])
  | .construct pkResult actionId reply =>
      let o := Action.construct applicationPid w.authority pkResult actionId reply
      (⟨o.authority, w.actions ++ [o.action]⟩, observe w.actions.length o)
  | .call i call =>
      match w.actions[i]? with
      | none => (w, [])
      | some a =>
          let o := Action.perform applicationPid w.authority a call
          (⟨o.authority, w.actions.set i o.action⟩, observe i o)

def step (applicationPid : Int64) (w : Desktop) (e : Event) : Desktop :=
  (react applicationPid w e).1

def out (applicationPid : Int64) (w : Desktop) (e : Event) : List Obs :=
  (react applicationPid w e).2

/-- Before any action is constructed. -/
def start (d : Authority.Private) : Desktop := ⟨Authority.System.start d, []⟩

/-- In the second desktop action `i` is this one, and the others are as in the first. -/
structure OnlyAt (w w' : Desktop) (i : Nat) (a : Action) : Prop where
  self : w'.actions[i]? = some a
  other : ∀ j, j ≠ i → w'.actions[j]? = w.actions[j]?

/-- Everything an event can do. -/
inductive Reacted (applicationPid : Int64) (w : Desktop) :
    Event → Desktop → List Obs → Prop
  /-- Something happens to the authority. -/
  | authority (e : Authority.Event) :
      Reacted applicationPid w (.authority e) { w with authority := Authority.step w.authority e } []
  /-- A new action asks for the first time. -/
  | constructed {w' : Desktop} (pkResult : Result) (actionId : QString)
      (reply : Reply .checkAuthorization)
      (honly : OnlyAt w w' w.actions.length
        (Action.construct applicationPid w.authority pkResult actionId reply).action) :
      Reacted applicationPid w (.construct pkResult actionId reply) w'
        (observe w.actions.length
          (Action.construct applicationPid w.authority pkResult actionId reply))
  /-- There is no such action. -/
  | missing (i : Nat) (call : Action.Call) (hi : w.actions[i]? = none) :
      Reacted applicationPid w (.call i call) w []
  /-- An action is called. -/
  | called {w' : Desktop} (i : Nat) (call : Action.Call) (a : Action)
      (ha : w.actions[i]? = some a)
      (honly : OnlyAt w w' i (Action.perform applicationPid w.authority a call).action) :
      Reacted applicationPid w (.call i call) w'
        (observe i (Action.perform applicationPid w.authority a call))

/-- **Every event does one of these.** -/
theorem reacted (applicationPid : Int64) (w : Desktop) (e : Event) :
    Reacted applicationPid w e (step applicationPid w e) (out applicationPid w e) := by
  cases e with
  | authority e => exact Reacted.authority e
  | construct pkResult actionId reply =>
      refine Reacted.constructed pkResult actionId reply
        ⟨List.getElem?_concat_length, fun j hj => ?_⟩
      rcases Nat.lt_or_gt_of_ne hj with hlt | hgt
      · exact List.getElem?_append_left hlt
      · -- beyond the new action there is nothing, and there was nothing
        rw [List.getElem?_eq_none (Nat.le_of_lt hgt)]
        refine List.getElem?_eq_none ?_
        show (w.actions ++ [_]).length ≤ j
        rw [List.length_append, List.length_singleton]
        exact hgt
  | call i call =>
      cases hi : w.actions[i]? with
      | none =>
          simp only [step, out, react, hi]
          exact Reacted.missing i call hi
      | some a =>
          have hlt : i < w.actions.length := (List.getElem?_eq_some_iff.1 hi).1
          simp only [step, out, react, hi]
          exact Reacted.called i call a hi
            ⟨List.getElem?_set_self hlt, fun j hj => List.getElem?_set_ne (Ne.symm hj)⟩

/-- What holds of each of them holds of an event. -/
@[elab_as_elim] theorem reacted_elim {applicationPid : Int64} {w : Desktop} {e : Event}
    {motive : Desktop → List Obs → Prop}
    (h : ∀ w' obs, Reacted applicationPid w e w' obs → motive w' obs) :
    motive (step applicationPid w e) (out applicationPid w e) :=
  h _ _ (reacted applicationPid w e)

end Desktop

/-- The last check action `i` made. -/
def lastCheck (t : List Desktop.Obs) (i : Nat) : Option CheckCall :=
  (t.filterMap fun o =>
    match o with
    | .checked j call => if j = i then some call else none
    | .authorized _ => none).getLast?

@[simp] theorem lastCheck_nil (i : Nat) : lastCheck [] i = none := rfl

/-- Later observations hide earlier ones. -/
theorem lastCheck_append (t u : List Desktop.Obs) (i : Nat) :
    lastCheck (t ++ u) i = (lastCheck u i).or (lastCheck t i) := by
  rw [lastCheck, List.filterMap_append, List.getLast?_append]
  rfl

theorem lastCheck_observe (i j : Nat) (o : Action.Outcome) :
    lastCheck (Desktop.observe i o) j = if i = j then o.call else none := by
  rw [lastCheck, Desktop.observe]
  cases o.call with
  | none => split <;> simp
  | some call =>
      by_cases hij : i = j
      · split <;> simp [hij]
      · split <;> simp [hij]

/-! ### The authority's own run -/

/-- A call on an action is nothing to the authority, or one synchronous check. -/
theorem perform_authority (applicationPid : Int64) (authority : Authority.System) (a : Action)
    (call : Action.Call) :
    ∃ es, (Action.perform applicationPid authority a call).authority =
      run Authority.step authority es := by
  refine Action.performed_elim fun o hdone => ?_
  cases hdone with
  | asked a' reply _ _ =>
      exact ⟨[.sync (a'.checkOperation applicationPid) reply],
        Action.computePkResult_authority applicationPid authority a' reply⟩
  | kept reply _ =>
      exact ⟨[.sync (a.checkOperation applicationPid) reply],
        Action.computePkResult_authority applicationPid authority a reply⟩
  | edited states f _ => exact ⟨[], rfl⟩
  | checked checked => exact ⟨[], rfl⟩
  | activated => exact ⟨[], rfl⟩

/-- **The authority of a desktop makes a run of its own.** -/
theorem authority_run (applicationPid : Int64) (d : Authority.Private)
    (es : List Desktop.Event) :
    ∃ fs, (run (Desktop.step applicationPid) (Desktop.start d) es).authority =
      Authority.runFrom d fs := by
  refine run_inv (I := fun w : Desktop => ∃ fs, w.authority = Authority.runFrom d fs) ?_
    ⟨[], rfl⟩ es
  rintro w e ⟨fs, hw⟩
  have hrest : ∀ gs, Authority.runFrom d (fs ++ gs) = run Authority.step w.authority gs := by
    intro gs
    rw [hw]
    exact run_append Authority.step _ fs gs
  cases e with
  | authority e =>
      refine ⟨fs ++ [e], ?_⟩
      rw [hrest]
      rfl
  | construct pkResult actionId reply =>
      obtain ⟨gs, hgs⟩ := perform_authority applicationPid w.authority
        ⟨QAction.new, Action.Private.new applicationPid pkResult⟩ (.setPolkitAction actionId reply)
      refine ⟨fs ++ gs, ?_⟩
      rw [hrest, ← hgs]
      rfl
  | call i call =>
      simp only [Desktop.step, Desktop.react]
      cases w.actions[i]? with
      | none => exact ⟨fs, hw⟩
      | some a =>
          obtain ⟨gs, hgs⟩ := perform_authority applicationPid w.authority a call
          refine ⟨fs ++ gs, ?_⟩
          rw [hrest, ← hgs]

/-! ### Processes -/

/-- The pid fits the `gint` polkit takes. -/
def FitsGint (pid : Int64) : Prop := -2147483648 ≤ pid.toInt ∧ pid.toInt ≤ 2147483647

instance (pid : Int64) : Decidable (FitsGint pid) := inferInstanceAs (Decidable (_ ∧ _))

theorem toInt64_toInt32 {pid : Int64} (h : FitsGint pid) : pid.toInt32.toInt64 = pid := by
  obtain ⟨hlo, hhi⟩ := h
  apply Int64.toInt.inj
  rw [Int32.toInt_toInt64, Int64.toInt_toInt32]
  apply Int.bmod_eq_of_le
  · omega
  · omega

/-- The subject is the process `pid`. -/
def NamesProcess (subject : Subject) (pid : Int64) : Prop :=
  ∃ p : Int32, subject.subject = some (.unixProcess p 0 (-1)) ∧ p.toInt64 = pid

theorem namesProcess_unixProcessSubject {pid : Int64} (h : FitsGint pid) :
    NamesProcess (unixProcessSubject pid) pid := ⟨pid.toInt32, rfl, toInt64_toInt32 h⟩

/-! ### Verdicts -/

/-- The check was about the action's present id and target process, and polkit answered it without
an error with the action's present result. -/
structure Verdict (applicationPid : Int64) (a : Action) (call : CheckCall) : Prop where
  actionId : call.actionId = a.d.actionId
  subject : call.subject = unixProcessSubject (a.targetPID applicationPid)
  process : FitsGint (a.targetPID applicationPid) →
    NamesProcess call.subject (a.targetPID applicationPid)
  answered : Action.Answered call a.d.pkResult

/-- If the action carries a result, its last check is a verdict on it. -/
def HasVerdict (applicationPid : Int64) (a : Action) (last : Option CheckCall) : Prop :=
  a.d.pkResult ≠ .unknown → ∃ call, last = some call ∧ Verdict applicationPid a call

/-- The connection depends on the private data only through id, process and result. -/
theorem HasVerdict.of_d_eq {applicationPid : Int64} {a a' : Action} {last : Option CheckCall}
    (h : HasVerdict applicationPid a last) (hid : a'.d.actionId = a.d.actionId)
    (hpid : a'.d.targetPID = a.d.targetPID) (hres : a'.d.pkResult = a.d.pkResult) :
    HasVerdict applicationPid a' last := by
  have htarget : a'.targetPID applicationPid = a.targetPID applicationPid := by
    rw [Action.targetPID, Action.targetPID, hpid]
  intro hne
  rw [hres] at hne
  obtain ⟨call, hlast, hcall⟩ := h hne
  refine ⟨call, hlast, ?_, ?_, ?_, ?_⟩
  · rw [hid]
    exact hcall.actionId
  · rw [htarget]
    exact hcall.subject
  · rw [htarget]
    exact hcall.process
  · rw [hres]
    exact hcall.answered

/-- Asking makes the connection. -/
theorem hasVerdict_computePkResult (applicationPid : Int64) (authority : Authority.System)
    (a : Action) (reply : Reply .checkAuthorization) :
    let c := Action.computePkResult applicationPid authority a reply
    HasVerdict applicationPid c.action (some c.call) := by
  intro c hne
  obtain ⟨hid, hsubject⟩ := Action.computePkResult_call applicationPid authority a reply
  rcases Action.computePkResult_verdict applicationPid authority a reply with
    ⟨hanswered, -, -⟩ | ⟨hunknown, -⟩
  · refine ⟨c.call, rfl, hid, hsubject, ?_, hanswered⟩
    intro hfits
    rw [hsubject]
    exact namesProcess_unixProcessSubject hfits
  · exact absurd hunknown hne

/-- **No call loses it.** -/
theorem hasVerdict_perform {applicationPid : Int64} {authority : Authority.System} {a : Action}
    {last : Option CheckCall} (h : HasVerdict applicationPid a last) (call : Action.Call) :
    let o := Action.perform applicationPid authority a call
    HasVerdict applicationPid o.action (o.call.or last) := by
  refine Action.performed_elim fun o hdone => ?_
  cases hdone with
  | asked a' reply _ _ =>
      have hverdict := hasVerdict_computePkResult applicationPid authority a' reply
      exact hverdict.of_d_eq (by simp [Action.refresh]) (by simp [Action.refresh])
        (by simp [Action.refresh])
  | kept reply hsame =>
      have hverdict := hasVerdict_computePkResult applicationPid authority a reply
      dsimp only at hverdict
      rw [hsame] at hverdict
      exact hverdict
  | edited states f _ =>
      exact h.of_d_eq (by simp [Action.set]) (by simp [Action.set]) (by simp [Action.set])
  | checked checked => exact h.of_d_eq rfl rfl rfl
  | activated => exact h

/-! ### Over a run -/

/-- Every action of the desktop has its verdict in the trace. -/
def VerdictsKept (applicationPid : Int64) (w : Desktop) (t : List Desktop.Obs) : Prop :=
  (∀ i a, w.actions[i]? = some a → HasVerdict applicationPid a (lastCheck t i)) ∧
    ∀ i, w.actions.length ≤ i → lastCheck t i = none

/-- One action is new or called, and what it did is recorded. -/
theorem VerdictsKept.observe {applicationPid : Int64} {w w' : Desktop} {t : List Desktop.Obs}
    (h : VerdictsKept applicationPid w t) {i : Nat} {o : Action.Outcome}
    (honly : Desktop.OnlyAt w w' i o.action)
    (hverdict : HasVerdict applicationPid o.action (o.call.or (lastCheck t i))) :
    VerdictsKept applicationPid w' (t ++ Desktop.observe i o) := by
  obtain ⟨hkept, hfresh⟩ := h
  refine ⟨?_, ?_⟩
  · intro j a ha
    rw [lastCheck_append, lastCheck_observe]
    by_cases hij : i = j
    · subst hij
      rw [honly.self] at ha
      obtain rfl := Option.some.inj ha
      rw [if_pos rfl]
      exact hverdict
    · rw [honly.other j (Ne.symm hij)] at ha
      rw [if_neg hij]
      exact hkept j a ha
  · intro j hj
    have hlt : i < w'.actions.length := (List.getElem?_eq_some_iff.1 honly.self).1
    have hold : w.actions.length ≤ j := by
      rw [← List.getElem?_eq_none_iff, ← honly.other j (by omega)]
      exact List.getElem?_eq_none hj
    rw [lastCheck_append, lastCheck_observe, if_neg (by omega), hfresh j hold]
    rfl

theorem VerdictsKept.step {applicationPid : Int64} {w : Desktop} {t : List Desktop.Obs}
    (h : VerdictsKept applicationPid w t) (e : Desktop.Event) :
    VerdictsKept applicationPid (Desktop.step applicationPid w e)
      (t ++ Desktop.out applicationPid w e) := by
  have hquiet : VerdictsKept applicationPid w (t ++ []) := by simpa using h
  refine Desktop.reacted_elim fun w' obs hreact => ?_
  cases hreact with
  | authority e => exact hquiet
  | constructed pkResult actionId reply honly =>
      -- what the member `pkResult` held before does not matter
      have hnone : HasVerdict applicationPid
          ⟨QAction.new, Action.Private.new applicationPid .unknown⟩ none :=
        fun hne => absurd rfl hne
      have hlast : lastCheck t w.actions.length = none := h.2 _ (le_refl _)
      refine h.observe honly ?_
      rw [hlast]
      exact hasVerdict_perform hnone (.setPolkitAction actionId reply)
  | missing i call hi => exact hquiet
  | called i call a ha honly => exact h.observe honly (hasVerdict_perform (h.1 i a ha) call)

theorem verdictsKept_run (applicationPid : Int64) (d : Authority.Private)
    (es : List Desktop.Event) :
    VerdictsKept applicationPid (run (Desktop.step applicationPid) (Desktop.start d) es)
      (trace (Desktop.step applicationPid) (Desktop.out applicationPid) (Desktop.start d) es) := by
  have hinit : VerdictsKept applicationPid (Desktop.start d) [] :=
    ⟨fun i a ha => by simp [Desktop.start] at ha, fun i _ => rfl⟩
  exact trace_induction (P := VerdictsKept applicationPid) (fun w t e h => h.step e) hinit es

/-- `authorized()` is emitted on an answer of Yes or Challenge, or because `noEnabled` is set. -/
theorem result_of_authorized {a : Action} (hno : a.isEnabled .no = false)
    (h : a.activates = true) : a.d.pkResult = .yes ∨ a.d.pkResult = .challenge := by
  rw [Action.activates] at h
  cases hres : a.d.pkResult with
  | yes => exact Or.inl rfl
  | challenge => exact Or.inr rfl
  | no => simp_all [Action.isEnabled, Action.get]
  | unknown => simp_all [Action.isEnabled, Action.get]

/-- **Every verdict is the action's own.**  Over every run of a desktop: an action whose result is
not `Unknown` made its last check for its present id and target process, and polkit answered that
check without an error with that result; and while `noEnabled` is false, `activate()` emits
`authorized()` only if that answer was Yes or Challenge. -/
theorem verdict_of_result (applicationPid : Int64) (lastError : Authority.ErrorCode)
    (authority : Option PolkitAuthority) (get : Except GError (Option PolkitAuthority))
    (es : List Desktop.Event) :
    let d := Authority.Private.construct lastError authority get
    let w := run (Desktop.step applicationPid) (Desktop.start d) es
    let t := trace (Desktop.step applicationPid) (Desktop.out applicationPid) (Desktop.start d) es
    (∀ i a, w.actions[i]? = some a → a.d.pkResult ≠ .unknown →
      ∃ call, lastCheck t i = some call ∧ Verdict applicationPid a call) ∧
    ∀ i a, w.actions[i]? = some a → a.isEnabled .no = false →
      Desktop.Obs.authorized i ∈ Desktop.out applicationPid w (.call i .activate) →
      (a.d.pkResult = .yes ∨ a.d.pkResult = .challenge) ∧
        ∃ call, lastCheck t i = some call ∧ Verdict applicationPid a call := by
  intro d w t
  have hkept := (verdictsKept_run applicationPid d es).1
  refine ⟨hkept, ?_⟩
  intro i a ha hno hmem
  have hactivates : a.activates = true := by
    simp only [Desktop.out, Desktop.react, ha] at hmem
    by_contra hnot
    simp [Desktop.observe, Action.perform, Action.activate, hnot] at hmem
  have hres := result_of_authorized hno hactivates
  refine ⟨hres, hkept i a ha ?_⟩
  rcases hres with hres | hres
  · simp [hres]
  · simp [hres]

/-- Polkit asks for a challenge, refuses the second action, and authorizes the first one for
another process. -/
def retargeted : List Desktop.Event :=
  [.construct .unknown (.ofUtf16 [0x61]) (.ok (some ⟨false, true⟩)),
    .construct .unknown (.ofUtf16 [0x62]) (.ok (some ⟨false, false⟩)),
    .call 0 (.setTargetPID 7 (.ok (some ⟨true, false⟩)))]

/-- The first action emits `authorized()` for process 7; the second one carries its own refusal. -/
theorem verdict_of_result_retargeted :
    let d := Authority.Private.construct .none (some 1) (.ok none)
    let w := run (Desktop.step 42) (Desktop.start d) retargeted
    let t := trace (Desktop.step 42) (Desktop.out 42) (Desktop.start d) retargeted
    (∃ a, w.actions[0]? = some a ∧ a.d.pkResult = .yes ∧ a.targetPID 42 = 7 ∧
      Desktop.Obs.authorized 0 ∈ Desktop.out 42 w (.call 0 .activate) ∧
        ∃ call, lastCheck t 0 = some call ∧ Verdict 42 a call) ∧
    ∃ a, w.actions[1]? = some a ∧ a.d.pkResult = .no ∧ a.targetPID 42 = 42 ∧
      ∃ call, lastCheck t 1 = some call ∧ Verdict 42 a call := by
  intro d w t
  obtain ⟨hverdict, hactivate⟩ := verdict_of_result 42 .none (some 1) (.ok none) retargeted
  refine ⟨⟨_, rfl, rfl, rfl, ?_, ?_⟩, _, rfl, rfl, rfl, ?_⟩
  · exact List.mem_singleton.2 rfl
  · exact (hactivate 0 _ rfl rfl (List.mem_singleton.2 rfl)).2
  · exact hverdict 1 _ rfl Result.noConfusion

end Gui

end PolkitQt
