/-
**What polkit is told of an authentication.**

An agent answers through the `AsyncResult` of its request: `setError` writes into the
`GSimpleAsyncResult` that the adapter created, `setCompleted` makes GIO call polkit back, and polkit
then asks `initiate_authentication_finish`, which hands the error over and forgets it.  None of the
three knows of the others, and what lies between them is a reference that comes and goes
(`AsyncResult`).  Seen from polkit it should be a promise: kept at most once, and with the last word
the agent said before.

Main definitions:

* `PolkitQt.Agent.Answer.step`, `PolkitQt.Agent.Answer.out` — the `AsyncResult`, the task and the
  finish function;
* `PolkitQt.Agent.Promise.step`, `PolkitQt.Agent.Promise.out` — the promise.

Main results:

* `PolkitQt.Agent.Answer.follows_step` — a proper step is a step of the promise;
* `PolkitQt.Agent.Promise.countP_calledBack` — a promise is kept once, and only before it is closed;
* `PolkitQt.Agent.Answer.trace_eq_promise`, `PolkitQt.Agent.Answer.refines_promise` — what polkit sees
  of a proper run.
-/

import PolkitQt.AsyncResult

set_option relaxedAutoImplicit false
set_option autoImplicit false

namespace PolkitQt

namespace Agent

open Runs

/-! ### The task -/

/-- What a `GSimpleAsyncResult` has been told: whether the operation failed, and the error, until it
is handed over. -/
structure Task where
  failed : Bool
  error : Option GError
  deriving DecidableEq, Repr

/-- What a call makes of the task: an error replaces the one before. -/
def Task.react (t : Task) : AsyncResult.Call → Task
  | .setError .live error => ⟨true, some error⟩
  | _ => t

/-- What polkit sees: its callback is called, or `initiate_authentication_finish` returns. -/
inductive Seen
  | calledBack
  | finished (value : Bool) (error : Option GError)
  deriving DecidableEq, Repr

def Seen.isCalledBack : Seen → Bool
  | calledBack => true
  | finished .. => false

/-- `polkit_qt_listener_initiate_authentication_finish`; `g_simple_async_result_propagate_error` moves
the error out of the task, which stays failed. -/
def polkitQtListenerInitiateAuthenticationFinish (t : Task) : Seen × Task :=
  if t.failed then (.finished false t.error, { t with error := none }) else (.finished true none, t)

/-- The error `AsyncResult::setError` sets. -/
def errorOf (text : QString) : GError := ⟨.polkitError, polkitErrorFailed, cString text.toUtf8⟩

/-! ### The answer to a request -/

/-- The `AsyncResult` of a request, and the task it owns a reference on. -/
structure Answer where
  asyncResult : AsyncResult.System
  task : Task
  deriving DecidableEq, Repr

namespace Answer

/-- The agent calls the `AsyncResult`, a completion returns, or polkit calls the finish function. -/
inductive Event
  | agent (e : AsyncResult.Event)
  | finish
  deriving DecidableEq, Repr

/-- Of a task that was just created. -/
def new (result : GSimpleAsyncResult) : Answer := ⟨AsyncResult.new (some result), ⟨false, none⟩⟩

/-- The calls that an event makes on GIO and GObject. -/
def made (w : Answer) (e : AsyncResult.Event) : List AsyncResult.Call :=
  (AsyncResult.step w.asyncResult e).calls.drop w.asyncResult.calls.length

def step (w : Answer) : Event → Answer
  | .agent e => ⟨AsyncResult.step w.asyncResult e, (w.made e).foldl Task.react w.task⟩
  | .finish => { w with task := (polkitQtListenerInitiateAuthenticationFinish w.task).2 }

/-- The completion of a live task calls polkit back. -/
def calledBack : AsyncResult.Call → List Seen
  | .complete .live => [.calledBack]
  | _ => []

def out (w : Answer) : Event → List Seen
  | .agent e => (w.made e).flatMap calledBack
  | .finish => [(polkitQtListenerInitiateAuthenticationFinish w.task).1]

/-- The agent's call does no harm. -/
def Proper (w : Answer) : Event → Prop
  | .agent e => AsyncResult.Proper w.asyncResult e
  | .finish => True

instance (w : Answer) : (e : Event) → Decidable (Proper w e)
  | .agent .setCompleted => inferInstanceAs (Decidable (_ ∨ _))
  | .agent .completionReturned => inferInstanceAs (Decidable (_ ∨ _))
  | .agent (.setError _) => inferInstanceAs (Decidable (_ ∨ _))
  | .agent .destroy => isTrue trivial
  | .finish => isTrue trivial

end Answer

/-! ### The promise -/

/-- A promise: whether the agent has let go of it, whether it has been kept, whether the agent gave
it up, and what it said last that polkit has not heard. -/
structure Promise where
  closed : Bool
  kept : Bool
  failed : Bool
  said : Option QString
  deriving DecidableEq, Repr

namespace Promise

def new : Promise := ⟨false, false, false, none⟩

/-- Of a closed promise nothing changes but what polkit has heard. -/
def step (p : Promise) : Answer.Event → Promise
  | .agent .setCompleted => { p with kept := p.kept || !p.closed }
  | .agent .completionReturned => p
  | .agent (.setError text) =>
      if p.closed then p else { p with failed := true, said := some text }
  | .agent .destroy => { p with closed := true }
  | .finish => { p with said := none }

/-- Polkit is called back when the promise is kept, and told what was said last. -/
def out (p : Promise) : Answer.Event → List Seen
  | .agent .setCompleted => if p.closed || p.kept then [] else [.calledBack]
  | .agent _ => []
  | .finish => [.finished (!p.failed) (p.said.map errorOf)]

/-- An agent that has not given the promise up has said nothing. -/
def Silent (p : Promise) : Prop := p.failed = false → p.said = none

theorem silent_step {p : Promise} (h : p.Silent) (e : Answer.Event) : (step p e).Silent := by
  cases e with
  | finish => exact fun _ => rfl
  | agent e =>
      cases e with
      | setError text =>
          rw [step]
          split
          · exact h
          · exact fun hfailed => absurd hfailed (by simp)
      | _ => exact h

theorem closed_step_setError (p : Promise) (text : QString) :
    (step p (.agent (.setError text))).closed = p.closed := by
  rw [step]
  split <;> rfl

/-- The agent completes the request. -/
def completes (e : Answer.Event) : Bool := e = .agent .setCompleted

def closes (e : Answer.Event) : Bool := e = .agent .destroy

/-- The agent completes the request before it lets go of it. -/
def Kept (es : List Answer.Event) : Prop := ∃ e ∈ es.takeWhile fun e => !closes e, completes e = true

instance (es : List Answer.Event) : Decidable (Kept es) :=
  inferInstanceAs (Decidable (∃ e ∈ es.takeWhile fun e => !closes e, completes e = true))

/-- From a promise that is closed or kept polkit is not called back. -/
theorem countP_calledBack_of_over {p : Promise} (h : (p.closed || p.kept) = true)
    (es : List Answer.Event) : (trace step out p es).countP Seen.isCalledBack = 0 := by
  induction es generalizing p with
  | nil => rfl
  | cons e es ih =>
      have hnext : ((step p e).closed || (step p e).kept) = true := by
        cases e with
        | finish => exact h
        | agent e =>
            cases e with
            | setCompleted =>
                cases hclosed : p.closed <;> simp_all [step]
            | completionReturned => exact h
            | setError text =>
                rw [step]
                split <;> exact h
            | destroy => rfl
      have hout : (out p e).countP Seen.isCalledBack = 0 := by
        cases e with
        | finish => rfl
        | agent e => cases e <;> simp [out, h]
      rw [trace_cons, List.countP_append, hout, ih hnext]

/-- **A promise is kept once**, and only if the agent completes the request before it lets go. -/
theorem countP_calledBack {p : Promise} (hclosed : p.closed = false) (hkept : p.kept = false)
    (es : List Answer.Event) :
    (trace step out p es).countP Seen.isCalledBack = if Kept es then 1 else 0 := by
  induction es generalizing p with
  | nil => rfl
  | cons e es ih =>
      -- a step that neither completes nor closes leaves the question to the rest
      have hother (hcloses : closes e = false) (hcompletes : completes e = false)
          (hclosed' : (step p e).closed = false) (hkept' : (step p e).kept = false)
          (hout : (out p e).countP Seen.isCalledBack = 0) :
          (trace step out p (e :: es)).countP Seen.isCalledBack =
            if Kept (e :: es) then 1 else 0 := by
        have hiff : Kept (e :: es) ↔ Kept es := by
          simp [Kept, hcloses, hcompletes]
        rw [trace_cons, List.countP_append, hout, ih hclosed' hkept', Nat.zero_add]
        exact if_congr hiff.symm rfl rfl
      cases e with
      | finish => exact hother rfl rfl hclosed hkept rfl
      | agent e =>
          cases e with
          | setCompleted =>
              have hyes : Kept (.agent .setCompleted :: es) := by simp [Kept, closes, completes]
              have hone : (out p (.agent .setCompleted)).countP Seen.isCalledBack = 1 := by
                simp [out, hclosed, hkept, Seen.isCalledBack]
              have hrest := countP_calledBack_of_over (p := step p (.agent .setCompleted))
                (by simp [step, hclosed]) es
              rw [trace_cons, List.countP_append, hone, hrest, if_pos hyes]
          | completionReturned => exact hother rfl rfl hclosed hkept rfl
          | setError text =>
              refine hother rfl rfl ?_ ?_ rfl
              · simp [step, hclosed]
              · simp [step, hclosed, hkept]
          | destroy =>
              have hno : ¬ Kept (.agent .destroy :: es) := by simp [Kept, closes]
              have hrest := countP_calledBack_of_over (p := step p (.agent .destroy)) rfl es
              rw [trace_cons, List.countP_append, hrest, if_neg hno]
              rfl

end Promise

/-! ### The answer keeps the promise -/

namespace Answer

/-- The answer is where the promise is. -/
structure Follows (result : GSimpleAsyncResult) (w : Answer) (p : Promise) : Prop where
  stage : AsyncResult.Stage (some result) w.asyncResult
  closed : p.closed = w.asyncResult.destroyed
  kept : p.kept = decide (0 < w.asyncResult.calls.countP AsyncResult.Call.isComplete)
  failed : w.task.failed = p.failed
  error : w.task.error = p.said.map errorOf
  silent : p.Silent

theorem follows_new (result : GSimpleAsyncResult) : Follows result (new result) Promise.new :=
  ⟨AsyncResult.stage_new _, rfl, rfl, rfl, rfl, fun _ => rfl⟩

section Steps

variable {result : GSimpleAsyncResult} {w : Answer} {p : Promise}

/-- The calls made are those that are new. -/
theorem made_eq {e : AsyncResult.Event} {calls : List AsyncResult.Call}
    (h : (AsyncResult.step w.asyncResult e).calls = w.asyncResult.calls ++ calls) :
    w.made e = calls := by
  rw [made, h, List.drop_left]

/-- An event that makes these calls shows polkit what they show, and takes the task on. -/
theorem follows_agent {e : AsyncResult.Event} (h : Follows result w p) (hproper : Proper w (.agent e))
    (calls : List AsyncResult.Call)
    (hcalls : (AsyncResult.step w.asyncResult e).calls = w.asyncResult.calls ++ calls)
    (hout : calls.flatMap calledBack = Promise.out p (.agent e))
    (hclosed : (Promise.step p (.agent e)).closed = (AsyncResult.step w.asyncResult e).destroyed)
    (hkept : (Promise.step p (.agent e)).kept =
      (p.kept || decide (0 < calls.countP AsyncResult.Call.isComplete)))
    (htask : calls.foldl Task.react w.task =
      ⟨(Promise.step p (.agent e)).failed, (Promise.step p (.agent e)).said.map errorOf⟩) :
    out w (.agent e) = Promise.out p (.agent e) ∧
      Follows result (step w (.agent e)) (Promise.step p (.agent e)) := by
  have hmade : w.made e = calls := made_eq hcalls
  have htask' : (step w (.agent e)).task =
      ⟨(Promise.step p (.agent e)).failed, (Promise.step p (.agent e)).said.map errorOf⟩ := by
    rw [← htask, ← hmade]
    rfl
  refine ⟨by rw [out, hmade, hout], AsyncResult.stage_step h.stage hproper, hclosed, ?_, ?_, ?_,
    Promise.silent_step h.silent _⟩
  · show (Promise.step p (.agent e)).kept =
      decide (0 < (AsyncResult.step w.asyncResult e).calls.countP AsyncResult.Call.isComplete)
    rw [hkept, h.kept, hcalls, List.countP_append, ← Bool.decide_or, decide_eq_decide,
      Nat.add_pos_iff_pos_or_pos]
  · rw [htask']
  · rw [htask']

/-- What the task has been told so far. -/
theorem Follows.task_eq (h : Follows result w p) : w.task = ⟨p.failed, p.said.map errorOf⟩ := by
  rw [← h.failed, ← h.error]

theorem follows_setCompleted (h : Follows result w p) (hproper : Proper w (.agent .setCompleted)) :
    out w (.agent .setCompleted) = Promise.out p (.agent .setCompleted) ∧
      Follows result (step w (.agent .setCompleted)) (Promise.step p (.agent .setCompleted)) := by
  have htask := h.task_eq
  have hclosed := h.closed
  have hkept := h.kept
  obtain ⟨a, t⟩ := w
  cases h.stage with
  | fresh htally =>
      rw [htally.completed] at hkept
      exact follows_agent h hproper [.complete .live] rfl
        (by simp_all [Promise.out, calledBack]) hclosed
        (by simp_all [Promise.step, AsyncResult.Call.isComplete]) htask
  | completing hr htally => simp [Proper, AsyncResult.Proper] at hproper
  | completed hr htally =>
      rw [htally.completed] at hkept
      exact follows_agent h hproper [] (List.append_nil _).symm
        (by simp_all [Promise.out]) hclosed (by simp_all [Promise.step]) htask
  | destroyed hcompletions hcompleting htally =>
      exact follows_agent h hproper [] (List.append_nil _).symm
        (by simp_all [Promise.out]) hclosed (by simp_all [Promise.step]) htask

theorem follows_completionReturned (h : Follows result w p)
    (hproper : Proper w (.agent .completionReturned)) :
    out w (.agent .completionReturned) = Promise.out p (.agent .completionReturned) ∧
      Follows result (step w (.agent .completionReturned))
        (Promise.step p (.agent .completionReturned)) := by
  have htask := h.task_eq
  have hclosed := h.closed
  obtain ⟨a, t⟩ := w
  cases h.stage with
  | fresh htally =>
      exact follows_agent h hproper [] (List.append_nil _).symm rfl hclosed
        (by simp [Promise.step]) htask
  | completing hr htally =>
      exact follows_agent h hproper [.unref .live] rfl rfl hclosed
        (by simp [Promise.step, AsyncResult.Call.isComplete]) htask
  | completed hr htally =>
      exact follows_agent h hproper [] (List.append_nil _).symm rfl hclosed
        (by simp [Promise.step]) htask
  | destroyed hcompletions hcompleting htally =>
      -- a proper return comes before the destructor
      have hzero := hproper.resolve_right (by simp)
      simp only at hzero
      subst hzero
      exact follows_agent h hproper [] (List.append_nil _).symm rfl hclosed
        (by simp [Promise.step]) htask

theorem follows_setError (h : Follows result w p) {text : QString}
    (hproper : Proper w (.agent (.setError text))) :
    out w (.agent (.setError text)) = Promise.out p (.agent (.setError text)) ∧
      Follows result (step w (.agent (.setError text))) (Promise.step p (.agent (.setError text))) := by
  have htask := h.task_eq
  have hclosed := h.closed
  obtain ⟨a, t⟩ := w
  cases h.stage with
  | fresh htally =>
      exact follows_agent h hproper [.setError .live (errorOf text)] rfl rfl
        ((Promise.closed_step_setError p text).trans hclosed)
        (by simp_all [Promise.step, AsyncResult.Call.isComplete])
        (by simp_all [Promise.step, Task.react])
  | completing hr htally =>
      exact follows_agent h hproper [.setError .live (errorOf text)] rfl rfl
        ((Promise.closed_step_setError p text).trans hclosed)
        (by simp_all [Promise.step, AsyncResult.Call.isComplete])
        (by simp_all [Promise.step, Task.react])
  | completed hr htally => simp [Proper, AsyncResult.Proper] at hproper
  | destroyed hcompletions hcompleting htally =>
      exact follows_agent h hproper [] (List.append_nil _).symm rfl
        ((Promise.closed_step_setError p text).trans hclosed)
        (by simp_all [Promise.step]) (by simp_all [Promise.step])

theorem follows_destroy (h : Follows result w p) :
    out w (.agent .destroy) = Promise.out p (.agent .destroy) ∧
      Follows result (step w (.agent .destroy)) (Promise.step p (.agent .destroy)) := by
  have htask := h.task_eq
  have hproper : Proper w (.agent .destroy) := trivial
  obtain ⟨a, t⟩ := w
  cases h.stage with
  | fresh htally =>
      exact follows_agent h hproper [.unref .live] rfl rfl rfl
        (by simp [Promise.step, AsyncResult.Call.isComplete]) htask
  | completing hr htally =>
      exact follows_agent h hproper [.unref .live] rfl rfl rfl
        (by simp [Promise.step, AsyncResult.Call.isComplete]) htask
  | completed hr htally =>
      exact follows_agent h hproper [] (List.append_nil _).symm rfl rfl
        (by simp [Promise.step]) htask
  | destroyed hcompletions hcompleting htally =>
      exact follows_agent h hproper [] (List.append_nil _).symm rfl rfl
        (by simp [Promise.step]) htask

/-- The error is handed over once. -/
theorem follows_finish (h : Follows result w p) :
    out w .finish = Promise.out p .finish ∧
      Follows result (step w .finish) (Promise.step p .finish) := by
  have htask := h.task_eq
  cases hfailed : p.failed with
  | false =>
      have hsaid := h.silent hfailed
      have hfinish : polkitQtListenerInitiateAuthenticationFinish w.task =
          (.finished true none, w.task) := by
        rw [htask, hfailed, hsaid]
        rfl
      refine ⟨?_, h.stage, h.closed, h.kept, ?_, ?_, Promise.silent_step h.silent _⟩
      · rw [out, hfinish, Promise.out, hfailed, hsaid]
        rfl
      · rw [step, hfinish]
        exact h.failed
      · rw [step, hfinish, htask, hsaid]
        rfl
  | true =>
      have hfinish : polkitQtListenerInitiateAuthenticationFinish w.task =
          (.finished false (p.said.map errorOf), ⟨true, none⟩) := by
        rw [htask, hfailed]
        rfl
      refine ⟨?_, h.stage, h.closed, h.kept, ?_, ?_, Promise.silent_step h.silent _⟩
      · rw [out, hfinish, Promise.out, hfailed]
        rfl
      · rw [step, hfinish]
        exact hfailed.symm
      · rw [step, hfinish]
        rfl

/-- **A proper step is a step of the promise.** -/
theorem follows_step {e : Event} (h : Follows result w p) (hproper : Proper w e) :
    out w e = Promise.out p e ∧ Follows result (step w e) (Promise.step p e) := by
  cases e with
  | finish => exact follows_finish h
  | agent e =>
      cases e with
      | setCompleted => exact follows_setCompleted h hproper
      | completionReturned => exact follows_completionReturned h hproper
      | setError text => exact follows_setError h hproper
      | destroy => exact follows_destroy h

end Steps

/-- What polkit sees of a proper run is what it sees of the promise. -/
theorem trace_eq_promise {result : GSimpleAsyncResult} {es : List Event}
    (hproper : EachStep step Proper (new result) es) :
    trace step out (new result) es = trace Promise.step Promise.out Promise.new es := by
  have hfollows : ∀ w p e, Proper w e → Follows result w p →
      out w e = Promise.out p e ∧ Follows result (step w e) (Promise.step p e) :=
    fun w p e hproper h => follows_step h hproper
  exact (trace_eq_of_simulation hfollows (follows_new result) hproper).1

/-- **What polkit sees of an authentication.**  For every task the adapter creates and every run of
calls of the agent, completions that return and finish functions, in any order, the steps of which are
proper: polkit sees what it sees of the promise.  It is called back once, if the agent completes the
request before it lets go of it, and never if not; and a finish function returns that the request
succeeded unless the agent has set an error, in which case it hands over the last one set since it was
asked before. -/
theorem refines_promise (result : GSimpleAsyncResult) (es : List Event)
    (hproper : EachStep step Proper (new result) es) :
    trace step out (new result) es = trace Promise.step Promise.out Promise.new es ∧
      (trace step out (new result) es).countP Seen.isCalledBack =
        if Promise.Kept es then 1 else 0 := by
  refine ⟨trace_eq_promise hproper, ?_⟩
  rw [trace_eq_promise hproper]
  exact Promise.countP_calledBack rfl rfl es

/-- The agent gives two errors, completes the request and lets go of it; polkit asks twice. -/
theorem refines_promise_two_errors :
    let es : List Event := [.agent (.setError (.ofUtf16 [110, 111])), .agent (.setError .null),
      .agent .setCompleted, .finish, .finish, .agent .completionReturned, .agent .destroy]
    EachStep step Proper (new 7) es ∧
      trace step out (new 7) es =
        [.calledBack, .finished false (some ⟨.polkitError, polkitErrorFailed, []⟩),
          .finished false none] ∧
      trace step out (new 7) es = trace Promise.step Promise.out Promise.new es :=
  ⟨by decide, by decide, (refines_promise 7 _ (by decide)).1⟩

end Answer

end Agent

end PolkitQt
