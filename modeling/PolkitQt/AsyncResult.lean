/-
**The result of an authentication, which is to be completed once.**

An `AsyncResult` owns a reference on a `GSimpleAsyncResult`.  `setCompleted` completes it, drops the
reference and clears the pointer, and every call after that finds the pointer null.  But the
completion calls back before it returns, and what the program does there comes before the pointer is
cleared.  So the state has, besides the pointer and the reference, the number of completions that
are still in progress, and a run lists the calls and the returns in the order they happen.  The
sessions that share the object only hold its address: whichever of them a call comes from makes no
difference.

Main definitions:

* `PolkitQt.Agent.AsyncResult.step` — the calls of a program, and the return of a completion;
* `PolkitQt.Agent.AsyncResult.CompletedOnce` — one completion at most, the reference dropped once,
  and no call with a bad pointer;
* `PolkitQt.Agent.AsyncResult.Proper` — the condition on a step.

Main results:

* `PolkitQt.Agent.AsyncResult.stage_step` — **the steps that meet the condition go from stage to
  stage**, fresh, completing, completed and destroyed;
* `PolkitQt.Agent.AsyncResult.always_completedOnce_iff` — a run keeps the property exactly when all
  its steps meet the condition.
-/

import PolkitQt.Runs
import PolkitQt.Polkit

set_option relaxedAutoImplicit false
set_option autoImplicit false

namespace PolkitQt

namespace Agent

open Runs

/-- A pointer as it is passed to polkit or GIO: null, to an object that is there, or to one on which
the reference has been dropped. -/
inductive Argument
  | null
  | live
  | released
  deriving DecidableEq, Repr

/-- A `GSimpleAsyncResult`, known by its address. -/
abbrev GSimpleAsyncResult := Nat

/-- `POLKIT_ERROR_FAILED`. -/
def polkitErrorFailed : Int := 0

namespace AsyncResult

/-! ### The object and its calls -/

/-- The calls of GIO and GObject. -/
inductive Call
  | complete (result : Argument)
  | setError (result : Argument) (error : GError)
  | unref (result : Argument)
  deriving DecidableEq, Repr

def Call.result : Call → Argument
  | complete result => result
  | setError result _ => result
  | unref result => result

def Call.isComplete : Call → Bool
  | complete _ => true
  | _ => false

def Call.isUnref : Call → Bool
  | unref _ => true
  | _ => false

/-- An `AsyncResult` in a program: the pointer in its private data, whether the reference it was
given is still held, how many completions have not returned, whether the object is destroyed, and
the calls made.  The private data outlives the object: the destructor does not delete it. -/
structure System where
  result : Option GSimpleAsyncResult
  referenced : Bool
  completing : Nat
  destroyed : Bool
  calls : List Call
  deriving DecidableEq, Repr

/-- `AsyncResult(result)` takes the reference over. -/
def new (result : Option GSimpleAsyncResult) : System := ⟨result, result.isSome, 0, false, []⟩

/-- The pointer as an argument. -/
def System.argument (w : System) : Argument :=
  match w.result with
  | none => .null
  | some _ => if w.referenced then .live else .released

/-- `g_object_unref(d->result)`. -/
def System.unref (w : System) : System :=
  { w with referenced := false, calls := w.calls ++ [.unref w.argument] }

/-- `setCompleted`, until `g_simple_async_result_complete` calls back. -/
def setCompleted (w : System) : System :=
  match w.result with
  | none => w
  | some _ =>
      { w with completing := w.completing + 1, calls := w.calls ++ [.complete w.argument] }

/-- `setCompleted`, after the innermost completion has returned. -/
def completionReturned (w : System) : System :=
  match w.completing with
  | 0 => w
  | n + 1 => { w.unref with result := none, completing := n }

/-- `setError`; the assertion on the pointer is not compiled into a release. -/
def setError (w : System) (text : QString) : System :=
  { w with calls := w.calls ++
      [.setError w.argument ⟨.polkitError, polkitErrorFailed, cString text.toUtf8⟩] }

/-- `~AsyncResult`; the pointer stays. -/
def destroy (w : System) : System :=
  match w.result with
  | none => { w with destroyed := true }
  | some _ => { w.unref with destroyed := true }

/-- What happens: the calls on the object, also from inside a completion, and the return of the
innermost completion. -/
inductive Event
  | setCompleted
  | completionReturned
  | setError (text : QString)
  | destroy
  deriving DecidableEq, Repr

/-- Nothing is called on an object that is destroyed, but a completion in progress returns. -/
def step (w : System) : Event → System
  | .setCompleted => if w.destroyed then w else setCompleted w
  | .completionReturned => completionReturned w
  | .setError text => if w.destroyed then w else setError w text
  | .destroy => if w.destroyed then w else destroy w

/-! ### The property and the condition -/

/-- The result is completed at most once, the reference on it, if there is one, has been dropped
exactly once when the object is destroyed, and every call was made with a live result. -/
structure CompletedOnce (result : Option GSimpleAsyncResult) (w : System) : Prop where
  completed : w.calls.countP Call.isComplete ≤ 1
  dropped : w.destroyed = true → w.calls.countP Call.isUnref = result.isSome.toNat
  live : ∀ c ∈ w.calls, c.result = .live

/-- When a step does no harm: no completion is started inside another one, no error is set without
a result, and no completion returns to an object that is destroyed. -/
def Proper (w : System) : Event → Prop
  | .setCompleted => w.destroyed = true ∨ w.result = none ∨ w.completing = 0
  | .completionReturned => w.completing = 0 ∨ w.destroyed = false
  | .setError _ => w.destroyed = true ∨ w.result ≠ none
  | .destroy => True

/-! ### Stages -/

/-- What a list of calls amounts to, all of them made with a live result. -/
structure Tally (completions drops : Nat) (calls : List Call) : Prop where
  completed : calls.countP Call.isComplete = completions
  dropped : calls.countP Call.isUnref = drops
  live : ∀ c ∈ calls, c.result = .live

namespace Tally

variable {completions drops : Nat} {calls : List Call}

theorem nil : Tally 0 0 [] := ⟨rfl, rfl, fun _ h => absurd h List.not_mem_nil⟩

theorem append (h : Tally completions drops calls) {c : Call} (hc : c.result = .live) :
    Tally (completions + c.isComplete.toNat) (drops + c.isUnref.toNat) (calls ++ [c]) := by
  refine ⟨?_, ?_, forall_mem_concat h.live hc⟩
  · rw [countP_concat, h.completed]
  · rw [countP_concat, h.dropped]

end Tally

/-- The stages of an `AsyncResult` that was given `result`: it has not been completed; its one
completion is in progress; that has returned; or the object is destroyed, maybe inside it. -/
inductive Stage (result : Option GSimpleAsyncResult) : System → Prop
  | fresh {calls : List Call} (h : Tally 0 0 calls) :
      Stage result ⟨result, result.isSome, 0, false, calls⟩
  | completing {r : GSimpleAsyncResult} {calls : List Call} (hr : result = some r)
      (h : Tally 1 0 calls) : Stage result ⟨some r, true, 1, false, calls⟩
  | completed {calls : List Call} (hr : result ≠ none) (h : Tally 1 1 calls) :
      Stage result ⟨none, false, 0, false, calls⟩
  | destroyed {pointer : Option GSimpleAsyncResult} {completing completions : Nat}
      {calls : List Call} (hcompletions : completions ≤ 1)
      (hcompleting : completing ≠ 0 → pointer ≠ none)
      (h : Tally completions result.isSome.toNat calls) :
      Stage result ⟨pointer, false, completing, true, calls⟩

theorem stage_new (result : Option GSimpleAsyncResult) : Stage result (new result) :=
  .fresh Tally.nil

section Stages

variable {result : Option GSimpleAsyncResult} {w : System}

theorem Stage.completedOnce (h : Stage result w) : CompletedOnce result w := by
  cases h with
  | fresh h => exact ⟨by rw [h.completed]; exact Nat.zero_le 1, by simp, h.live⟩
  | completing hr h => exact ⟨Nat.le_of_eq h.completed, by simp, h.live⟩
  | completed hr h => exact ⟨Nat.le_of_eq h.completed, by simp, h.live⟩
  | destroyed hcompletions hcompleting h =>
      exact ⟨by rw [h.completed]; exact hcompletions, fun _ => h.dropped, h.live⟩

theorem stage_setCompleted (h : Stage result w) (hproper : Proper w .setCompleted) :
    Stage result (step w .setCompleted) := by
  cases h with
  | fresh h =>
      cases result with
      | none => exact .fresh h
      | some r => exact .completing rfl (h.append (c := .complete .live) rfl)
  | completing hr h => simp [Proper] at hproper
  | completed hr h => exact .completed hr h
  | destroyed hcompletions hcompleting h => exact .destroyed hcompletions hcompleting h

/-- The completion returns to an object that is there: the reference goes, and the pointer. -/
theorem stage_completionReturned (h : Stage result w) (hproper : Proper w .completionReturned) :
    Stage result (step w .completionReturned) := by
  cases h with
  | fresh h => exact .fresh h
  | completing hr h => exact .completed (by simp [hr]) (h.append (c := .unref .live) rfl)
  | completed hr h => exact .completed hr h
  | destroyed hcompletions hcompleting h =>
      have hzero := hproper.resolve_right (by simp)
      simp only at hzero
      subst hzero
      exact .destroyed hcompletions hcompleting h

theorem stage_setError (h : Stage result w) {text : QString} (hproper : Proper w (.setError text)) :
    Stage result (step w (.setError text)) := by
  cases h with
  | fresh h =>
      cases result with
      | none => simp [Proper] at hproper
      | some r => exact .fresh (h.append (c := .setError .live _) rfl)
  | completing hr h => exact .completing hr (h.append (c := .setError .live _) rfl)
  | completed hr h => simp [Proper] at hproper
  | destroyed hcompletions hcompleting h => exact .destroyed hcompletions hcompleting h

/-- The destructor drops the reference unless that has been done. -/
theorem stage_destroy (h : Stage result w) : Stage result (step w .destroy) := by
  cases h with
  | fresh h =>
      cases result with
      | none => exact .destroyed (Nat.zero_le 1) (fun hne => absurd rfl hne) h
      | some r =>
          exact .destroyed (Nat.zero_le 1) (fun _ => Option.some_ne_none r)
            (h.append (c := .unref .live) rfl)
  | completing hr h =>
      refine .destroyed (Nat.le_refl 1) (fun _ => Option.some_ne_none _) ?_
      rw [hr]
      exact h.append (c := .unref .live) rfl
  | completed hr h =>
      refine .destroyed (Nat.le_refl 1) (fun hne => absurd rfl hne) ?_
      rw [Option.isSome_iff_ne_none.2 hr]
      exact h
  | destroyed hcompletions hcompleting h => exact .destroyed hcompletions hcompleting h

/-- **The steps that meet the condition go from stage to stage.** -/
theorem stage_step (h : Stage result w) {e : Event} (hproper : Proper w e) :
    Stage result (step w e) := by
  cases e with
  | setCompleted => exact stage_setCompleted h hproper
  | completionReturned => exact stage_completionReturned h hproper
  | setError text => exact stage_setError h hproper
  | destroy => exact stage_destroy h

/-- The last call was made with a live result, as all of them were. -/
theorem CompletedOnce.live_last {w : System} (h : CompletedOnce result w)
    {calls : List Call} {c : Call} (hcalls : w.calls = calls ++ [c]) : c.result = .live :=
  h.live c (by rw [hcalls]; exact List.mem_append_right _ (List.mem_singleton_self c))

/-- **And the others break the property at once**: the result is completed again, or a call gets a
pointer that is null or released. -/
theorem proper_of_completedOnce (h : Stage result w) {e : Event}
    (hstep : CompletedOnce result (step w e)) : Proper w e := by
  cases e with
  | setCompleted =>
      cases h with
      | fresh h => exact Or.inr (Or.inr rfl)
      | completing hr h =>
          have htwice := h.append (c := .complete .live) rfl
          have hle := hstep.completed
          simp only [step, setCompleted, System.argument, Bool.false_eq_true, if_false, if_true]
            at hle
          rw [htwice.completed] at hle
          exact absurd hle (by decide)
      | completed hr h => exact Or.inr (Or.inl rfl)
      | destroyed hcompletions hcompleting h => exact Or.inl rfl
  | completionReturned =>
      cases h with
      | fresh h => exact Or.inl rfl
      | completing hr h => exact Or.inr rfl
      | completed hr h => exact Or.inl rfl
      | @destroyed pointer completing completions calls hcompletions hcompleting h =>
          cases completing with
          | zero => exact Or.inl rfl
          | succ n =>
              -- the reference went with the object, the pointer stayed
              obtain ⟨r, rfl⟩ := Option.ne_none_iff_exists'.1 (hcompleting (Nat.succ_ne_zero n))
              exact absurd (hstep.live_last rfl) (by simp [Call.result, System.argument])
  | setError text =>
      cases h with
      | fresh h =>
          cases result with
          | none => exact absurd (hstep.live_last rfl) (by simp [Call.result, System.argument])
          | some r => exact Or.inr (by simp)
      | completing hr h => exact Or.inr (by simp)
      | completed hr h =>
          exact absurd (hstep.live_last rfl) (by simp [Call.result, System.argument])
      | destroyed hcompletions hcompleting h => exact Or.inl rfl
  | destroy => trivial

end Stages

/-- **When a result is completed once.**  For every `AsyncResult` and every sequence of calls on it,
from inside a completion or not, up to the destructor: the result is completed at most once, its
reference is dropped exactly once, and no call gets a null or released result, if and only if no
completion is started inside another, no error is set without a result, and no completion returns
to an object that is destroyed. -/
theorem always_completedOnce_iff (result : Option GSimpleAsyncResult) (es : List Event) :
    Always step (CompletedOnce result) (new result) es ↔ EachStep step Proper (new result) es :=
  always_iff_eachStep_of_inv (J := Stage result) (P := CompletedOnce result) (C := Proper)
    (fun _ h => h.completedOnce) (fun _ _ h hproper => stage_step h hproper)
    (fun _ _ h hstep => proper_of_completedOnce h hstep) (stage_new result) es

/-- The callback of the completion completes the result again; the reference is dropped inside, and
outside null is passed. -/
theorem completed_inside_completion :
    ¬ Always step (CompletedOnce (some 1)) (new (some 1))
      [.setCompleted, .setCompleted, .completionReturned, .completionReturned] := by
  intro h
  exact absurd h.last.completed (by decide)

end AsyncResult

end Agent

end PolkitQt
