/-
**What the callbacks make of an error.**

A request that ends with an error has failed or was cancelled.  Who cancels a request does not want
to hear of it, so a cancellation is to be passed over in silence, and everything else is to be
latched under the code of the operation, with polkit's message.  What an error is can only be told
from its domain *and* its code.  The callbacks look at the code alone: every error of code 1 passes
for a cancellation, whatever its domain, and GIO's own cancellation, which has code 19, is latched.

Main definitions:

* `HandlesError` — the callback ends on an error as it should;
* `CodeTells` — the condition.

Main result:

* `handlesError_iff` — in every state and for every kind of request, the callback handles an error
  exactly when its code alone tells what it is.
-/

import PolkitQt.AuthoritySystem

set_option relaxedAutoImplicit false
set_option autoImplicit false

namespace PolkitQt

namespace Authority

/-- How the callback of kind `k` is to end on an error: a cancellation changes nothing and is not
signalled, and any other error is latched, with its message. -/
structure HandlesError (d : Private) (k : Kind) (error : GError) : Prop where
  silent : error.isCancellation = true →
    (finish d k (.error error)).priv.hasError = d.hasError ∧
      (finish d k (.error error)).priv.lastError = d.lastError ∧
        (finish d k (.error error)).signal = none
  latched : error.isCancellation = false →
    (finish d k (.error error)).priv.hasError = true ∧
      (finish d k (.error error)).priv.lastError = k.failCode ∧
        (finish d k (.error error)).priv.errorDetails = QString.fromUtf8 error.message

/-- The code alone tells what the error is: a cancellation has code 1, any other error has another
code, and the callback latches the code of its operation.  Where it does not, the callback is right
only by chance, when what it should leave behind is there already. -/
def CodeTells (d : Private) (k : Kind) (error : GError) : Prop :=
  if error.isCancellation then
    error.code = 1 ∨ (d.hasError = true ∧ d.lastError = k.callbackCode)
  else if error.code = 1 then
    d.hasError = true ∧ d.lastError = k.failCode ∧
      d.errorDetails = QString.fromUtf8 error.message
  else k ≠ .registerAuthenticationAgent

/-- An error of code 1 leaves everything as it was. -/
theorem finish_error_of_code_one {d : Private} {k : Kind} {error : GError} (h : error.code = 1) :
    finish d k (.error error) = ⟨d, none⟩ := by
  rw [finish_error, if_neg (not_not.2 h)]

/-- An error of any other code is latched. -/
theorem finish_error_of_code_ne_one {d : Private} {k : Kind} {error : GError}
    (h : error.code ≠ 1) :
    finish d k (.error error) =
      ⟨d.setError k.callbackCode (QString.fromUtf8 error.message), none⟩ := by
  rw [finish_error, if_pos h]

/-- Latched details are shown, since every callback latches some code. -/
theorem errorDetails_setError_callbackCode (d : Private) (k : Kind) (details : QString) :
    (d.setError k.callbackCode details).errorDetails = details := by
  cases k <;> rfl

/-- A cancellation is passed over when it has code 1. -/
theorem handlesError_cancellation_iff {d : Private} {k : Kind} {error : GError}
    (hcan : error.isCancellation = true) :
    HandlesError d k error ↔
      error.code = 1 ∨ (d.hasError = true ∧ d.lastError = k.callbackCode) := by
  by_cases hcode : error.code = 1
  · have hfin := finish_error_of_code_one (d := d) (k := k) hcode
    refine ⟨fun _ => Or.inl hcode, fun _ => ⟨fun _ => ?_, fun hnot => ?_⟩⟩
    · rw [hfin]
      exact ⟨rfl, rfl, rfl⟩
    · rw [hcan] at hnot
      simp at hnot
  · have hfin := finish_error_of_code_ne_one (d := d) (k := k) hcode
    constructor
    · intro h
      obtain ⟨herr, hlast, -⟩ := h.silent hcan
      rw [hfin] at herr hlast
      exact Or.inr ⟨herr.symm, hlast.symm⟩
    · rintro (h | ⟨herr, hlast⟩)
      · exact absurd h hcode
      · refine ⟨fun _ => ?_, fun hnot => ?_⟩
        · rw [hfin]
          exact ⟨herr.symm, hlast.symm, rfl⟩
        · rw [hcan] at hnot
          simp at hnot

/-- Any other error is latched when it has another code, under the code the callback has. -/
theorem handlesError_failure_iff {d : Private} {k : Kind} {error : GError}
    (hcan : error.isCancellation = false) :
    HandlesError d k error ↔
      if error.code = 1 then
        d.hasError = true ∧ d.lastError = k.failCode ∧
          d.errorDetails = QString.fromUtf8 error.message
      else k ≠ .registerAuthenticationAgent := by
  have hsilent : ∀ P : Prop, error.isCancellation = true → P := by
    intro P h
    rw [hcan] at h
    simp at h
  by_cases hcode : error.code = 1
  · have hfin := finish_error_of_code_one (d := d) (k := k) hcode
    rw [if_pos hcode]
    constructor
    · intro h
      have hlatched := h.latched hcan
      rw [hfin] at hlatched
      exact hlatched
    · intro h
      refine ⟨fun hyes => hsilent _ hyes, fun _ => ?_⟩
      rw [hfin]
      exact h
  · have hfin := finish_error_of_code_ne_one (d := d) (k := k) hcode
    rw [if_neg hcode, ← Kind.failCode_eq_callbackCode_iff]
    constructor
    · intro h
      obtain ⟨-, hlast, -⟩ := h.latched hcan
      rw [hfin] at hlast
      exact hlast.symm
    · intro h
      refine ⟨fun hyes => hsilent _ hyes, fun _ => ?_⟩
      rw [hfin, h]
      exact ⟨rfl, rfl, errorDetails_setError_callbackCode d k _⟩

/-- **A callback handles an error exactly when its code alone tells what it is**, in every state,
for all eight kinds and for every domain, code and message. -/
theorem handlesError_iff (d : Private) (k : Kind) (error : GError) :
    HandlesError d k error ↔ CodeTells d k error := by
  cases hcan : error.isCancellation with
  | true =>
      rw [handlesError_cancellation_iff hcan, CodeTells, if_pos hcan]
  | false =>
      rw [handlesError_failure_iff hcan, CodeTells, hcan, if_neg Bool.false_ne_true]

/-- Both ways to go wrong: an error of the bus with code 1 is lost, and a request cancelled by GIO
blocks the authority. -/
theorem dbus_error_lost_and_cancel_latched :
    ¬ HandlesError freshAuthority .enumerateActions ⟨.gDBusError, 1, []⟩ ∧
      ¬ HandlesError freshAuthority .enumerateActions ⟨.gIOError, 19, []⟩ := by
  refine ⟨fun h => ?_, fun h => ?_⟩
  · exact absurd (h.latched rfl).1 (by decide)
  · exact absurd (h.silent rfl).1 (by decide)

end Authority

end PolkitQt
