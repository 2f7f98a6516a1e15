/-
**The three error accessors.**

`hasError`, `lastError` and `errorDetails` read three members that are stored apart.  `setError` and
`clearError` keep them in step: an error has a code, and clearing it takes the code away.  But the
constructor leaves `m_lastError` as it finds the memory, so until the first of these calls the code
can be anything.

Main definition:

* `PolkitQt.Authority.AccessorsAgree` — the accessors tell the same.

Main result:

* `PolkitQt.Authority.always_accessorsAgree_iff` — they do all along a run exactly if that memory held
  `E_None`, or the constructor itself reports an error.
-/

import PolkitQt.AuthoritySystem

set_option relaxedAutoImplicit false
set_option autoImplicit false

namespace PolkitQt

namespace Authority

open Runs

/-- An error is shown exactly if it has a code, and without one there are no details. -/
structure AccessorsAgree (d : Private) : Prop where
  latched : d.hasError = true ↔ d.lastError ≠ .none
  details : d.lastError = .none → d.errorDetails.isEmpty = true

/-- Without a code there are never any details. -/
theorem isEmpty_errorDetails {d : Private} (h : d.lastError = .none) :
    d.errorDetails.isEmpty = true := by
  have hdetails : d.errorDetails = .null := if_pos h
  rw [hdetails]
  rfl

/-- So all depends on the flag and the code. -/
theorem accessorsAgree_iff (d : Private) :
    AccessorsAgree d ↔ (d.hasError = true ↔ d.lastError ≠ .none) :=
  ⟨AccessorsAgree.latched, fun h => ⟨h, isEmpty_errorDetails⟩⟩

namespace AccessorsAgree

variable {d d' : Private}

theorem setError (d : Private) {code : ErrorCode} (hcode : code ≠ .none) (details : QString) :
    AccessorsAgree (d.setError code details) :=
  (accessorsAgree_iff _).2 ⟨fun _ => hcode, fun _ => rfl⟩

theorem clearError (d : Private) : AccessorsAgree d.clearError :=
  (accessorsAgree_iff _).2 ⟨fun h => absurd h Bool.false_ne_true, fun h => absurd rfl h⟩

/-- Only what the accessors show matters. -/
theorem congr (h : AccessorsAgree d) (heq : d'.errorState = d.errorState) : AccessorsAgree d' := by
  have hflag : d'.hasError = d.hasError := congrArg ErrorState.hasError heq
  have hcode : d'.lastError = d.lastError := congrArg ErrorState.lastError heq
  rw [accessorsAgree_iff, hflag, hcode]
  exact h.latched

/-- A method or a callback latches an error with a code, or does nothing. -/
theorem effect (h : AccessorsAgree d) (heffect : Effect d d') : AccessorsAgree d' := by
  cases heffect with
  | keep => exact h
  | set code details hreportable => exact setError d hreportable.code_ne_none details

/-- **Every event keeps the accessors in step.** -/
theorem step {s : System} (h : AccessorsAgree s.d) (e : Event) :
    AccessorsAgree (Authority.step s e).d := by
  cases e with
  | cancel k => exact h.congr (errorState_cancel k s.d)
  | clearError => exact clearError s.d
  | _ => exact h.effect (step_effect s (by simp) (by simp))

end AccessorsAgree

/-- What the constructor leaves. -/
theorem accessorsAgree_construct_iff (lastError : ErrorCode) (authority : Option PolkitAuthority)
    (get : Except GError (Option PolkitAuthority)) :
    AccessorsAgree (Private.construct lastError authority get) ↔
      lastError = .none ∨ (authority = none ∧ ∃ gerror, get = .error gerror) := by
  rw [accessorsAgree_iff]
  cases authority with
  | some authority => simp [Private.construct, Private.init, Private.new, Private.hasError,
      Private.lastError]
  | none =>
      cases get with
      | error gerror => simp [Private.construct, Private.init, Private.hasError,
          Private.lastError, Private.setError]
      | ok authority => simp [Private.construct, Private.init, Private.new, Private.hasError,
          Private.lastError]

/-- **The accessors agree all along a run exactly if they agree at its start**: if the memory of
`m_lastError` held `E_None`, or the authority was asked for and could not be had. -/
theorem always_accessorsAgree_iff (lastError : ErrorCode) (authority : Option PolkitAuthority)
    (get : Except GError (Option PolkitAuthority)) (es : List Event) :
    Always step (fun s => AccessorsAgree s.d)
        (System.start (Private.construct lastError authority get)) es ↔
      lastError = .none ∨ (authority = none ∧ ∃ gerror, get = .error gerror) := by
  rw [← accessorsAgree_construct_iff lastError authority get]
  constructor
  · exact fun h => h.head
  · intro h pre _
    exact run_inv (I := fun s : System => AccessorsAgree s.d) (fun s e hs => hs.step e) h pre

/-- An explicit authority, and what is found in the memory is the code of a failed revocation. -/
theorem stray_error_code :
    let s := System.start (Private.construct .revokeFailed (some 1) (.ok none))
    s.d.hasError = false ∧ s.d.lastError = .revokeFailed ∧
      ¬ Always step (fun s => AccessorsAgree s.d) s [] := by
  intro s
  refine ⟨rfl, rfl, fun h => ?_⟩
  exact absurd (h.head.latched.2 (by decide)) (by decide)

end Authority

end PolkitQt
