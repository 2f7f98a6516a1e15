/-
**What the truth values of the authority mean.**

Five synchronous methods return whether polkit reported success, and `TemporaryAuthorization::revoke`
returns whether the revocation was sent.  The five tell the truth in every state and for every reply:
each way out before polkit is asked, and each error, returns false.  The sixth starts an asynchronous
method that may return without doing anything, and returns true all the same.

Main definitions:

* `PolkitQt.TemporaryAuthorization.revoke` — the method;
* `PolkitQt.Authority.BoolCall` — the six methods, with their arguments;
* `PolkitQt.Authority.BoolCall.Succeeded` — what returning true is to mean.

Main result:

* `PolkitQt.Authority.reports_success_iff` — the value is true exactly then, but for a revocation
  that is not sent.
-/

import PolkitQt.AuthoritySystem

set_option relaxedAutoImplicit false
set_option autoImplicit false

namespace PolkitQt

/-- `TemporaryAuthorization::revoke`, with the private data of `Authority::instance()`. -/
def TemporaryAuthorization.revoke (authorization : TemporaryAuthorization)
    (d : Authority.Private) : Authority.SyncOut Bool :=
  let o := Authority.revokeTemporaryAuthorization d authorization.id
  ⟨true, o.priv, o.request⟩

namespace Authority

/-- The methods that return a truth value, with their arguments. -/
inductive BoolCall
  | registerAuthenticationAgentSync (subject : Subject) (locale objectPath : QString)
  | unregisterAuthenticationAgentSync (subject : Subject) (objectPath : QString)
  | authenticationAgentResponseSync (cookie : QString) (identity : Identity)
  | revokeTemporaryAuthorizationsSync (subject : Subject)
  | revokeTemporaryAuthorizationSync (id : QString)
  | revoke (authorization : TemporaryAuthorization)

namespace BoolCall

/-- The call, with polkit's reply if it waits for one. -/
def run (d : Private) (reply : Except GError Bool) : BoolCall → SyncOut Bool
  | registerAuthenticationAgentSync subject locale objectPath =>
      Authority.registerAuthenticationAgentSync d subject locale objectPath reply
  | unregisterAuthenticationAgentSync subject objectPath =>
      Authority.unregisterAuthenticationAgentSync d subject objectPath reply
  | authenticationAgentResponseSync cookie identity =>
      Authority.authenticationAgentResponseSync d cookie identity reply
  | revokeTemporaryAuthorizationsSync subject =>
      Authority.revokeTemporaryAuthorizationsSync d subject reply
  | revokeTemporaryAuthorizationSync id =>
      Authority.revokeTemporaryAuthorizationSync d id reply
  | revoke authorization => authorization.revoke d

/-- The call sent its request and polkit answered that it succeeded.  A revocation that does not wait
for the answer is to be accepted and sent: polkit takes no call on a null authority, and sends none
whose cancellable is cancelled. -/
def Succeeded (d : Private) (reply : Except GError Bool) : BoolCall → Prop
  | revoke authorization =>
      (∃ request, (authorization.revoke d).request = some request ∧ request.authority ≠ none) ∧
        (d.mCancellable .revokeTemporaryAuthorization).isCancelled = false
  | call => (call.run d reply).request ≠ none ∧ reply = .ok true

end BoolCall

/-- A synchronous call that converts nothing returns true exactly if it asked and was told so. -/
theorem syncCall_value_iff (refused : Option Private) (request : Request)
    (reply : Except GError Bool) (code : ErrorCode) (d : Private) :
    (syncCall refused false request reply code .ok d).value = true ↔
      (syncCall refused false request reply code .ok d).request ≠ none ∧ reply = .ok true := by
  cases refused with
  | some d' => simp [syncCall]
  | none =>
      cases reply with
      | error error => simp [syncCall]
      | ok value => simp [syncCall]

/-- A revocation goes out exactly if no error is latched. -/
theorem request_revoke (authorization : TemporaryAuthorization) (d : Private) :
    (authorization.revoke d).request =
      if d.hasError then none
      else some (.revokeTemporaryAuthorizationById d.pkAuthority
        (cString authorization.id.toUtf8)) := by
  simp only [TemporaryAuthorization.revoke, revokeTemporaryAuthorization, asyncCall, Private.refuse]
  cases d.hasError <;> rfl

theorem succeeded_revoke_iff (authorization : TemporaryAuthorization) (d : Private)
    (reply : Except GError Bool) :
    (BoolCall.revoke authorization).Succeeded d reply ↔
      d.hasError = false ∧ d.pkAuthority ≠ none ∧
        (d.mCancellable .revokeTemporaryAuthorization).isCancelled = false := by
  rw [BoolCall.Succeeded, request_revoke]
  cases d.hasError with
  | true => simp
  | false => simp [Request.authority]

/-- **The truth values are right, but for a revocation that is not sent.**  Each of the six calls
returns true exactly when it succeeded; of `TemporaryAuthorization::revoke` this holds if and only if
no error is latched, there is an authority, and its revocations have not been cancelled. -/
theorem reports_success_iff (d : Private) (reply : Except GError Bool) (call : BoolCall) :
    ((call.run d reply).value = true ↔ call.Succeeded d reply) ↔
      ∀ authorization, call = .revoke authorization →
        d.hasError = false ∧ d.pkAuthority ≠ none ∧
          (d.mCancellable .revokeTemporaryAuthorization).isCancelled = false := by
  cases call with
  | revoke authorization =>
      rw [succeeded_revoke_iff]
      constructor
      · intro h _ _
        exact h.1 rfl
      · intro h
        exact ⟨fun _ => h authorization rfl, fun _ => rfl⟩
  | _ =>
      -- the five synchronous methods are one pattern
      exact ⟨fun _ _ heq => by simp at heq, fun _ => syncCall_value_iff _ _ _ _ _⟩

/-- polkit could not be reached, and the revocation that was never sent is reported as done. -/
theorem unsent_revocation_reported :
    let d := (runFrom (Private.construct .none none (.error ⟨.gDBusError, 0, []⟩)) []).d
    let authorization : TemporaryAuthorization := ⟨.ofUtf16 [0x31], .null, ⟨none⟩, 0, 0⟩
    (authorization.revoke d).request = none ∧
      ¬ (((BoolCall.revoke authorization).run d (.ok true)).value = true ↔
        (BoolCall.revoke authorization).Succeeded d (.ok true)) := by
  intro d authorization
  refine ⟨rfl, fun h => ?_⟩
  obtain ⟨hlatch, -⟩ := (succeeded_revoke_iff authorization d (.ok true)).1 (h.1 rfl)
  exact absurd hlatch (by decide)

end Authority

end PolkitQt
