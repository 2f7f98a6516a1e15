/-
**Synchronous and asynchronous twins.**

Seven operations of the authority have two bodies, one that waits for polkit and one that hands
over a callback.  A client should be free to choose: the same request goes out, the same error is
left behind, and the value signalled is the one that would have been returned.  The bodies were
written out by hand fourteen times, and they have drifted apart in three places: the guard of the
synchronous unregistration, the error code of a failed registration, and what the callbacks take
for a cancellation.

Main definitions:

* `Operation.async` — the asynchronous method followed by its callback;
* `Agree` — the two bodies do the same, for one state, one operation and one reply;
* `TwinsMatch` — the condition.

Main result:

* `agree_iff` — from every state with an authority, and on every reply that is not a
  cancellation, the two bodies agree exactly under that condition.
-/

import PolkitQt.AuthoritySystem

set_option relaxedAutoImplicit false
set_option autoImplicit false

namespace PolkitQt

namespace Authority

/-! ### The asynchronous body as a whole -/

/-- What an asynchronous call and its callback leave: the request sent, the private data, and the
argument of the `Finished` signal, if it is emitted. -/
structure AsyncRun (β : Type) where
  request : Option Request
  priv : Private
  signal : Option β

/-- The asynchronous method, and then its callback on `reply` if the request was sent. -/
def Operation.async (d : Private) (op : Operation) (reply : Reply op.kind) :
    AsyncRun op.kind.Value :=
  match (op.start d).request with
  | none => ⟨none, (op.start d).priv, none⟩
  | some request =>
      let o := finish (op.start d).priv op.kind reply
      ⟨some request, o.priv, o.signal⟩

theorem Operation.async_of_refused {d d' : Private} {op : Operation}
    (h : d.refuse op.badArgument op.badCode = some d') (reply : Reply op.kind) :
    op.async d reply = ⟨none, d', none⟩ := by
  rw [async, start_eq, h]
  rfl

theorem Operation.async_of_asked {d : Private} {op : Operation}
    (h : d.refuse op.badArgument op.badCode = none) (reply : Reply op.kind) :
    op.async d reply = ⟨some (op.request d.pkAuthority), (finish d op.kind reply).priv,
      (finish d op.kind reply).signal⟩ := by
  rw [async, start_eq, h]
  rfl

/-! ### Agreement -/

/-- The synchronous call and the asynchronous one followed by its callback send the same request
or both none, leave the same error state, and the value signalled, if one is, is the value
returned. -/
structure Agree (d : Private) (op : Operation) (reply : Reply op.kind) : Prop where
  request : (op.sync d reply).request = (op.async d reply).request
  errorState : (op.sync d reply).priv.errorState = (op.async d reply).priv.errorState
  signal : ∀ v, (op.async d reply).signal = some v → v = (op.sync d reply).value

/-- The condition under which the bodies agree: an error is latched already; or the operation is
not the unregistration, and then its argument is turned down or polkit reports no error — or it
reports one whose code is not 1, and the operation is not the registration. -/
def TwinsMatch (d : Private) (op : Operation) (reply : Reply op.kind) : Prop :=
  d.hasError = true ∨
    (op.kind ≠ .unregisterAuthenticationAgent ∧
      (op.badArgument = true ∨
        ∀ error, reply = .error error →
          op.kind ≠ .registerAuthenticationAgent ∧ error.code ≠ 1))

/-- Two bodies that are turned away alike agree. -/
theorem agree_of_refused {d d' : Private} {op : Operation} (hsync : op.syncRefusal d = some d')
    (hstart : d.refuse op.badArgument op.badCode = some d') (reply : Reply op.kind) :
    Agree d op reply := by
  have h₁ := Operation.sync_of_refused hsync reply
  have h₂ := Operation.async_of_refused hstart reply
  refine ⟨by rw [h₁, h₂], by rw [h₁, h₂], ?_⟩
  intro v hv
  rw [h₂] at hv
  simp at hv

/-- While an error is latched, both bodies of an operation do nothing. -/
theorem agree_of_hasError {d : Private} {op : Operation} (herr : d.hasError = true)
    (hauth : d.pkAuthority.isSome = true) (reply : Reply op.kind) : Agree d op reply := by
  have hsync : op.syncRefusal d = some d := by
    cases op with
    | unregisterAuthenticationAgent subject path =>
        exact Operation.syncRefusal_unregister_of_authority hauth subject path
    | _ => exact Private.refuse_of_hasError herr _ _
  exact agree_of_refused hsync (Private.refuse_of_hasError herr _ _) reply

/-- With an authority and nothing latched, the bodies of the unregistration never agree: the
synchronous one returns at once, and the asynchronous one sends its request or latches an
error. -/
theorem not_agree_unregister {d : Private} (herr : d.hasError = false)
    (hauth : d.pkAuthority.isSome = true) (subject : Subject) (path : QString)
    (reply : Reply (Operation.unregisterAuthenticationAgent subject path).kind) :
    ¬ Agree d (.unregisterAuthenticationAgent subject path) reply := by
  intro h
  have hrefuse := Operation.syncRefusal_unregister_of_authority hauth subject path
  have hsync := Operation.sync_of_refused hrefuse reply
  cases hguard : d.refuse (Operation.unregisterAuthenticationAgent subject path).badArgument
      (Operation.unregisterAuthenticationAgent subject path).badCode with
  | some d' =>
      have hstate := h.errorState
      rw [hsync, Operation.async_of_refused hguard] at hstate
      have hlatched : d.hasError = d'.hasError := congrArg ErrorState.hasError hstate
      rw [herr, Private.hasError_of_refuse hguard] at hlatched
      simp at hlatched
  | none =>
      have hrequest := h.request
      rw [hsync, Operation.async_of_asked hguard] at hrequest
      simp at hrequest

/-! ### The same request, the same reply -/

section Asked

variable {d : Private} {op : Operation}

/-- On an answer without an error the bodies agree. -/
theorem agree_of_ok (hsync : op.syncRefusal d = none)
    (hstart : d.refuse op.badArgument op.badCode = none) (a : op.kind.Payload) :
    Agree d op (.ok a) := by
  have h₁ := Operation.sync_of_asked hsync (.ok a)
  have h₂ := Operation.async_of_asked hstart (.ok a)
  rw [finish_ok] at h₂
  cases hconv : op.kind.convert a with
  | ok v =>
      simp only [Kind.outcome, hconv] at h₁ h₂
      refine ⟨by rw [h₁, h₂], by rw [h₁, h₂], ?_⟩
      intro w hw
      rw [h₂] at hw
      rw [h₁]
      exact (Option.some.inj hw).symm
  | error code =>
      simp only [Kind.outcome, hconv] at h₁ h₂
      refine ⟨by rw [h₁, h₂], by rw [h₁, h₂], ?_⟩
      intro w hw
      rw [h₂] at hw
      simp at hw

/-- On an error they agree when the callback does not take it for a cancellation and latches the
code its twin latches. -/
theorem agree_error_iff (herr : d.hasError = false) (hsync : op.syncRefusal d = none)
    (hstart : d.refuse op.badArgument op.badCode = none) (error : GError) :
    Agree d op (.error error) ↔ op.kind ≠ .registerAuthenticationAgent ∧ error.code ≠ 1 := by
  have h₁ := Operation.sync_of_asked hsync (.error error)
  have h₂ := Operation.async_of_asked hstart (.error error)
  rw [finish_error] at h₂
  simp only [Kind.outcome] at h₁
  rw [← Kind.failCode_eq_callbackCode_iff]
  constructor
  · intro h
    have hstate := h.errorState
    rw [h₁, h₂] at hstate
    dsimp only at hstate
    by_cases hcode : error.code = 1
    · -- the callback keeps quiet and the synchronous method does not
      rw [if_neg (not_not.2 hcode)] at hstate
      have hlatched : true = d.hasError := congrArg ErrorState.hasError hstate
      rw [herr] at hlatched
      simp at hlatched
    · rw [if_pos hcode] at hstate
      exact ⟨congrArg ErrorState.lastError hstate, hcode⟩
  · rintro ⟨hfail, hcode⟩
    rw [if_pos hcode, ← hfail] at h₂
    refine ⟨by rw [h₁, h₂], by rw [h₁, h₂], ?_⟩
    intro w hw
    rw [h₂] at hw
    simp at hw

end Asked

/-! ### When the twins agree -/

/-- **The twins agree exactly when `TwinsMatch` says so**, from every state with an authority, for
all arguments and for every reply that is not a cancellation. -/
theorem agree_iff (d : Private) (op : Operation) (reply : Reply op.kind)
    (hauth : d.pkAuthority.isSome = true) (hreply : reply.isCancellation = false) :
    Agree d op reply ↔ TwinsMatch d op reply := by
  cases herr : d.hasError with
  | true => exact ⟨fun _ => Or.inl herr, fun _ => agree_of_hasError herr hauth reply⟩
  | false =>
      by_cases hk : op.kind = .unregisterAuthenticationAgent
      · cases op with
        | unregisterAuthenticationAgent subject path =>
            constructor
            · intro h
              exact absurd h (not_agree_unregister herr hauth subject path reply)
            · rintro (h | ⟨h, -⟩)
              · simp [herr] at h
              · exact absurd rfl h
        | _ => simp [Operation.kind] at hk
      · -- the two bodies open with the same guard
        have hguard := Operation.syncRefusal_eq hk d
        cases hbad : op.badArgument with
        | true =>
            have hstart : d.refuse op.badArgument op.badCode =
                some (d.setError op.badCode .null) := by
              rw [hbad]
              exact Private.refuse_of_bad herr _
            constructor
            · exact fun _ => Or.inr ⟨hk, Or.inl hbad⟩
            · exact fun _ => agree_of_refused (hguard.trans hstart) hstart reply
        | false =>
            have hstart : d.refuse op.badArgument op.badCode = none :=
              Private.refuse_eq_none.2 ⟨herr, hbad⟩
            cases reply with
            | ok a =>
                constructor
                · intro _
                  exact Or.inr ⟨hk, Or.inr fun error herror => by simp at herror⟩
                · exact fun _ => agree_of_ok (hguard.trans hstart) hstart a
            | error error =>
                rw [agree_error_iff herr (hguard.trans hstart) hstart]
                simp [TwinsMatch, herr, hk, hbad]

/-- Enumerating the actions: polkit fails with some other error, and the bodies agree. -/
theorem agree_iff_enumerateActions :
    let error : GError := ⟨.gDBusError, 0, []⟩
    freshAuthority.pkAuthority.isSome = true ∧
      Reply.isCancellation (k := .enumerateActions) (.error error) = false ∧
      (Agree freshAuthority .enumerateActions (.error error) ↔
        TwinsMatch freshAuthority .enumerateActions (.error error)) :=
  ⟨rfl, rfl, agree_iff freshAuthority .enumerateActions (.error ⟨.gDBusError, 0, []⟩) rfl rfl⟩

/-- The bodies of the unregistration part on an authority in good order, and so they do on every
reply. -/
theorem unregister_twins_part :
    freshAuthority.pkAuthority.isSome = true ∧
      ¬ Agree freshAuthority
        (.unregisterAuthenticationAgent (unixProcessSubject 42) (.ofUtf16 [0x2F])) (.ok true) :=
  ⟨rfl, not_agree_unregister rfl rfl _ _ _⟩

end Authority

end PolkitQt
