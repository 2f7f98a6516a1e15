/-
**What the guards keep away from polkit.**

Each method of the authority repeats by hand the checks it makes before it calls polkit.  Two
things are meant to follow from them.  While an error is latched nothing goes out and the error
stays as it is ("no action will be allowed in error state"); and what does go out is complete: an
authority that is there, a subject or an identity that is valid.  Neither holds of every method.
Both properties are about single calls, in any state a run can reach, and for both the exact
condition on a call is found: the calls that meet it are those with the guard in place, and the
others name the methods where it is missing.

Main definitions:

* `LatchBlocks`, `LatchGuarded` — a call does what is meant while an error is latched, and the
  condition;
* `SafeCall`, `NullGuarded` — a call hands polkit nothing null, and the condition.

Main results:

* `latchBlocks_iff` — along every run, the latch blocks exactly the calls that are guarded;
* `safeCall_iff` — along every run, the safe calls are exactly those that are guarded.
-/

import PolkitQt.AuthoritySystem

set_option relaxedAutoImplicit false
set_option autoImplicit false

namespace PolkitQt

namespace Authority

open Runs

/-! ### Calls -/

/-- The event is a call of a public method, `clearError` apart. -/
def Event.isCall : Event → Bool
  | .sync .. | .enumerateTemporaryAuthorizationsSync .. | .start _ | .cancel _ => true
  | .clearError | .complete .. => false

/-- The request a call stands for. -/
def Event.request? (s : System) : Event → Option Request
  | .sync op _ => some (op.request s.d.pkAuthority)
  | .start op => some (op.request s.d.pkAuthority)
  | .enumerateTemporaryAuthorizationsSync subject _ =>
      some (.enumerateTemporaryAuthorizations s.d.pkAuthority subject.subject)
  | .cancel _ | .clearError | .complete .. => none

/-- The request an observation reports as sent. -/
def Obs.sent? : Obs → Option Request
  | .sent _ _ request _ => some request
  | _ => none

/-- The requests an event hands to polkit. -/
def sends (s : System) (e : Event) : List Request := (out s e).filterMap Obs.sent?

@[simp] theorem sends_cancel (s : System) (k : Kind) : sends s (.cancel k) = [] := rfl

@[simp] theorem sends_clearError (s : System) : sends s .clearError = [] := rfl

@[simp] theorem sends_complete (s : System) (id : Nat) (k : Kind) (reply : Reply k) :
    sends s (.complete id k reply) = [] := by
  cases hends : s.ends id k reply with
  | none => rw [sends, out, react_complete_of_none hends]; rfl
  | some p =>
      rw [sends, out, react_complete_of_some hends]
      cases (finish s.d k reply).signal <;> rfl

theorem sends_enumerate (s : System) (subject : Subject)
    (reply : Reply .enumerateTemporaryAuthorizations) :
    sends s (.enumerateTemporaryAuthorizationsSync subject reply) =
      [.enumerateTemporaryAuthorizations s.d.pkAuthority subject.subject] := by
  rw [sends, out, react_enumerate]
  rfl

/-- A synchronous method that is refused sends nothing, and leaves what its guard leaves. -/
theorem sync_refused {s : System} {op : Operation} {d' : Private}
    (h : op.syncRefusal s.d = some d') (reply : Reply op.kind) :
    sends s (.sync op reply) = [] ∧ (step s (.sync op reply)).d = d' := by
  rw [sends, out, step, react_sync_of_refused h]
  exact ⟨rfl, rfl⟩

/-- One that is not refused sends its request. -/
theorem sync_admitted {s : System} {op : Operation} (h : op.syncRefusal s.d = none)
    (reply : Reply op.kind) :
    sends s (.sync op reply) = [op.request s.d.pkAuthority] := by
  rw [sends, out, react_sync_of_asked h]
  rfl

theorem start_refused {s : System} {op : Operation} {d' : Private}
    (h : s.d.refuse op.badArgument op.badCode = some d') :
    sends s (.start op) = [] ∧ (step s (.start op)).d = d' := by
  rw [sends, out, step, react_start_of_refused h]
  exact ⟨rfl, rfl⟩

theorem start_admitted {s : System} {op : Operation}
    (h : s.d.refuse op.badArgument op.badCode = none) :
    sends s (.start op) = [op.request s.d.pkAuthority] := by
  rw [sends, out, react_start_of_asked h]
  rfl

/-! ### What is in flight was accepted without an error -/

/-- Every request in flight was handed to polkit while no error was latched. -/
def AcceptedClean (s : System) (past : List Obs) : Prop :=
  ∀ p ∈ s.inFlight, ∃ cancellable request,
    Obs.sent p.id (some cancellable) request false ∈ past ∧ request.kind = p.kind

theorem AcceptedClean.step {s : System} {past : List Obs} (h : AcceptedClean s past) (e : Event) :
    AcceptedClean (step s e) (past ++ out s e) := by
  refine reaction_elim s e fun s' obs hreact => ?_
  -- a request that was there before is still accounted for
  have old : ∀ p ∈ s.inFlight, ∃ cancellable request,
      Obs.sent p.id (some cancellable) request false ∈ past ++ obs ∧ request.kind = p.kind := by
    intro p hp
    obtain ⟨cancellable, request, hmem, hkind⟩ := h p hp
    exact ⟨cancellable, request, List.mem_append_left _ hmem, hkind⟩
  intro p hp
  cases hreact with
  | quiet hin _ => exact old p (hin ▸ hp)
  | refused k hin _ _ => exact old p (hin ▸ hp)
  | asked k request reply v hin _ _ _ _ => exact old p (hin ▸ hp)
  | failed k request reply x hin _ _ _ _ => exact old p (hin ▸ hp)
  | started k request hreq hlatch hin _ =>
      rw [hin] at hp
      rcases List.mem_cons.1 hp with rfl | hp
      · refine ⟨s.d.mCancellable k, request, ?_, hreq.kind⟩
        rw [← hlatch]
        exact List.mem_append_right _ (List.mem_singleton.2 rfl)
      · exact old p hp
  | signalled q reply v _ hin _ _ => exact old p (List.mem_of_mem_erase (hin ▸ hp))
  | ended q reply x _ hin _ _ => exact old p (List.mem_of_mem_erase (hin ▸ hp))

theorem acceptedClean_runFrom (d : Private) (es : List Event) :
    AcceptedClean (runFrom d es) (traceFrom d es) := by
  have hinit : AcceptedClean (System.start d) [] := fun p hp => absurd hp List.not_mem_nil
  exact trace_induction (P := AcceptedClean) (fun s t e h => h.step e) hinit es

/-! ### A wrong subject has no details -/

/-- `WrongSubject` is always latched without details. -/
def WrongSubjectBare (d : Private) : Prop := d.mLastError = .wrongSubject → d.mErrorDetails = .null

theorem WrongSubjectBare.effect {d d' : Private} (h : WrongSubjectBare d) (he : Effect d d') :
    WrongSubjectBare d' := by
  cases he with
  | keep => exact h
  | set code details hrep => exact hrep.details_of_wrongSubject

theorem WrongSubjectBare.step {s : System} (h : WrongSubjectBare s.d) (e : Event) :
    WrongSubjectBare (step s e).d := by
  cases e with
  | cancel k =>
      show WrongSubjectBare (cancel k s.d)
      rw [cancel]
      split
      · exact h
      · exact h
  | clearError => exact fun hcode => absurd hcode (by simp [Authority.step, react, Private.clearError])
  | _ => exact h.effect (step_effect s (by simp) (by simp))

theorem wrongSubjectBare_construct (lastError : ErrorCode) (authority : Option PolkitAuthority)
    (get : Except GError (Option PolkitAuthority)) :
    WrongSubjectBare (Private.construct lastError authority get) := by
  simp only [Private.construct, Private.init]
  split
  · exact fun _ => rfl
  · split
    · exact fun hcode => absurd hcode (by simp [Private.setError])
    · exact fun _ => rfl

theorem wrongSubjectBare_runFrom (lastError : ErrorCode) (authority : Option PolkitAuthority)
    (get : Except GError (Option PolkitAuthority)) (es : List Event) :
    WrongSubjectBare (runFrom (Private.construct lastError authority get) es).d :=
  run_inv (I := fun s : System => WrongSubjectBare s.d) (fun _ e h => h.step e)
    (wrongSubjectBare_construct lastError authority get) es

/-- Latching `WrongSubject` over a latched error shows exactly when that error is another one. -/
theorem errorState_setError_wrongSubject {d : Private} (hd : WrongSubjectBare d)
    (herr : d.hasError = true) :
    (d.setError .wrongSubject .null).errorState = d.errorState ↔ d.lastError = .wrongSubject := by
  constructor
  · intro h
    exact (congrArg ErrorState.lastError h).symm
  · intro h
    have hdetails : d.mErrorDetails = .null := hd h
    have hcode : d.mLastError = .wrongSubject := h
    have hset : d.mHasError = true := herr
    simp [Private.errorState, Private.errorDetails, Private.setError, Private.hasError,
      Private.lastError, hdetails, hcode, hset]

/-! ### The latch -/

/-- What the latch is for.  While an error is latched a call hands nothing to polkit and leaves
the error as it is, and whatever changes the error is `clearError` or the completion of a request
that was accepted while nothing was latched. -/
structure LatchBlocks (past : List Obs) (s : System) (e : Event) : Prop where
  sends : s.d.hasError = true → e.isCall = true → Authority.sends s e = []
  errorState : s.d.hasError = true → e.isCall = true →
    (step s e).d.errorState = s.d.errorState
  changed : s.d.hasError = true → (step s e).d.errorState ≠ s.d.errorState →
    e = .clearError ∨ ∃ id k reply, e = .complete id k reply ∧
      ∃ cancellable request, Obs.sent id (some cancellable) request false ∈ past ∧
        request.kind = k

/-- The calls that respect the latch.  The enumeration of temporary authorizations never looks at
it, and neither does the synchronous unregistration, which does nothing when there is an authority
and otherwise goes on to check the subject. -/
def LatchGuarded (s : System) : Event → Prop
  | .enumerateTemporaryAuthorizationsSync .. => s.d.hasError = false
  | .sync (.unregisterAuthenticationAgent subject _) _ =>
      s.d.hasError = false ∨ s.d.pkAuthority.isSome = true ∨
        (subject.isValid = false ∧ s.d.lastError = .wrongSubject)
  | _ => True

/-- A call whose guard lets nothing past the latch blocks. -/
theorem LatchBlocks.of_refused {past : List Obs} {s : System} {e : Event}
    (hsends : Authority.sends s e = []) (hstate : (step s e).d.errorState = s.d.errorState) :
    LatchBlocks past s e where
  sends _ _ := hsends
  errorState _ _ := hstate
  changed _ hne := absurd hstate hne

theorem LatchBlocks.of_not_hasError {past : List Obs} {s : System} {e : Event}
    (h : s.d.hasError = false) : LatchBlocks past s e where
  sends herr := by simp [h] at herr
  errorState herr := by simp [h] at herr
  changed herr := by simp [h] at herr

/-- A reply may change the error, but then it is the reply to a request that was accepted. -/
theorem LatchBlocks.of_complete {past : List Obs} {s : System} (hclean : AcceptedClean s past)
    (id : Nat) (k : Kind) (reply : Reply k) : LatchBlocks past s (.complete id k reply) := by
  refine ⟨fun _ _ => sends_complete s id k reply, ?_, ?_⟩
  · intro _ hcall
    simp [Event.isCall] at hcall
  · intro _ hne
    refine Or.inr ⟨id, k, reply, rfl, ?_⟩
    cases hends : s.ends id k reply with
    | none =>
        -- nothing of that kind is in flight, so nothing happens
        rw [step, react_complete_of_none hends] at hne
        exact absurd rfl hne
    | some p =>
        obtain ⟨hp, rfl, rfl⟩ := System.ends_eq_some hends
        exact hclean p hp

/-- The synchronous unregistration. -/
theorem latchBlocks_unregister_iff {past : List Obs} {s : System} (hd : WrongSubjectBare s.d)
    (herr : s.d.hasError = true) (subject : Subject) (path : QString)
    (reply : Reply (Operation.unregisterAuthenticationAgent subject path).kind) :
    LatchBlocks past s (.sync (.unregisterAuthenticationAgent subject path) reply) ↔
      s.d.pkAuthority.isSome = true ∨
        (subject.isValid = false ∧ s.d.lastError = .wrongSubject) := by
  cases hauth : s.d.pkAuthority.isSome with
  | true =>
      have hguard := Operation.syncRefusal_unregister_of_authority hauth subject path
      obtain ⟨hsends, hpriv⟩ := sync_refused hguard reply
      exact ⟨fun _ => Or.inl rfl, fun _ => LatchBlocks.of_refused hsends (by rw [hpriv])⟩
  | false =>
      have hguard := Operation.syncRefusal_unregister_of_none hauth subject path
      cases hvalid : subject.isValid with
      | true =>
          -- the request goes out, latch or no latch
          rw [hvalid, if_pos rfl] at hguard
          have hsends := sync_admitted hguard reply
          constructor
          · intro h
            have hnone := h.sends herr rfl
            rw [hsends] at hnone
            exact absurd hnone (List.cons_ne_nil _ _)
          · simp
      | false =>
          -- nothing goes out, but the subject's error replaces the one that was latched
          rw [hvalid, if_neg Bool.false_ne_true] at hguard
          obtain ⟨hsends, hpriv⟩ := sync_refused hguard reply
          have hstate := errorState_setError_wrongSubject hd herr
          rw [← hpriv] at hstate
          constructor
          · intro h
            exact Or.inr ⟨rfl, hstate.1 (h.errorState herr rfl)⟩
          · rintro (h | ⟨-, h⟩)
            · simp at h
            · exact LatchBlocks.of_refused hsends (hstate.2 h)

/-- The synchronous methods. -/
theorem latchBlocks_sync_iff {past : List Obs} {s : System} (hd : WrongSubjectBare s.d)
    (herr : s.d.hasError = true) (op : Operation) (reply : Reply op.kind) :
    LatchBlocks past s (.sync op reply) ↔ LatchGuarded s (.sync op reply) := by
  by_cases hk : op.kind = .unregisterAuthenticationAgent
  · cases op with
    | unregisterAuthenticationAgent subject path =>
        rw [latchBlocks_unregister_iff hd herr]
        simp [LatchGuarded, herr]
    | _ => simp [Operation.kind] at hk
  · -- every other method opens with the guard
    have href : op.syncRefusal s.d = some s.d := by
      rw [Operation.syncRefusal_eq hk, Private.refuse_of_hasError herr]
    obtain ⟨hsends, hpriv⟩ := sync_refused href reply
    have hguard : LatchGuarded s (.sync op reply) := by
      cases op with
      | unregisterAuthenticationAgent subject path => exact absurd rfl hk
      | _ => trivial
    exact ⟨fun _ => hguard, fun _ => LatchBlocks.of_refused hsends (by rw [hpriv])⟩

/-- One event: the latch blocks it exactly when it is guarded. -/
theorem latchBlocks_event_iff {past : List Obs} {s : System} (hd : WrongSubjectBare s.d)
    (hclean : AcceptedClean s past) (e : Event) :
    LatchBlocks past s e ↔ LatchGuarded s e := by
  cases herr : s.d.hasError with
  | false =>
      have hguard : LatchGuarded s e := by
        simp only [LatchGuarded]
        split <;> simp [herr]
      exact ⟨fun _ => hguard, fun _ => LatchBlocks.of_not_hasError herr⟩
  | true =>
      cases e with
      | sync op reply => exact latchBlocks_sync_iff hd herr op reply
      | enumerateTemporaryAuthorizationsSync subject reply =>
          constructor
          · intro h
            have hnone := h.sends herr rfl
            rw [sends_enumerate] at hnone
            exact absurd hnone (List.cons_ne_nil _ _)
          · intro h
            simp [LatchGuarded, herr] at h
      | start op =>
          obtain ⟨hsends, hpriv⟩ := start_refused (Private.refuse_of_hasError herr _ _)
          exact ⟨fun _ => trivial, fun _ => LatchBlocks.of_refused hsends (by rw [hpriv])⟩
      | cancel k =>
          refine ⟨fun _ => trivial, fun _ => LatchBlocks.of_refused rfl ?_⟩
          exact errorState_cancel k s.d
      | clearError =>
          refine ⟨fun _ => trivial, fun _ => ⟨fun _ _ => rfl, ?_, fun _ _ => Or.inl rfl⟩⟩
          intro _ hcall
          simp [Event.isCall] at hcall
      | complete id k reply =>
          exact ⟨fun _ => trivial, fun _ => LatchBlocks.of_complete hclean id k reply⟩

/-- **The latch blocks exactly the guarded calls.**  Along every run of an authority, every event
respects the latch if and only if no latched error meets an enumeration of temporary
authorizations, or a synchronous unregistration that finds no authority (unless it turns down its
subject and that is the error latched already). -/
theorem latchBlocks_iff (lastError : ErrorCode) (authority : Option PolkitAuthority)
    (get : Except GError (Option PolkitAuthority)) (es : List Event) :
    let d := Private.construct lastError authority get
    (∀ pre e post, es = pre ++ e :: post → LatchBlocks (traceFrom d pre) (runFrom d pre) e) ↔
      EachStep step LatchGuarded (System.start d) es := by
  intro d
  have hpoint : ∀ pre e, LatchBlocks (traceFrom d pre) (runFrom d pre) e ↔
      LatchGuarded (runFrom d pre) e := fun pre e =>
    latchBlocks_event_iff (wrongSubjectBare_runFrom lastError authority get pre)
      (acceptedClean_runFrom d pre) e
  constructor
  · intro h pre e post heq
    exact (hpoint pre e).1 (h pre e post heq)
  · intro h pre e post heq
    exact (hpoint pre e).2 (h pre e post heq)

/-- The latch does not block `enumerateTemporaryAuthorizationsSync`: an error is latched by a check
of a subject that is not valid, and then the request goes out all the same. -/
theorem enumerate_past_latch :
    let es : List Event := [.sync (.checkAuthorization .null ⟨none⟩ 0 .empty) (.ok none)]
    (runFrom freshAuthority es).d.hasError = true ∧
      ¬ LatchBlocks (traceFrom freshAuthority es) (runFrom freshAuthority es)
        (.enumerateTemporaryAuthorizationsSync (unixProcessSubject 42) (.ok [])) := by
  refine ⟨rfl, fun h => ?_⟩
  have hnone := h.sends rfl rfl
  rw [sends_enumerate] at hnone
  exact absurd hnone (List.cons_ne_nil _ _)

/-! ### Nothing null -/

/-- What a call may do: the requests it hands to polkit are complete, and if the request it stands
for is not, it hands over nothing and leaves an error latched. -/
structure SafeCall (s : System) (e : Event) : Prop where
  complete : ∀ request ∈ sends s e, request.WellFormed
  refused : ∀ request, e.request? s = some request → ¬ request.WellFormed →
    sends s e = [] ∧ (step s e).d.hasError = true

/-- The operation forwards a null subject past its guard. -/
def Operation.forwardsNull : Operation → Bool
  | revokeTemporaryAuthorizations subject => !subject.isValid
  | _ => false

/-- The calls that hand polkit nothing null.  A call that gets past its guard needs an authority,
and a revocation needs a subject its guard does not check; the enumeration of temporary
authorizations has no guard; the synchronous unregistration goes out only when there is *no*
authority, and turns down its subject without an error when there is one. -/
def NullGuarded (s : System) : Event → Prop
  | .enumerateTemporaryAuthorizationsSync subject _ =>
      s.d.pkAuthority.isSome = true ∧ subject.isValid = true
  | .sync (.unregisterAuthenticationAgent subject _) _ =>
      if s.d.pkAuthority.isSome then subject.isValid = true ∨ s.d.hasError = true
      else subject.isValid = false
  | .sync op _ | .start op =>
      s.d.hasError = true ∨ op.badArgument = true ∨
        (s.d.pkAuthority.isSome = true ∧ op.forwardsNull = false)
  | .cancel _ | .clearError | .complete .. => True

/-- What an operation with a usable argument sends is complete when there is an authority and
nothing null is forwarded. -/
theorem Operation.wellFormed_request_iff {op : Operation} (h : op.badArgument = false)
    (a : Option PolkitAuthority) :
    (op.request a).WellFormed ↔ a.isSome = true ∧ op.forwardsNull = false := by
  rw [Request.WellFormed, Operation.request_authority]
  refine and_congr_right fun _ => ?_
  cases op <;>
    simp_all [Operation.request, Request.objectValid, forwardsNull, badArgument, Subject.isValid,
      Identity.isValid]

/-- A call that is refused with an error latched is safe. -/
theorem SafeCall.of_refused {s : System} {e : Event} (hsends : sends s e = [])
    (herr : (step s e).d.hasError = true) : SafeCall s e where
  complete request hmem := by simp [hsends] at hmem
  refused _ _ _ := ⟨hsends, herr⟩

/-- A call that sends its request is safe exactly when the request is complete. -/
theorem safeCall_iff_of_sends {s : System} {e : Event} {request : Request}
    (hrequest : e.request? s = some request) (hsends : sends s e = [request]) :
    SafeCall s e ↔ request.WellFormed := by
  constructor
  · intro h
    exact h.complete request (by simp [hsends])
  · intro h
    refine ⟨?_, ?_⟩
    · intro r hr
      rw [hsends, List.mem_singleton] at hr
      exact hr ▸ h
    · intro r hr hnot
      rw [hrequest, Option.some.injEq] at hr
      exact absurd (hr ▸ h) hnot

/-- A call that stands for no request and sends none is safe. -/
theorem SafeCall.of_no_request {s : System} {e : Event} (hrequest : e.request? s = none)
    (hsends : sends s e = []) : SafeCall s e where
  complete request hmem := by simp [hsends] at hmem
  refused request hreq := by simp [hrequest] at hreq

/-- A call behind the usual guard. -/
theorem safeCall_guarded_iff {s : System} {op : Operation} {e : Event}
    (hrequest : e.request? s = some (op.request s.d.pkAuthority))
    (hrefused : ∀ d', s.d.refuse op.badArgument op.badCode = some d' →
      sends s e = [] ∧ (step s e).d = d')
    (hadmitted : s.d.refuse op.badArgument op.badCode = none →
      sends s e = [op.request s.d.pkAuthority]) :
    SafeCall s e ↔ s.d.hasError = true ∨ op.badArgument = true ∨
      (s.d.pkAuthority.isSome = true ∧ op.forwardsNull = false) := by
  cases hguard : s.d.refuse op.badArgument op.badCode with
  | some d' =>
      obtain ⟨hsends, hpriv⟩ := hrefused d' hguard
      have herr : (step s e).d.hasError = true := by
        rw [hpriv]
        exact Private.hasError_of_refuse hguard
      constructor
      · intro _
        rcases Private.refuse_eq_some hguard with ⟨h, -⟩ | ⟨h, -⟩
        · exact Or.inl h
        · exact Or.inr (Or.inl h)
      · exact fun _ => SafeCall.of_refused hsends herr
  | none =>
      obtain ⟨herr, hbad⟩ := Private.refuse_eq_none.1 hguard
      rw [safeCall_iff_of_sends hrequest (hadmitted hguard),
        Operation.wellFormed_request_iff hbad]
      simp [herr, hbad]

/-- The synchronous unregistration. -/
theorem safeCall_unregister_iff (s : System) (subject : Subject) (path : QString)
    (reply : Reply (Operation.unregisterAuthenticationAgent subject path).kind) :
    SafeCall s (.sync (.unregisterAuthenticationAgent subject path) reply) ↔
      if s.d.pkAuthority.isSome then subject.isValid = true ∨ s.d.hasError = true
      else subject.isValid = false := by
  have hwf : ∀ a : Option PolkitAuthority,
      ((Operation.unregisterAuthenticationAgent subject path).request a).WellFormed ↔
        a.isSome = true ∧ subject.isValid = true := fun a => Iff.rfl
  cases hauth : s.d.pkAuthority.isSome with
  | true =>
      have hguard := Operation.syncRefusal_unregister_of_authority hauth subject path
      obtain ⟨hsends, hpriv⟩ := sync_refused hguard reply
      rw [if_pos rfl]
      constructor
      · intro h
        by_cases hvalid : subject.isValid = true
        · exact Or.inl hvalid
        · have hnot : ¬ ((Operation.unregisterAuthenticationAgent subject path).request
              s.d.pkAuthority).WellFormed := fun hw => hvalid ((hwf _).1 hw).2
          have herr := (h.refused _ rfl hnot).2
          rw [hpriv] at herr
          exact Or.inr herr
      · intro h
        refine ⟨fun r hr => by simp [hsends] at hr, fun r hr hnot => ⟨hsends, ?_⟩⟩
        obtain rfl := Option.some.inj hr
        rcases h with hvalid | herr
        · exact absurd ((hwf _).2 ⟨hauth, hvalid⟩) hnot
        · rw [hpriv]
          exact herr
  | false =>
      have hguard := Operation.syncRefusal_unregister_of_none hauth subject path
      rw [if_neg Bool.false_ne_true]
      cases hvalid : subject.isValid with
      | true =>
          -- the guard let it through because there is no authority to call
          rw [hvalid, if_pos rfl] at hguard
          have hsends := sync_admitted hguard reply
          rw [safeCall_iff_of_sends rfl hsends, hwf, hauth]
          simp
      | false =>
          rw [hvalid, if_neg Bool.false_ne_true] at hguard
          obtain ⟨hsends, hpriv⟩ := sync_refused hguard reply
          exact ⟨fun _ => rfl, fun _ => SafeCall.of_refused hsends (by rw [hpriv]; rfl)⟩

/-- One event is safe exactly when it is guarded. -/
theorem safeCall_event_iff (s : System) (e : Event) : SafeCall s e ↔ NullGuarded s e := by
  cases e with
  | sync op reply =>
      by_cases hk : op.kind = .unregisterAuthenticationAgent
      · cases op with
        | unregisterAuthenticationAgent subject path =>
            exact safeCall_unregister_iff s subject path reply
        | _ => simp [Operation.kind] at hk
      · have hguard := Operation.syncRefusal_eq hk s.d
        have h := safeCall_guarded_iff (s := s) (e := .sync op reply) rfl
          (fun d' hd' => sync_refused (hguard.trans hd') reply)
          (fun hnone => sync_admitted (hguard.trans hnone) reply)
        rw [h]
        cases op with
        | unregisterAuthenticationAgent subject path => exact absurd rfl hk
        | _ => rfl
  | enumerateTemporaryAuthorizationsSync subject reply =>
      exact safeCall_iff_of_sends rfl (sends_enumerate s subject reply)
  | start op =>
      exact safeCall_guarded_iff rfl (fun d' hd' => start_refused hd') fun hnone =>
        start_admitted hnone
  | cancel k => exact ⟨fun _ => trivial, fun _ => SafeCall.of_no_request rfl rfl⟩
  | clearError => exact ⟨fun _ => trivial, fun _ => SafeCall.of_no_request rfl rfl⟩
  | complete id k reply =>
      exact ⟨fun _ => trivial, fun _ => SafeCall.of_no_request rfl (sends_complete s id k reply)⟩

/-- **The safe calls are the guarded ones.**  Along every run of an authority, from its
constructor on, no call hands polkit anything null, and every call that would have to latches an
error instead, if and only if every call is guarded. -/
theorem safeCall_iff (lastError : ErrorCode) (authority : Option PolkitAuthority)
    (get : Except GError (Option PolkitAuthority)) (es : List Event) :
    EachStep step SafeCall (System.start (Private.construct lastError authority get)) es ↔
      EachStep step NullGuarded (System.start (Private.construct lastError authority get)) es :=
  eachStep_congr safeCall_event_iff _ es

/-- An authority whose constructor got no `PolkitAuthority`. -/
def lostAuthority : Private :=
  Private.construct .none .none (.error ⟨.gDBusError, 0, []⟩)

/-- With no authority the synchronous unregistration calls polkit on a null pointer. -/
theorem unregister_on_null :
    ¬ EachStep step SafeCall (System.start lostAuthority)
      [.sync (.unregisterAuthenticationAgent (unixProcessSubject 42) .null) (.ok true)] := by
  intro h
  have hcall := h [] _ [] rfl
  have hwf := hcall.complete (.unregisterAuthenticationAgent none (unixProcessSubject 42).subject [])
    (List.mem_singleton.2 rfl)
  simp [Request.WellFormed, Request.authority] at hwf

end Authority

end PolkitQt
