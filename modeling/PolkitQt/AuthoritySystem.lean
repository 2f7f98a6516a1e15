/-
**The authority at run time: any interleaving of calls, replies and cancels.**

`PolkitQt/Authority.lean` has the methods and the callbacks one by one.  This module puts them on
a common clock.  The client calls public methods; polkit ends the requests in flight one at a
time, in any order, with any reply; every call and every reply is an `Event`.  What an outsider
could record of a run — the calls polkit receives, its replies, the values returned and the
signals emitted — is its trace of `Obs`.

A reply to a synchronous call is part of the event.  A request started with a cancelled
`GCancellable` can only end with a cancellation error; a request in flight when its cancellable is
cancelled may still end in any way, since the answer may already be on its way.

Main definitions:

* `Kind.convert`, `Kind.failCode`, `Kind.callbackCode`, `Operation.request`,
  `Operation.badArgument` — the table of values in which the operations differ;
* `PolkitQt.Authority.System`, `Event`, `Obs`;
* `PolkitQt.Authority.step`, `PolkitQt.Authority.out` — one event.

Main results:

* `Operation.sync_eq`, `Operation.start_eq`, `finish_eq` — every method is its pattern at its row
  of the table;
* `PolkitQt.Authority.step_effect` — but for cancels and `clearError`, all an event does to the
  private data is latch an error;
* `PolkitQt.Authority.reaction` — **what an event does** to the requests in flight and to the
  trace is one of seven things.
-/

import PolkitQt.Authority
import PolkitQt.Runs

set_option relaxedAutoImplicit false
set_option autoImplicit false

namespace PolkitQt

/-! ### The table of operations -/

namespace Kind

open Authority

/-- How the answer to a request of kind `k` becomes a value. -/
def convert : (k : Kind) → k.Payload → Except ErrorCode k.Value
  | checkAuthorization => convertResult
  | enumerateActions => fun glist => .ok (actionsToListAndFree glist)
  | enumerateTemporaryAuthorizations => fun glist =>
      .ok (glist.map TemporaryAuthorization.ofPolkit)
  | registerAuthenticationAgent | unregisterAuthenticationAgent | authenticationAgentResponse
  | revokeTemporaryAuthorizations | revokeTemporaryAuthorization => .ok

/-- What a synchronous method of kind `k` returns when it has nothing to report. -/
def fallback : (k : Kind) → k.Value
  | checkAuthorization => .unknown
  | enumerateActions | enumerateTemporaryAuthorizations => []
  | registerAuthenticationAgent | unregisterAuthenticationAgent | authenticationAgentResponse
  | revokeTemporaryAuthorizations | revokeTemporaryAuthorization => false

/-- The error code a synchronous method of kind `k` latches when polkit reports an error. -/
def failCode : Kind → ErrorCode
  | checkAuthorization => .checkFailed
  | enumerateActions => .enumFailed
  | registerAuthenticationAgent => .registerFailed
  | unregisterAuthenticationAgent => .unregisterFailed
  | authenticationAgentResponse => .agentResponseFailed
  | enumerateTemporaryAuthorizations => .enumFailed
  | revokeTemporaryAuthorizations => .revokeFailed
  | revokeTemporaryAuthorization => .revokeFailed

/-- The error code the callback of kind `k` latches.  It is that of the synchronous method except
for registrations. -/
def callbackCode : Kind → ErrorCode
  | registerAuthenticationAgent => .enumFailed
  | k => k.failCode

/-- What a synchronous method of kind `k` makes of polkit's reply: a value to return, or an error
to latch, with its details. -/
def outcome (k : Kind) (reply : Reply k) : Except (ErrorCode × QString) k.Value :=
  match reply with
  | .error error => .error (k.failCode, QString.fromUtf8 error.message)
  | .ok a =>
      match k.convert a with
      | .error code => .error (code, .null)
      | .ok v => .ok v

/-- Only the answer to a check can fail to convert, and then in one way. -/
theorem convert_eq_error {k : Kind} {a : k.Payload} {code : ErrorCode}
    (h : k.convert a = .error code) : code = .unknownResult := by
  cases k with
  | checkAuthorization =>
      cases a with
      | none => exact (Except.error.inj h).symm
      | some r => simp [convert, convertResult] at h
  | _ => simp [convert] at h

/-- A check succeeds exactly on the replies that carry a result. -/
theorem outcome_check_eq_ok {reply : Reply checkAuthorization} {v : Result} :
    outcome checkAuthorization reply = .ok v ↔
      ∃ r, reply = .ok (some r) ∧ polkitResultToResult r = v := by
  match reply with
  | .error e => simp [outcome]
  | .ok none => simp [outcome, convert, convertResult]
  | .ok (some r) => simp [outcome, convert, convertResult]

/-- A check that fails carries none. -/
theorem outcome_check_eq_error {reply : Reply checkAuthorization} {x : ErrorCode × QString}
    (h : outcome checkAuthorization reply = .error x) :
    (∃ e, reply = .error e) ∨ reply = .ok none := by
  match reply with
  | .error e => exact Or.inl ⟨e, rfl⟩
  | .ok none => exact Or.inr rfl
  | .ok (some r) => simp [outcome, convert, convertResult] at h

end Kind

namespace Authority

namespace Operation

/-- The call the operation stands for. -/
def request (authority : Option PolkitAuthority) : Operation → Request
  | checkAuthorization actionId subject flags details =>
      .checkAuthorization authority subject.subject (cString actionId.toLatin1)
        (convertDetailsMap details) flags
  | enumerateActions => .enumerateActions authority
  | registerAuthenticationAgent subject locale objectPath =>
      .registerAuthenticationAgent authority subject.subject (cString locale.toLatin1)
        (cString objectPath.toLatin1)
  | unregisterAuthenticationAgent subject objectPath =>
      .unregisterAuthenticationAgent authority subject.subject (cString objectPath.toUtf8)
  | authenticationAgentResponse cookie identity =>
      .authenticationAgentResponse authority (cString cookie.toUtf8) identity.identity
  | revokeTemporaryAuthorizations subject =>
      .revokeTemporaryAuthorizations authority subject.subject
  | revokeTemporaryAuthorization id =>
      .revokeTemporaryAuthorizationById authority (cString id.toUtf8)

/-- An argument the methods of this kind turn down. -/
def badArgument : Operation → Bool
  | checkAuthorization _ subject .. => !subject.isValid
  | registerAuthenticationAgent subject .. => !subject.isValid
  | unregisterAuthenticationAgent subject _ => !subject.isValid
  | authenticationAgentResponse cookie identity => cookie.isEmpty || !identity.isValid
  | enumerateActions | revokeTemporaryAuthorizations _ | revokeTemporaryAuthorization _ => false

/-- The error latched when an argument is turned down. -/
def badCode : Operation → ErrorCode
  | authenticationAgentResponse .. => .cookieOrIdentityEmpty
  | checkAuthorization .. | registerAuthenticationAgent .. | unregisterAuthenticationAgent .. =>
      .wrongSubject
  | enumerateActions | revokeTemporaryAuthorizations _ | revokeTemporaryAuthorization _ => .none

/-- What the synchronous method returns with before it reaches polkit, if it does.  The guard of the
unregistration is its own. -/
def syncRefusal (d : Private) : Operation → Option Private
  | unregisterAuthenticationAgent subject _ =>
      if d.pkAuthority.isSome then some d
      else if !subject.isValid then some (d.setError .wrongSubject .null)
      else none
  | op => d.refuse op.badArgument op.badCode

/-- Every synchronous method but one opens with the same guard as its asynchronous twin. -/
theorem syncRefusal_eq {op : Operation} (h : op.kind ≠ .unregisterAuthenticationAgent)
    (d : Private) : op.syncRefusal d = d.refuse op.badArgument op.badCode := by
  cases op with
  | unregisterAuthenticationAgent subject path => exact absurd rfl h
  | _ => rfl

/-- With an authority the synchronous unregistration returns at once. -/
theorem syncRefusal_unregister_of_authority {d : Private} (h : d.pkAuthority.isSome = true)
    (subject : Subject) (path : QString) :
    (unregisterAuthenticationAgent subject path).syncRefusal d = some d := if_pos h

/-- Without one it goes out if the subject is valid, and latches an error if it is not. -/
theorem syncRefusal_unregister_of_none {d : Private} (h : d.pkAuthority.isSome = false)
    (subject : Subject) (path : QString) :
    (unregisterAuthenticationAgent subject path).syncRefusal d =
      if subject.isValid then none else some (d.setError .wrongSubject .null) := by
  show (if d.pkAuthority.isSome then some d else if !subject.isValid then _ else none) = _
  rw [h, if_neg Bool.false_ne_true]
  cases subject.isValid <;> rfl

/-- Every synchronous method is its pattern at its row of the table. -/
theorem sync_eq (d : Private) (op : Operation) (reply : Reply op.kind) :
    op.sync d reply = syncCall (op.syncRefusal d) op.kind.fallback (op.request d.pkAuthority)
      reply op.kind.failCode op.kind.convert d := by
  cases op <;> rfl

/-- Every asynchronous method is its pattern at its row of the table. -/
theorem start_eq (d : Private) (op : Operation) :
    op.start d = asyncCall (d.refuse op.badArgument op.badCode) (op.request d.pkAuthority) d := by
  cases op <;> rfl

/-- A synchronous method that was not refused does what the outcome of the reply says. -/
theorem sync_of_asked {d : Private} {op : Operation} (h : op.syncRefusal d = none)
    (reply : Reply op.kind) :
    op.sync d reply =
      match op.kind.outcome reply with
      | .ok v => ⟨v, d, some (op.request d.pkAuthority)⟩
      | .error x => ⟨op.kind.fallback, d.setError x.1 x.2, some (op.request d.pkAuthority)⟩ := by
  rw [sync_eq, h]
  cases reply with
  | error e => rfl
  | ok a =>
      simp only [syncCall, Kind.outcome]
      cases op.kind.convert a <;> rfl

/-- A synchronous method that was refused sends nothing and returns the fallback. -/
theorem sync_of_refused {d d' : Private} {op : Operation} (h : op.syncRefusal d = some d')
    (reply : Reply op.kind) : op.sync d reply = ⟨op.kind.fallback, d', none⟩ := by
  rw [sync_eq, h]
  rfl

@[simp] theorem request_kind (a : Option PolkitAuthority) (op : Operation) :
    (op.request a).kind = op.kind := by
  cases op <;> rfl

@[simp] theorem request_authority (a : Option PolkitAuthority) (op : Operation) :
    (op.request a).authority = a := by
  cases op <;> rfl

end Operation

/-- The method without a guard does what the outcome of the reply says. -/
theorem enumerate_eq (d : Private) (subject : Subject)
    (reply : Reply .enumerateTemporaryAuthorizations) :
    enumerateTemporaryAuthorizationsSync d subject reply =
      match Kind.enumerateTemporaryAuthorizations.outcome reply with
      | .ok v => ⟨v, d, some (.enumerateTemporaryAuthorizations d.pkAuthority subject.subject)⟩
      | .error x => ⟨[], d.setError x.1 x.2,
          some (.enumerateTemporaryAuthorizations d.pkAuthority subject.subject)⟩ := by
  cases reply <;> rfl

/-- Every callback is its pattern at its row of the table. -/
theorem finish_eq (d : Private) (k : Kind) (reply : Reply k) :
    finish d k reply = callback reply k.callbackCode k.convert d := by
  cases k <;> rfl

/-- The callback emits its signal exactly when the reply has an outcome, and then with it. -/
theorem finish_signal (d : Private) (k : Kind) (reply : Reply k) :
    (finish d k reply).signal =
      match k.outcome reply with
      | .ok v => some v
      | .error _ => none := by
  rw [finish_eq]
  cases reply with
  | error e => rfl
  | ok a =>
      simp only [callback, Kind.outcome]
      cases k.convert a <;> rfl

/-- The callback of every kind but the registration latches the code of its synchronous twin. -/
theorem Kind.failCode_eq_callbackCode_iff (k : Kind) :
    k.failCode = k.callbackCode ↔ k ≠ .registerAuthenticationAgent := by
  cases k <;> decide

/-- What the callback makes of an answer without an error. -/
theorem finish_ok (d : Private) (k : Kind) (a : k.Payload) :
    finish d k (.ok a) =
      match k.convert a with
      | .ok v => ⟨d, some v⟩
      | .error code => ⟨d.setError code .null, none⟩ := by
  rw [finish_eq]
  simp only [callback]
  cases k.convert a <;> rfl

theorem finish_error (d : Private) (k : Kind) (error : GError) :
    finish d k (.error error) =
      ⟨if error.code ≠ 1 then d.setError k.callbackCode (QString.fromUtf8 error.message) else d,
        none⟩ := by
  rw [finish_eq]
  rfl

/-! ### Events and observations -/

/-- A request polkit has accepted and not ended yet.  `cancelled` is what its `GCancellable` said
when it was started. -/
structure Pending where
  id : Nat
  kind : Kind
  cancelled : Bool
  deriving DecidableEq, Repr

/-- The authority together with the requests in flight; `next` numbers the requests. -/
structure System where
  d : Private
  inFlight : List Pending
  next : Nat

/-- What can happen to the authority. -/
inductive Event
  | sync (op : Operation) (reply : Reply op.kind)
  | enumerateTemporaryAuthorizationsSync (subject : Subject)
      (reply : Reply .enumerateTemporaryAuthorizations)
  | start (op : Operation)
  | cancel (k : Kind)
  | clearError
  | complete (id : Nat) (k : Kind) (reply : Reply k)

/-- What an outsider records: a request handed to polkit, with the cancellable it was given (none
for a synchronous call) and whether an error was latched at that moment; polkit's reply to a
request; a `Finished` signal; the return of a synchronous method, with `hasError()` then. -/
inductive Obs
  | sent (id : Nat) (cancellable : Option GCancellable) (request : Request) (latched : Bool)
  | answered (id : Nat) (async : Bool) (k : Kind) (reply : Reply k)
  | finished (k : Kind) (value : k.Value)
  | returned (k : Kind) (value : k.Value) (hasError : Bool)

/-- A system whose authority is in the state `d`, nothing being in flight. -/
def System.start (d : Private) : System := ⟨d, [], 0⟩

/-- A synchronous call that ended with `o`, polkit having answered `reply` if it was asked. -/
def System.sync (s : System) (k : Kind) (o : SyncOut k.Value) (reply : Reply k) :
    System × List Obs :=
  match o.request with
  | none => ({ s with d := o.priv }, [.returned k o.value o.priv.hasError])
  | some request =>
      ({ s with d := o.priv, next := s.next + 1 },
        [.sent s.next none request s.d.hasError, .answered s.next false k reply,
          .returned k o.value o.priv.hasError])

/-- An asynchronous call of kind `k` that ended with `o`. -/
def System.async (s : System) (k : Kind) (o : AsyncOut) : System × List Obs :=
  match o.request with
  | none => ({ s with d := o.priv }, [])
  | some request =>
      let cancellable := s.d.mCancellable k
      ({ d := o.priv, inFlight := ⟨s.next, k, cancellable.isCancelled⟩ :: s.inFlight,
         next := s.next + 1 },
        [.sent s.next (some cancellable) request s.d.hasError])

/-- The request in flight that a reply to request `id` of kind `k` would end.  One that was
started with a cancelled cancellable ends with a cancellation error only. -/
def System.ends (s : System) (id : Nat) (k : Kind) (reply : Reply k) : Option Pending :=
  s.inFlight.find? fun p =>
    p.id == id && p.kind == k && (!p.cancelled || reply.isCancellation)

/-- A reply arrives: the request leaves the list and its callback runs. -/
def System.complete (s : System) (id : Nat) (k : Kind) (reply : Reply k) : System × List Obs :=
  match s.ends id k reply with
  | none => (s, [])
  | some p =>
      let o := finish s.d k reply
      ({ s with d := o.priv, inFlight := s.inFlight.erase p },
        .answered id true k reply :: (o.signal.map (Obs.finished k)).toList)

/-- One event: the state after it and what is observed of it. -/
def react (s : System) : Event → System × List Obs
  | .sync op reply => s.sync op.kind (op.sync s.d reply) reply
  | .enumerateTemporaryAuthorizationsSync subject reply =>
      s.sync .enumerateTemporaryAuthorizations
        (enumerateTemporaryAuthorizationsSync s.d subject reply) reply
  | .start op => s.async op.kind (op.start s.d)
  | .cancel k => ({ s with d := Authority.cancel k s.d }, [])
  | .clearError => ({ s with d := s.d.clearError }, [])
  | .complete id k reply => s.complete id k reply

def step (s : System) (e : Event) : System := (react s e).1

def out (s : System) (e : Event) : List Obs := (react s e).2

/-- The state and the observations of a run from a freshly constructed authority. -/
abbrev runFrom (d : Private) (es : List Event) : System := Runs.run step (System.start d) es

abbrev traceFrom (d : Private) (es : List Event) : List Obs :=
  Runs.trace step out (System.start d) es

/-- An authority that was constructed without trouble. -/
def freshAuthority : Private := Private.construct .none (some 1) (.ok none)

/-! ### What each event is -/

section React

variable {s : System} {op : Operation} {d' : Private}

/-- A synchronous method that is refused returns at once. -/
theorem react_sync_of_refused (h : op.syncRefusal s.d = some d') (reply : Reply op.kind) :
    react s (.sync op reply) =
      ({ s with d := d' }, [.returned op.kind op.kind.fallback d'.hasError]) := by
  rw [react, Operation.sync_of_refused h]
  rfl

/-- One that is not asks polkit and waits. -/
theorem react_sync_of_asked (h : op.syncRefusal s.d = none) (reply : Reply op.kind) :
    react s (.sync op reply) =
      ({ s with d := (op.sync s.d reply).priv, next := s.next + 1 },
        [.sent s.next none (op.request s.d.pkAuthority) s.d.hasError,
          .answered s.next false op.kind reply,
          .returned op.kind (op.sync s.d reply).value (op.sync s.d reply).priv.hasError]) := by
  rw [react, Operation.sync_of_asked h]
  cases op.kind.outcome reply <;> rfl

/-- So does the method without a guard. -/
theorem react_enumerate (s : System) (subject : Subject)
    (reply : Reply .enumerateTemporaryAuthorizations) :
    let o := enumerateTemporaryAuthorizationsSync s.d subject reply
    react s (.enumerateTemporaryAuthorizationsSync subject reply) =
      ({ s with d := o.priv, next := s.next + 1 },
        [.sent s.next none (.enumerateTemporaryAuthorizations s.d.pkAuthority subject.subject)
            s.d.hasError,
          .answered s.next false .enumerateTemporaryAuthorizations reply,
          .returned .enumerateTemporaryAuthorizations o.value o.priv.hasError]) := by
  cases reply <;> rfl

/-- An asynchronous method that is refused leaves nothing behind but an error. -/
theorem react_start_of_refused (h : s.d.refuse op.badArgument op.badCode = some d') :
    react s (.start op) = ({ s with d := d' }, []) := by
  rw [react, Operation.start_eq, h]
  rfl

/-- One that is not puts its request in flight, with the cancellable of its kind. -/
theorem react_start_of_asked (h : s.d.refuse op.badArgument op.badCode = none) :
    react s (.start op) =
      ({ s with
          inFlight := ⟨s.next, op.kind, (s.d.mCancellable op.kind).isCancelled⟩ :: s.inFlight
          next := s.next + 1 },
        [.sent s.next (some (s.d.mCancellable op.kind)) (op.request s.d.pkAuthority)
          s.d.hasError]) := by
  rw [react, Operation.start_eq, h]
  rfl

variable {id : Nat} {k : Kind} {reply : Reply k}

/-- A reply to a request that is not in flight is dropped. -/
theorem react_complete_of_none (h : s.ends id k reply = none) :
    react s (.complete id k reply) = (s, []) := by
  rw [react, System.complete, h]

/-- A reply to one that is ends it and runs its callback. -/
theorem react_complete_of_some {p : Pending} (h : s.ends id k reply = some p) :
    react s (.complete id k reply) =
      ({ s with d := (finish s.d k reply).priv, inFlight := s.inFlight.erase p },
        .answered id true k reply :: ((finish s.d k reply).signal.map (Obs.finished k)).toList) := by
  rw [react, System.complete, h]

end React

/-! ### The guard -/

namespace Private

/-- The guard lets a method through exactly when nothing is latched and the argument is usable. -/
theorem refuse_eq_none {d : Private} {bad : Bool} {code : ErrorCode} :
    d.refuse bad code = none ↔ d.hasError = false ∧ bad = false := by
  rw [refuse]
  cases d.hasError <;> cases bad <;> simp

theorem refuse_of_hasError {d : Private} (h : d.hasError = true) (bad : Bool) (code : ErrorCode) :
    d.refuse bad code = some d := by
  simp [refuse, h]

theorem refuse_of_bad {d : Private} (h : d.hasError = false) (code : ErrorCode) :
    d.refuse true code = some (d.setError code .null) := by
  simp [refuse, h]

/-- The guard turns a method away because an error is latched, or because of its argument. -/
theorem refuse_eq_some {d d' : Private} {bad : Bool} {code : ErrorCode}
    (h : d.refuse bad code = some d') :
    (d.hasError = true ∧ d' = d) ∨ (bad = true ∧ d' = d.setError code .null) := by
  rw [refuse] at h
  split at h
  · next hd => exact Or.inl ⟨hd, (Option.some.inj h).symm⟩
  · split at h
    · next hbad => exact Or.inr ⟨hbad, (Option.some.inj h).symm⟩
    · simp at h

/-- A method turned away by the guard leaves an error latched. -/
theorem hasError_of_refuse {d d' : Private} {bad : Bool} {code : ErrorCode}
    (h : d.refuse bad code = some d') : d'.hasError = true := by
  rcases refuse_eq_some h with ⟨hd, rfl⟩ | ⟨-, rfl⟩
  · exact hd
  · rfl

end Private

/-- What a synchronous check does: it returns polkit's answer and touches nothing, or it returns
`Unknown` and leaves an error latched. -/
theorem checkAuthorizationSync_spec (d : Private) (actionId : QString) (subject : Subject)
    (flags : Int) (reply : Reply .checkAuthorization) :
    let o := checkAuthorizationSync d actionId subject flags reply
    (o.priv = d ∧ d.hasError = false ∧
        o.request = some (.checkAuthorization d.pkAuthority subject.subject
          (cString actionId.toLatin1) none flags) ∧
        ∃ r, reply = .ok (some r) ∧ polkitResultToResult r = o.value) ∨
      (o.priv.hasError = true ∧ o.value = .unknown) := by
  simp only [checkAuthorizationSync, checkAuthorizationSyncWithDetails]
  cases href : d.refuse (!subject.isValid) .wrongSubject with
  | some d' => exact Or.inr ⟨Private.hasError_of_refuse href, rfl⟩
  | none =>
      have herr := (Private.refuse_eq_none.1 href).1
      match reply with
      | .error e => exact Or.inr ⟨rfl, rfl⟩
      | .ok none => exact Or.inr ⟨rfl, rfl⟩
      | .ok (some r) => exact Or.inl ⟨rfl, herr, rfl, r, rfl, rfl⟩

/-- With nothing latched and a valid subject, polkit's answer is what is returned. -/
theorem checkAuthorizationSync_answered {d : Private} (herr : d.hasError = false)
    (actionId : QString) (subject : Subject) (hsubject : subject.isValid = true) (flags : Int)
    (r : PolkitAuthorizationResult) :
    (checkAuthorizationSync d actionId subject flags (.ok (some r))).value =
        polkitResultToResult r ∧
      (checkAuthorizationSync d actionId subject flags (.ok (some r))).priv = d := by
  have hguard : d.refuse (!subject.isValid) .wrongSubject = none :=
    Private.refuse_eq_none.2 ⟨herr, by rw [hsubject]; rfl⟩
  rw [checkAuthorizationSync, checkAuthorizationSyncWithDetails, hguard]
  exact ⟨rfl, rfl⟩

/-! ### What an event does to the private data -/

/-- An error a method or a callback may latch: it has a code, and a wrong subject comes without
details. -/
structure Reportable (code : ErrorCode) (details : QString) : Prop where
  code_ne_none : code ≠ .none
  details_of_wrongSubject : code = .wrongSubject → details = .null

/-- What a method or a callback does to the private data: nothing, or it latches an error. -/
inductive Effect (d : Private) : Private → Prop
  | keep : Effect d d
  | set (code : ErrorCode) (details : QString) (h : Reportable code details) :
      Effect d (d.setError code details)

namespace Effect

theorem mCancellable {d d' : Private} (h : Effect d d') : d'.mCancellable = d.mCancellable := by
  cases h <;> rfl

theorem refuse {d d' : Private} {bad : Bool} {code : ErrorCode}
    (hcode : bad = true → Reportable code .null) (h : d.refuse bad code = some d') :
    Effect d d' := by
  rcases Private.refuse_eq_some h with ⟨-, rfl⟩ | ⟨hbad, rfl⟩
  · exact keep
  · exact set code .null (hcode hbad)

/-- The error latched for an unusable argument can be reported. -/
theorem reportable_badCode {op : Operation} (h : op.badArgument = true) :
    Reportable op.badCode .null := by
  refine ⟨?_, fun _ => rfl⟩
  cases op <;> simp [Operation.badArgument, Operation.badCode] at h ⊢

theorem startRefusal {d d' : Private} {op : Operation}
    (h : d.refuse op.badArgument op.badCode = some d') : Effect d d' :=
  refuse reportable_badCode h

theorem syncRefusal {d d' : Private} {op : Operation} (h : op.syncRefusal d = some d') :
    Effect d d' := by
  cases op with
  | unregisterAuthenticationAgent subject path =>
      cases hauth : d.pkAuthority.isSome with
      | true =>
          rw [Operation.syncRefusal_unregister_of_authority hauth] at h
          exact Option.some.inj h ▸ keep
      | false =>
          rw [Operation.syncRefusal_unregister_of_none hauth] at h
          split at h
          · simp at h
          · exact Option.some.inj h ▸ set .wrongSubject .null ⟨by decide, fun _ => rfl⟩
  | _ => exact refuse reportable_badCode h

/-- An outcome that is an error can be reported. -/
theorem reportable_of_outcome {k : Kind} {reply : Reply k} {x : ErrorCode × QString}
    (h : k.outcome reply = .error x) : Reportable x.1 x.2 := by
  cases reply with
  | error e =>
      obtain rfl := Except.error.inj h
      have hnone : k.failCode ≠ .none := by cases k <;> decide
      have hwrong : k.failCode ≠ .wrongSubject := by cases k <;> decide
      exact ⟨hnone, fun hcode => absurd hcode hwrong⟩
  | ok a =>
      simp only [Kind.outcome] at h
      split at h
      · next hcode =>
          obtain rfl := Except.error.inj h
          obtain rfl := Kind.convert_eq_error hcode
          exact ⟨by decide, fun _ => rfl⟩
      · simp at h

theorem sync (d : Private) (op : Operation) (reply : Reply op.kind) :
    Effect d (op.sync d reply).priv := by
  cases href : op.syncRefusal d with
  | some d' =>
      rw [Operation.sync_of_refused href]
      exact syncRefusal href
  | none =>
      rw [Operation.sync_of_asked href]
      cases hx : op.kind.outcome reply with
      | ok v => exact keep
      | error x => exact set x.1 x.2 (reportable_of_outcome hx)

theorem enumerate (d : Private) (subject : Subject)
    (reply : Reply .enumerateTemporaryAuthorizations) :
    Effect d (enumerateTemporaryAuthorizationsSync d subject reply).priv := by
  rw [enumerate_eq]
  cases hx : Kind.enumerateTemporaryAuthorizations.outcome reply with
  | ok v => exact keep
  | error x => exact set x.1 x.2 (reportable_of_outcome hx)

theorem start (d : Private) (op : Operation) : Effect d (op.start d).priv := by
  rw [Operation.start_eq]
  cases href : d.refuse op.badArgument op.badCode with
  | some d' => exact startRefusal href
  | none => exact keep

theorem finish (d : Private) (k : Kind) (reply : Reply k) :
    Effect d (finish d k reply).priv := by
  rw [finish_eq]
  cases reply with
  | error e =>
      simp only [callback]
      split
      · refine set _ _ ⟨?_, ?_⟩
        · cases k <;> decide
        · cases k <;> simp [Kind.callbackCode, Kind.failCode]
      · exact keep
  | ok a =>
      simp only [callback]
      cases hcode : k.convert a with
      | ok v => exact keep
      | error code =>
          obtain rfl := Kind.convert_eq_error hcode
          exact set _ _ ⟨by decide, fun _ => rfl⟩

end Effect

@[simp] theorem System.sync_d (s : System) (k : Kind) (o : SyncOut k.Value) (reply : Reply k) :
    (s.sync k o reply).1.d = o.priv := by
  rw [System.sync]
  split <;> rfl

@[simp] theorem System.async_d (s : System) (k : Kind) (o : AsyncOut) :
    (s.async k o).1.d = o.priv := by
  rw [System.async]
  split <;> rfl

/-- **The effect of an event**: unless it is a cancel or `clearError`, it does nothing to the
private data but latch an error. -/
theorem step_effect (s : System) {e : Event} (hcancel : ∀ k, e ≠ .cancel k)
    (hclear : e ≠ .clearError) : Effect s.d (step s e).d := by
  cases e with
  | sync op reply =>
      rw [step, react, System.sync_d]
      exact Effect.sync s.d op reply
  | enumerateTemporaryAuthorizationsSync subject reply =>
      rw [step, react, System.sync_d]
      exact Effect.enumerate s.d subject reply
  | start op =>
      rw [step, react, System.async_d]
      exact Effect.start s.d op
  | cancel k => exact absurd rfl (hcancel k)
  | clearError => exact absurd rfl hclear
  | complete id k reply =>
      cases hends : s.ends id k reply with
      | none =>
          rw [step, react_complete_of_none hends]
          exact Effect.keep
      | some p =>
          rw [step, react_complete_of_some hends]
          exact Effect.finish s.d k reply

/-- Only a cancel touches a cancellable. -/
theorem step_mCancellable (s : System) {e : Event} (hcancel : ∀ k, e ≠ .cancel k) :
    (step s e).d.mCancellable = s.d.mCancellable := by
  by_cases hclear : e = .clearError
  · subst hclear
    rfl
  · exact (step_effect s hcancel hclear).mCancellable

/-! ### What an event does -/

/-- A request of kind `k` goes out; if it is a check, nothing is latched and its subject is
there. -/
structure Admitted (s : System) (k : Kind) (request : Request) : Prop where
  kind : request.kind = k
  check : k = .checkAuthorization → s.d.hasError = false ∧ request.objectValid = true

/-- Everything an event can do to the requests in flight and to the trace. -/
inductive Reaction (s : System) : System → List Obs → Prop
  /-- Nothing is observed. -/
  | quiet {s' : System} (hin : s'.inFlight = s.inFlight) (hnext : s'.next = s.next) :
      Reaction s s' []
  /-- A synchronous call returns without asking polkit. -/
  | refused {s' : System} (k : Kind) (hin : s'.inFlight = s.inFlight) (hnext : s'.next = s.next)
      (herr : k = .checkAuthorization → s'.d.hasError = true) :
      Reaction s s' [.returned k k.fallback s'.d.hasError]
  /-- A synchronous call is answered. -/
  | asked {s' : System} (k : Kind) (request : Request) (reply : Reply k) (v : k.Value)
      (hin : s'.inFlight = s.inFlight) (hnext : s'.next = s.next + 1)
      (hreq : Admitted s k request)
      (hv : k.outcome reply = .ok v) (hd : s'.d = s.d) :
      Reaction s s' [.sent s.next none request s.d.hasError, .answered s.next false k reply,
        .returned k v s'.d.hasError]
  /-- A synchronous call fails. -/
  | failed {s' : System} (k : Kind) (request : Request) (reply : Reply k)
      (x : ErrorCode × QString) (hin : s'.inFlight = s.inFlight) (hnext : s'.next = s.next + 1)
      (hreq : Admitted s k request) (hx : k.outcome reply = .error x)
      (hd : s'.d = s.d.setError x.1 x.2) :
      Reaction s s' [.sent s.next none request s.d.hasError, .answered s.next false k reply,
        .returned k k.fallback s'.d.hasError]
  /-- An asynchronous request goes out. -/
  | started {s' : System} (k : Kind) (request : Request) (hreq : Admitted s k request)
      (hlatch : s.d.hasError = false)
      (hin : s'.inFlight = ⟨s.next, k, (s.d.mCancellable k).isCancelled⟩ :: s.inFlight)
      (hnext : s'.next = s.next + 1) :
      Reaction s s' [.sent s.next (some (s.d.mCancellable k)) request s.d.hasError]
  /-- A reply is signalled. -/
  | signalled {s' : System} (p : Pending) (reply : Reply p.kind) (v : p.kind.Value)
      (hp : p ∈ s.inFlight) (hin : s'.inFlight = s.inFlight.erase p) (hnext : s'.next = s.next)
      (hv : p.kind.outcome reply = .ok v) :
      Reaction s s' [.answered p.id true p.kind reply, .finished p.kind v]
  /-- A request ends without a signal. -/
  | ended {s' : System} (p : Pending) (reply : Reply p.kind) (x : ErrorCode × QString)
      (hp : p ∈ s.inFlight) (hin : s'.inFlight = s.inFlight.erase p) (hnext : s'.next = s.next)
      (hx : p.kind.outcome reply = .error x) :
      Reaction s s' [.answered p.id true p.kind reply]

namespace Operation

/-- An operation that gets past a guard on its arguments is admitted. -/
theorem admitted_of_refuse {s : System} {op : Operation}
    (h : s.d.refuse op.badArgument op.badCode = none) :
    Admitted s op.kind (op.request s.d.pkAuthority) := by
  refine ⟨request_kind _ op, fun hk => ?_⟩
  obtain ⟨herr, hbad⟩ := Private.refuse_eq_none.1 h
  cases op with
  | checkAuthorization actionId subject flags details =>
      refine ⟨herr, ?_⟩
      simpa [badArgument, Subject.isValid, request, Request.objectValid] using hbad
  | _ => simp [kind] at hk

/-- So is one that gets past its synchronous guard. -/
theorem admitted_of_syncRefusal {s : System} {op : Operation} (h : op.syncRefusal s.d = none) :
    Admitted s op.kind (op.request s.d.pkAuthority) := by
  cases op with
  | unregisterAuthenticationAgent subject path => exact ⟨rfl, fun hk => by simp [kind] at hk⟩
  | _ => exact admitted_of_refuse h

end Operation

theorem reaction_sync (s : System) (op : Operation) (reply : Reply op.kind) :
    Reaction s (step s (.sync op reply)) (out s (.sync op reply)) := by
  cases href : op.syncRefusal s.d with
  | some d' =>
      rw [step, out, react_sync_of_refused href]
      refine Reaction.refused op.kind rfl rfl fun hk => ?_
      cases op with
      | checkAuthorization => exact Private.hasError_of_refuse href
      | _ => simp [Operation.kind] at hk
  | none =>
      have hreq := Operation.admitted_of_syncRefusal href
      rw [step, out, react_sync_of_asked href, Operation.sync_of_asked href]
      cases hv : op.kind.outcome reply with
      | ok v =>
          exact Reaction.asked op.kind _ reply v rfl rfl hreq hv rfl
      | error x =>
          exact Reaction.failed op.kind _ reply x rfl rfl hreq hv rfl

theorem reaction_enumerate (s : System) (subject : Subject)
    (reply : Reply .enumerateTemporaryAuthorizations) :
    Reaction s (step s (.enumerateTemporaryAuthorizationsSync subject reply))
      (out s (.enumerateTemporaryAuthorizationsSync subject reply)) := by
  have hreq : Admitted s .enumerateTemporaryAuthorizations
      (.enumerateTemporaryAuthorizations s.d.pkAuthority subject.subject) :=
    ⟨rfl, fun hk => by simp at hk⟩
  rw [step, out, react_enumerate, enumerate_eq]
  cases hv : Kind.enumerateTemporaryAuthorizations.outcome reply with
  | ok v => exact Reaction.asked .enumerateTemporaryAuthorizations _ reply v rfl rfl hreq hv rfl
  | error x =>
      exact Reaction.failed .enumerateTemporaryAuthorizations _ reply x rfl rfl hreq hv rfl

theorem reaction_start (s : System) (op : Operation) :
    Reaction s (step s (.start op)) (out s (.start op)) := by
  cases href : s.d.refuse op.badArgument op.badCode with
  | some d' =>
      rw [step, out, react_start_of_refused href]
      exact Reaction.quiet rfl rfl
  | none =>
      have hlatch := (Private.refuse_eq_none.1 href).1
      rw [step, out, react_start_of_asked href]
      exact Reaction.started op.kind _ (Operation.admitted_of_refuse href) hlatch rfl rfl

theorem System.ends_eq_some {s : System} {id : Nat} {k : Kind} {reply : Reply k} {p : Pending}
    (h : s.ends id k reply = some p) : p ∈ s.inFlight ∧ p.id = id ∧ p.kind = k := by
  have hp := List.find?_some h
  simp only [Bool.and_eq_true, beq_iff_eq] at hp
  exact ⟨List.mem_of_find?_eq_some h, hp.1.1, hp.1.2⟩

theorem reaction_complete (s : System) (id : Nat) (k : Kind) (reply : Reply k) :
    Reaction s (step s (.complete id k reply)) (out s (.complete id k reply)) := by
  cases hends : s.ends id k reply with
  | none =>
      rw [step, out, react_complete_of_none hends]
      exact Reaction.quiet rfl rfl
  | some p =>
      obtain ⟨hp, rfl, rfl⟩ := System.ends_eq_some hends
      rw [step, out, react_complete_of_some hends, finish_signal]
      cases hv : p.kind.outcome reply with
      | ok v => exact Reaction.signalled p reply v hp rfl rfl hv
      | error x => exact Reaction.ended p reply x hp rfl rfl hv

/-- **Every event is one of the seven reactions.** -/
theorem reaction (s : System) (e : Event) : Reaction s (step s e) (out s e) := by
  cases e with
  | sync op reply => exact reaction_sync s op reply
  | enumerateTemporaryAuthorizationsSync subject reply => exact reaction_enumerate s subject reply
  | start op => exact reaction_start s op
  | cancel k => exact Reaction.quiet rfl rfl
  | clearError => exact Reaction.quiet rfl rfl
  | complete id k reply => exact reaction_complete s id k reply

/-- What holds after each of the reactions holds after an event. -/
@[elab_as_elim] theorem reaction_elim {motive : System → List Obs → Prop} (s : System) (e : Event)
    (h : ∀ s' obs, Reaction s s' obs → motive s' obs) : motive (step s e) (out s e) :=
  h _ _ (reaction s e)

end Authority

end PolkitQt
