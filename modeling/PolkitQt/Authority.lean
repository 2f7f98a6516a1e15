/-
**The authority: the error latch and the operations behind it.**

`Authority` is a singleton around a `PolkitAuthority`.  It keeps one *error latch*: a failed
operation sets it, and an operation that finds it set is meant to return at once, until
`clearError` is called.  Most operations exist twice, as a synchronous method that returns polkit's
answer and as an asynchronous one whose answer arrives in a completion callback and leaves as a
signal; all requests of one kind share one `GCancellable`.

The bodies follow one of three patterns — guard, call, convert — so each pattern is one function
with parameters (`syncCall`, `asyncCall`, `callback`) and each method of the source is that
function applied to the method's own guard, request, error code and conversion.  Where a method
departs from its siblings it keeps its own guard.

Main definitions:

* `PolkitQt.Authority.Private` — the private data, and `Private.construct`, what the constructor
  leaves;
* `PolkitQt.Authority.Private.refuse` — the guard most methods open with;
* `checkAuthorizationSyncWithDetails` … `revokeTemporaryAuthorizationSync`, the synchronous
  methods; `checkAuthorizationWithDetails` … `revokeTemporaryAuthorization`, the asynchronous
  ones; `checkAuthorizationCallback` … `revokeTemporaryAuthorizationCallback`, the callbacks;
* `PolkitQt.Authority.Operation` — the seven operations that have both bodies, with
  `Operation.sync` and `Operation.start`, and `finish`, the callback of a kind.
-/

import Mathlib.Logic.Function.Basic
import PolkitQt.Polkit

set_option relaxedAutoImplicit false
set_option autoImplicit false

namespace PolkitQt

namespace Authority

/-! ### The private data -/

/-- `Authority::ErrorCode`. -/
inductive ErrorCode
  | none
  | getAuthority
  | checkFailed
  | wrongSubject
  | unknownResult
  | enumFailed
  | registerFailed
  | unregisterFailed
  | cookieOrIdentityEmpty
  | agentResponseFailed
  | revokeFailed
  deriving DecidableEq, Repr

/-- A `GCancellable`: once cancelled it stays so. -/
structure GCancellable where
  isCancelled : Bool
  deriving DecidableEq, Repr

/-- `g_cancellable_new`. -/
def gCancellableNew : GCancellable := ⟨false⟩

/-- `g_cancellable_cancel`. -/
def gCancellableCancel (_ : GCancellable) : GCancellable := ⟨true⟩

/-- `Authority::Private`.  The eight cancellables are indexed by the kind they belong to; `init`
creates them and no method replaces one, so a request in flight and the member it was started with
always name the same object. -/
structure Private where
  pkAuthority : Option PolkitAuthority
  mHasError : Bool
  mLastError : ErrorCode
  mErrorDetails : QString
  mCancellable : Kind → GCancellable

/-- What the three error accessors show. -/
structure ErrorState where
  hasError : Bool
  lastError : ErrorCode
  errorDetails : QString
  deriving DecidableEq, Repr

namespace Private

def hasError (d : Private) : Bool := d.mHasError

def lastError (d : Private) : ErrorCode := d.mLastError

def errorDetails (d : Private) : QString :=
  if d.mLastError = .none then .null else d.mErrorDetails

def errorState (d : Private) : ErrorState := ⟨d.hasError, d.lastError, d.errorDetails⟩

/-- `setError`.  Every call of the source leaves the parameter `recover` at its default, `false`. -/
def setError (d : Private) (code : ErrorCode) (details : QString) : Private :=
  { d with mLastError := code, mErrorDetails := details, mHasError := true }

/-- `clearError`: the details are left as they are. -/
def clearError (d : Private) : Private := { d with mHasError := false, mLastError := .none }

/-- `Private(qq)`.  The constructor does not set `m_lastError`, so what it holds is a parameter. -/
def new (lastError : ErrorCode) : Private where
  pkAuthority := .none
  mHasError := false
  mLastError := lastError
  mErrorDetails := .null
  mCancellable := fun _ => gCancellableNew

/-- `init`: `reply` is what `polkit_authority_get_sync` gives when it is asked. -/
def init (d : Private) (reply : Except GError (Option PolkitAuthority)) : Private :=
  let d := { d with mCancellable := fun _ => gCancellableNew }
  match d.pkAuthority with
  | some _ => d
  | .none =>
      match reply with
      | .error gerror => d.setError .getAuthority (QString.fromUtf8 gerror.message)
      | .ok authority => { d with pkAuthority := authority }

/-- `Authority(authority)`: what a freshly constructed object holds. -/
def construct (lastError : ErrorCode) (authority : Option PolkitAuthority)
    (reply : Except GError (Option PolkitAuthority)) : Private :=
  { new lastError with pkAuthority := authority }.init reply

/-- The guard most methods open with: nothing is done while an error is latched, and an unusable
argument latches one.  The private data to return with, if the method returns here. -/
def refuse (d : Private) (badArgument : Bool) (code : ErrorCode) : Option Private :=
  if d.hasError then some d
  else if badArgument then some (d.setError code .null)
  else .none

@[simp] theorem hasError_setError (d : Private) (c : ErrorCode) (t : QString) :
    (d.setError c t).hasError = true := rfl

@[simp] theorem lastError_setError (d : Private) (c : ErrorCode) (t : QString) :
    (d.setError c t).lastError = c := rfl

@[simp] theorem mCancellable_setError (d : Private) (c : ErrorCode) (t : QString) :
    (d.setError c t).mCancellable = d.mCancellable := rfl

@[simp] theorem hasError_clearError (d : Private) : d.clearError.hasError = false := rfl

@[simp] theorem mCancellable_clearError (d : Private) :
    d.clearError.mCancellable = d.mCancellable := rfl

end Private

/-! ### The three patterns -/

/-- What a synchronous method leaves: its return value, the private data, and the request it sent,
if it sent one. -/
structure SyncOut (β : Type) where
  value : β
  priv : Private
  request : Option Request

/-- What an asynchronous method leaves. -/
structure AsyncOut where
  priv : Private
  request : Option Request

/-- What a completion callback leaves: the private data, and the argument of the `Finished`
signal, if it is emitted. -/
structure CallbackOut (β : Type) where
  priv : Private
  signal : Option β

section Patterns

variable {α β : Type}

/-- A synchronous method that was not refused: call polkit, latch the error it reports or convert
its answer. -/
def syncCall (refused : Option Private) (fallback : β) (request : Request)
    (reply : Except GError α) (code : ErrorCode) (convert : α → Except ErrorCode β)
    (d : Private) : SyncOut β :=
  match refused with
  | some d' => ⟨fallback, d', none⟩
  | none =>
      match reply with
      | .error error => ⟨fallback, d.setError code (QString.fromUtf8 error.message), some request⟩
      | .ok a =>
          match convert a with
          | .error code' => ⟨fallback, d.setError code' .null, some request⟩
          | .ok b => ⟨b, d, some request⟩

/-- An asynchronous method: call polkit unless refused. -/
def asyncCall (refused : Option Private) (request : Request) (d : Private) : AsyncOut :=
  match refused with
  | some d' => ⟨d', none⟩
  | none => ⟨d, some request⟩

/-- A completion callback: any error but one of code 1 is latched, an answer is converted and
signalled. -/
def callback (reply : Except GError α) (code : ErrorCode) (convert : α → Except ErrorCode β)
    (d : Private) : CallbackOut β :=
  match reply with
  | .error error =>
      ⟨if error.code ≠ 1 then d.setError code (QString.fromUtf8 error.message) else d, none⟩
  | .ok a =>
      match convert a with
      | .error code' => ⟨d.setError code' .null, none⟩
      | .ok b => ⟨d, some b⟩

/-- The conversion of a check: a missing result is an error of its own. -/
def convertResult : Option PolkitAuthorizationResult → Except ErrorCode Result
  | none => .error .unknownResult
  | some pkResult => .ok (polkitResultToResult pkResult)

end Patterns

/-! ### Synchronous methods -/

section Sync

variable (d : Private)

def checkAuthorizationSyncWithDetails (actionId : QString) (subject : Subject) (flags : Int)
    (details : DetailsMap) (reply : Reply .checkAuthorization) : SyncOut Result :=
  syncCall (d.refuse (!subject.isValid) .wrongSubject) .unknown
    (.checkAuthorization d.pkAuthority subject.subject (cString actionId.toLatin1)
      (convertDetailsMap details) flags)
    reply .checkFailed convertResult d

def checkAuthorizationSync (actionId : QString) (subject : Subject) (flags : Int)
    (reply : Reply .checkAuthorization) : SyncOut Result :=
  checkAuthorizationSyncWithDetails d actionId subject flags .empty reply

def enumerateActionsSync (reply : Reply .enumerateActions) : SyncOut (List ActionDescription) :=
  syncCall (d.refuse false .none) [] (.enumerateActions d.pkAuthority) reply .enumFailed
    (fun glist => .ok (actionsToListAndFree glist)) d

def registerAuthenticationAgentSync (subject : Subject) (locale objectPath : QString)
    (reply : Reply .registerAuthenticationAgent) : SyncOut Bool :=
  syncCall (d.refuse (!subject.isValid) .wrongSubject) false
    (.registerAuthenticationAgent d.pkAuthority subject.subject (cString locale.toLatin1)
      (cString objectPath.toLatin1))
    reply .registerFailed .ok d

/-- This method does not open with the guard of its siblings: it returns when there *is* an
authority, and does not look at the error latch. -/
def unregisterAuthenticationAgentSync (subject : Subject) (objectPath : QString)
    (reply : Reply .unregisterAuthenticationAgent) : SyncOut Bool :=
  syncCall
    (if d.pkAuthority.isSome then some d
      else if !subject.isValid then some (d.setError .wrongSubject .null)
      else none)
    false
    (.unregisterAuthenticationAgent d.pkAuthority subject.subject (cString objectPath.toUtf8))
    reply .unregisterFailed .ok d

def authenticationAgentResponseSync (cookie : QString) (identity : Identity)
    (reply : Reply .authenticationAgentResponse) : SyncOut Bool :=
  syncCall (d.refuse (cookie.isEmpty || !identity.isValid) .cookieOrIdentityEmpty) false
    (.authenticationAgentResponse d.pkAuthority (cString cookie.toUtf8) identity.identity)
    reply .agentResponseFailed .ok d

/-- There is no guard at all here. -/
def enumerateTemporaryAuthorizationsSync (subject : Subject)
    (reply : Reply .enumerateTemporaryAuthorizations) : SyncOut (List TemporaryAuthorization) :=
  syncCall none [] (.enumerateTemporaryAuthorizations d.pkAuthority subject.subject) reply
    .enumFailed (fun glist => .ok (glist.map TemporaryAuthorization.ofPolkit)) d

/-- The subject is not checked. -/
def revokeTemporaryAuthorizationsSync (subject : Subject)
    (reply : Reply .revokeTemporaryAuthorizations) : SyncOut Bool :=
  syncCall (d.refuse false .none) false
    (.revokeTemporaryAuthorizations d.pkAuthority subject.subject) reply .revokeFailed .ok d

def revokeTemporaryAuthorizationSync (id : QString)
    (reply : Reply .revokeTemporaryAuthorization) : SyncOut Bool :=
  syncCall (d.refuse false .none) false
    (.revokeTemporaryAuthorizationById d.pkAuthority (cString id.toUtf8)) reply .revokeFailed .ok d

end Sync

/-! ### Asynchronous methods

`enumerateTemporaryAuthorizations` is declared in the header but has no body, so there is none
here; its callback is never handed to polkit. -/

section Async

variable (d : Private)

def checkAuthorizationWithDetails (actionId : QString) (subject : Subject) (flags : Int)
    (details : DetailsMap) : AsyncOut :=
  asyncCall (d.refuse (!subject.isValid) .wrongSubject)
    (.checkAuthorization d.pkAuthority subject.subject (cString actionId.toLatin1)
      (convertDetailsMap details) flags) d

def checkAuthorization (actionId : QString) (subject : Subject) (flags : Int) : AsyncOut :=
  checkAuthorizationWithDetails d actionId subject flags .empty

def enumerateActions : AsyncOut :=
  asyncCall (d.refuse false .none) (.enumerateActions d.pkAuthority) d

def registerAuthenticationAgent (subject : Subject) (locale objectPath : QString) : AsyncOut :=
  asyncCall (d.refuse (!subject.isValid) .wrongSubject)
    (.registerAuthenticationAgent d.pkAuthority subject.subject (cString locale.toLatin1)
      (cString objectPath.toLatin1)) d

def unregisterAuthenticationAgent (subject : Subject) (objectPath : QString) : AsyncOut :=
  asyncCall (d.refuse (!subject.isValid) .wrongSubject)
    (.unregisterAuthenticationAgent d.pkAuthority subject.subject (cString objectPath.toUtf8)) d

def authenticationAgentResponse (cookie : QString) (identity : Identity) : AsyncOut :=
  asyncCall (d.refuse (cookie.isEmpty || !identity.isValid) .cookieOrIdentityEmpty)
    (.authenticationAgentResponse d.pkAuthority (cString cookie.toUtf8) identity.identity) d

def revokeTemporaryAuthorizations (subject : Subject) : AsyncOut :=
  asyncCall (d.refuse false .none)
    (.revokeTemporaryAuthorizations d.pkAuthority subject.subject) d

def revokeTemporaryAuthorization (id : QString) : AsyncOut :=
  asyncCall (d.refuse false .none)
    (.revokeTemporaryAuthorizationById d.pkAuthority (cString id.toUtf8)) d

end Async

/-! ### Completion callbacks -/

section Callbacks

variable (d : Private)

def checkAuthorizationCallback (reply : Reply .checkAuthorization) : CallbackOut Result :=
  callback reply .checkFailed convertResult d

def enumerateActionsCallback (reply : Reply .enumerateActions) :
    CallbackOut (List ActionDescription) :=
  callback reply .enumFailed (fun list => .ok (actionsToListAndFree list)) d

/-- The error code is that of a failed enumeration. -/
def registerAuthenticationAgentCallback (reply : Reply .registerAuthenticationAgent) :
    CallbackOut Bool := callback reply .enumFailed .ok d

def unregisterAuthenticationAgentCallback (reply : Reply .unregisterAuthenticationAgent) :
    CallbackOut Bool := callback reply .unregisterFailed .ok d

def authenticationAgentResponseCallback (reply : Reply .authenticationAgentResponse) :
    CallbackOut Bool := callback reply .agentResponseFailed .ok d

def enumerateTemporaryAuthorizationsCallback (reply : Reply .enumerateTemporaryAuthorizations) :
    CallbackOut (List TemporaryAuthorization) :=
  callback reply .enumFailed (fun glist => .ok (glist.map TemporaryAuthorization.ofPolkit)) d

def revokeTemporaryAuthorizationsCallback (reply : Reply .revokeTemporaryAuthorizations) :
    CallbackOut Bool := callback reply .revokeFailed .ok d

def revokeTemporaryAuthorizationCallback (reply : Reply .revokeTemporaryAuthorization) :
    CallbackOut Bool := callback reply .revokeFailed .ok d

/-- The callback polkit runs when a request of kind `k` ends. -/
def finish : (k : Kind) → Reply k → CallbackOut k.Value
  | .checkAuthorization, reply => checkAuthorizationCallback d reply
  | .enumerateActions, reply => enumerateActionsCallback d reply
  | .registerAuthenticationAgent, reply => registerAuthenticationAgentCallback d reply
  | .unregisterAuthenticationAgent, reply => unregisterAuthenticationAgentCallback d reply
  | .authenticationAgentResponse, reply => authenticationAgentResponseCallback d reply
  | .enumerateTemporaryAuthorizations, reply => enumerateTemporaryAuthorizationsCallback d reply
  | .revokeTemporaryAuthorizations, reply => revokeTemporaryAuthorizationsCallback d reply
  | .revokeTemporaryAuthorization, reply => revokeTemporaryAuthorizationCallback d reply

end Callbacks

/-! ### Cancel methods -/

/-- The body the eight `Cancel` methods share: the member is cancelled unless it already is. -/
def cancel (k : Kind) (d : Private) : Private :=
  if (d.mCancellable k).isCancelled then d
  else
    let cancelled := gCancellableCancel (d.mCancellable k)
    { d with mCancellable := Function.update d.mCancellable k cancelled }

def checkAuthorizationCancel : Private → Private := cancel .checkAuthorization

def enumerateActionsCancel : Private → Private := cancel .enumerateActions

def registerAuthenticationAgentCancel : Private → Private := cancel .registerAuthenticationAgent

def unregisterAuthenticationAgentCancel : Private → Private :=
  cancel .unregisterAuthenticationAgent

def authenticationAgentResponseCancel : Private → Private := cancel .authenticationAgentResponse

def enumerateTemporaryAuthorizationsCancel : Private → Private :=
  cancel .enumerateTemporaryAuthorizations

def revokeTemporaryAuthorizationsCancel : Private → Private :=
  cancel .revokeTemporaryAuthorizations

def revokeTemporaryAuthorizationCancel : Private → Private := cancel .revokeTemporaryAuthorization

@[simp] theorem errorState_cancel (k : Kind) (d : Private) :
    (cancel k d).errorState = d.errorState := by
  rw [cancel]
  split <;> rfl

@[simp] theorem hasError_cancel (k : Kind) (d : Private) :
    (cancel k d).hasError = d.hasError := congrArg ErrorState.hasError (errorState_cancel k d)

/-- A `Cancel` method leaves the cancellable of its kind cancelled and the others as they are. -/
theorem isCancelled_cancel (k j : Kind) (d : Private) :
    ((cancel k d).mCancellable j).isCancelled =
      (decide (j = k) || (d.mCancellable j).isCancelled) := by
  unfold cancel
  by_cases hjk : j = k
  · subst hjk
    split
    · simp_all
    · simp [gCancellableCancel]
  · split <;> simp [hjk]

/-! ### The operations with two bodies -/

/-- A public operation that has a synchronous and an asynchronous body, with its arguments.
`checkAuthorization` without details is the case of an empty map. -/
inductive Operation
  | checkAuthorization (actionId : QString) (subject : Subject) (flags : Int)
      (details : DetailsMap)
  | enumerateActions
  | registerAuthenticationAgent (subject : Subject) (locale objectPath : QString)
  | unregisterAuthenticationAgent (subject : Subject) (objectPath : QString)
  | authenticationAgentResponse (cookie : QString) (identity : Identity)
  | revokeTemporaryAuthorizations (subject : Subject)
  | revokeTemporaryAuthorization (id : QString)

namespace Operation

def kind : Operation → Kind
  | checkAuthorization .. => .checkAuthorization
  | enumerateActions => .enumerateActions
  | registerAuthenticationAgent .. => .registerAuthenticationAgent
  | unregisterAuthenticationAgent .. => .unregisterAuthenticationAgent
  | authenticationAgentResponse .. => .authenticationAgentResponse
  | revokeTemporaryAuthorizations _ => .revokeTemporaryAuthorizations
  | revokeTemporaryAuthorization _ => .revokeTemporaryAuthorization

/-- The synchronous body. -/
def sync (d : Private) : (op : Operation) → Reply op.kind → SyncOut op.kind.Value
  | checkAuthorization actionId subject flags details, reply =>
      checkAuthorizationSyncWithDetails d actionId subject flags details reply
  | enumerateActions, reply => enumerateActionsSync d reply
  | registerAuthenticationAgent subject locale objectPath, reply =>
      registerAuthenticationAgentSync d subject locale objectPath reply
  | unregisterAuthenticationAgent subject objectPath, reply =>
      unregisterAuthenticationAgentSync d subject objectPath reply
  | authenticationAgentResponse cookie identity, reply =>
      authenticationAgentResponseSync d cookie identity reply
  | revokeTemporaryAuthorizations subject, reply =>
      revokeTemporaryAuthorizationsSync d subject reply
  | revokeTemporaryAuthorization id, reply => revokeTemporaryAuthorizationSync d id reply

/-- The asynchronous body. -/
def start (d : Private) : Operation → AsyncOut
  | checkAuthorization actionId subject flags details =>
      checkAuthorizationWithDetails d actionId subject flags details
  | enumerateActions => Authority.enumerateActions d
  | registerAuthenticationAgent subject locale objectPath =>
      Authority.registerAuthenticationAgent d subject locale objectPath
  | unregisterAuthenticationAgent subject objectPath =>
      Authority.unregisterAuthenticationAgent d subject objectPath
  | authenticationAgentResponse cookie identity =>
      Authority.authenticationAgentResponse d cookie identity
  | revokeTemporaryAuthorizations subject => Authority.revokeTemporaryAuthorizations d subject
  | revokeTemporaryAuthorization id => Authority.revokeTemporaryAuthorization d id

end Operation

end Authority

end PolkitQt
