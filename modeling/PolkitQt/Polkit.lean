/-
**The border with polkit: the objects exchanged, the requests sent and the replies received.**

`PolkitQt1` is a wrapper: its own objects hold pointers to polkit's, its operations turn into
`polkit_authority_*` calls, and what polkit answers comes back as a value or as a `GError`.  This
module fixes that vocabulary.  A polkit object is modelled by its content and a pointer by
`Option`, `none` being the null pointer; what polkit decides is never computed here, a reply is
always an input.

Main definitions:

* `PolkitQt.GError`, `PolkitQt.GError.isCancellation` — an error of any domain and code, and which
  of them report a cancellation;
* `PolkitQt.PolkitSubject`, `PolkitQt.PolkitIdentity`, and their wrappers `PolkitQt.Subject` and
  `PolkitQt.Identity`, valid when the pointer they hold is not null;
* `PolkitQt.DetailsMap`, `PolkitQt.convertDetailsMap`;
* `PolkitQt.Kind` — the eight operations polkit knows, with what polkit answers to each
  (`PolkitQt.Kind.Payload`) and what the wrapper makes of it (`PolkitQt.Kind.Value`);
* `PolkitQt.Request` — one `polkit_authority_*` call with its arguments.
-/

import PolkitQt.QtString

set_option relaxedAutoImplicit false
set_option autoImplicit false

namespace PolkitQt

/-! ### Errors -/

/-- The domain of a `GError`. -/
inductive ErrorDomain
  | gIOError
  | polkitError
  | gDBusError
  | other (quark : Nat)
  deriving DecidableEq, Repr

structure GError where
  domain : ErrorDomain
  code : Int
  message : Bytes
  deriving DecidableEq, Repr

/-- `G_IO_ERROR_CANCELLED`. -/
def gIOErrorCancelled : Int := 19

/-- `POLKIT_ERROR_CANCELLED`. -/
def polkitErrorCancelled : Int := 1

/-- The error says that the request was cancelled: GIO and polkit each have a code for it. -/
def GError.isCancellation (e : GError) : Bool :=
  match e.domain with
  | .gIOError => e.code == gIOErrorCancelled
  | .polkitError => e.code == polkitErrorCancelled
  | _ => false

/-! ### Objects -/

/-- The proxy for the polkit daemon, known by its address. -/
abbrev PolkitAuthority := Nat

inductive PolkitSubject
  | unixProcess (pid : Int32) (startTime : UInt64) (uid : Int32)
  | systemBusName (name : Bytes)
  | unixSession (sessionId : Bytes)
  deriving DecidableEq, Repr

/-- `polkit_unix_process_new_for_owner`: the pid is passed as a `gint`. -/
def polkitUnixProcessNewForOwner (pid : Int64) (startTime : UInt64) (uid : Int32) :
    Option PolkitSubject :=
  some (.unixProcess pid.toInt32 startTime uid)

inductive PolkitIdentity
  | unixUser (uid : UInt32)
  | unixGroup (gid : UInt32)
  | unixNetgroup (name : Bytes)
  deriving DecidableEq, Repr

/-- `Subject`: a wrapped `PolkitSubject *`. -/
structure Subject where
  subject : Option PolkitSubject
  deriving DecidableEq, Repr

def Subject.isValid (s : Subject) : Bool := s.subject.isSome

/-- `UnixProcessSubject(pid)`: the start time and the owner are left for polkit to look up. -/
def unixProcessSubject (pid : Int64) : Subject := ⟨polkitUnixProcessNewForOwner pid 0 (-1)⟩

/-- `Identity`: a wrapped `PolkitIdentity *`. -/
structure Identity where
  identity : Option PolkitIdentity
  deriving DecidableEq, Repr

def Identity.isValid (i : Identity) : Bool := i.identity.isSome

/-! ### Details -/

/-- `PolkitDetails`: a table from byte strings to byte strings. -/
abbrev PolkitDetails := List (Bytes × Bytes)

/-- `polkit_details_insert`: an earlier value of the key is replaced. -/
def polkitDetailsInsert (d : PolkitDetails) (key value : Bytes) : PolkitDetails :=
  d.filter (fun entry => entry.1 ≠ key) ++ [(key, value)]

/-- `DetailsMap`, a `QMap<QString, QString>`: each key occurs once. -/
structure DetailsMap where
  entries : List (QString × QString)
  nodup : (entries.map fun entry => entry.1.utf16).Nodup

/-- `DetailsMap()`. -/
def DetailsMap.empty : DetailsMap := ⟨[], List.nodup_nil⟩

/-- `Authority::Private::convertDetailsMap`: null for an empty map. -/
def convertDetailsMap (details : DetailsMap) : Option PolkitDetails :=
  if details.entries.isEmpty then none
  else
    some <| details.entries.foldl
      (fun ret entry => polkitDetailsInsert ret (cString entry.1.toUtf8) (cString entry.2.toUtf8)) []

/-! ### Results -/

/-- `Authority::Result`. -/
inductive Result
  | unknown
  | yes
  | no
  | challenge
  deriving DecidableEq, Repr

/-- `PolkitAuthorizationResult`: the two flags the wrapper reads. -/
structure PolkitAuthorizationResult where
  isAuthorized : Bool
  isChallenge : Bool
  deriving DecidableEq, Repr

/-- `polkitResultToResult`. -/
def polkitResultToResult (result : PolkitAuthorizationResult) : Result :=
  if result.isChallenge then .challenge
  else if result.isAuthorized then .yes
  else .no

/-- A result read off a polkit result is never `Unknown`. -/
@[simp] theorem polkitResultToResult_ne_unknown (r : PolkitAuthorizationResult) :
    polkitResultToResult r ≠ .unknown := by
  unfold polkitResultToResult
  split
  · simp
  · split <;> simp

/-- `Yes` is the image of exactly one pair of flags. -/
theorem polkitResultToResult_eq_yes {r : PolkitAuthorizationResult} :
    polkitResultToResult r = .yes ↔ r.isAuthorized = true ∧ r.isChallenge = false := by
  unfold polkitResultToResult
  cases r.isChallenge <;> cases r.isAuthorized <;> simp

structure PolkitActionDescription where
  actionId : Bytes
  description : Bytes
  message : Bytes
  vendorName : Bytes
  vendorUrl : Bytes
  iconName : Bytes
  implicitAny : Int
  implicitInactive : Int
  implicitActive : Int
  deriving DecidableEq, Repr

structure ActionDescription where
  actionId : QString
  description : QString
  message : QString
  vendorName : QString
  vendorUrl : QString
  iconName : QString
  implicitAny : Int
  implicitInactive : Int
  implicitActive : Int
  deriving DecidableEq, Repr

/-- `ActionDescription(PolkitActionDescription *)`. -/
def ActionDescription.ofPolkit (a : PolkitActionDescription) : ActionDescription where
  actionId := QString.fromUtf8 a.actionId
  description := QString.fromUtf8 a.description
  message := QString.fromUtf8 a.message
  vendorName := QString.fromUtf8 a.vendorName
  vendorUrl := QString.fromUtf8 a.vendorUrl
  iconName := QString.fromUtf8 a.iconName
  implicitAny := a.implicitAny
  implicitInactive := a.implicitInactive
  implicitActive := a.implicitActive

/-- `actionsToListAndFree`. -/
def actionsToListAndFree (glist : List PolkitActionDescription) : List ActionDescription :=
  glist.map ActionDescription.ofPolkit

structure PolkitTemporaryAuthorization where
  id : Bytes
  actionId : Bytes
  subject : PolkitSubject
  timeObtained : UInt64
  timeExpires : UInt64
  deriving DecidableEq, Repr

structure TemporaryAuthorization where
  id : QString
  actionId : QString
  subject : Subject
  obtainedAt : Int64
  expirationTime : Int64
  deriving DecidableEq, Repr

/-- `TemporaryAuthorization(PolkitTemporaryAuthorization *)`; the times are seconds since the
epoch. -/
def TemporaryAuthorization.ofPolkit (t : PolkitTemporaryAuthorization) :
    TemporaryAuthorization where
  id := QString.fromUtf8 t.id
  actionId := QString.fromUtf8 t.actionId
  subject := ⟨some t.subject⟩
  obtainedAt := t.timeObtained.toInt64
  expirationTime := t.timeExpires.toInt64

/-! ### Kinds of operation -/

/-- The operations of the authority.  Each kind has one `GCancellable` and one completion
callback. -/
inductive Kind
  | checkAuthorization
  | enumerateActions
  | registerAuthenticationAgent
  | unregisterAuthenticationAgent
  | authenticationAgentResponse
  | enumerateTemporaryAuthorizations
  | revokeTemporaryAuthorizations
  | revokeTemporaryAuthorization
  deriving DecidableEq, Repr

/-- What polkit answers when it reports no error. -/
abbrev Kind.Payload : Kind → Type
  | checkAuthorization => Option PolkitAuthorizationResult
  | enumerateActions => List PolkitActionDescription
  | enumerateTemporaryAuthorizations => List PolkitTemporaryAuthorization
  | _ => Bool

/-- What the wrapper returns or signals. -/
abbrev Kind.Value : Kind → Type
  | checkAuthorization => Result
  | enumerateActions => List ActionDescription
  | enumerateTemporaryAuthorizations => List TemporaryAuthorization
  | _ => Bool

/-- polkit's reply to a request of kind `k`. -/
abbrev Reply (k : Kind) := Except GError k.Payload

/-- The reply reports a cancellation. -/
def Reply.isCancellation {k : Kind} : Reply k → Bool
  | .error e => e.isCancellation
  | .ok _ => false

/-! ### Requests -/

/-- A `polkit_authority_*` call, with the pointers and the bytes it hands over.  The cancellable
and the callback of an asynchronous call are not part of the request. -/
inductive Request
  | checkAuthorization (authority : Option PolkitAuthority) (subject : Option PolkitSubject)
      (actionId : Bytes) (details : Option PolkitDetails) (flags : Int)
  | enumerateActions (authority : Option PolkitAuthority)
  | registerAuthenticationAgent (authority : Option PolkitAuthority)
      (subject : Option PolkitSubject) (locale objectPath : Bytes)
  | unregisterAuthenticationAgent (authority : Option PolkitAuthority)
      (subject : Option PolkitSubject) (objectPath : Bytes)
  | authenticationAgentResponse (authority : Option PolkitAuthority) (cookie : Bytes)
      (identity : Option PolkitIdentity)
  | enumerateTemporaryAuthorizations (authority : Option PolkitAuthority)
      (subject : Option PolkitSubject)
  | revokeTemporaryAuthorizations (authority : Option PolkitAuthority)
      (subject : Option PolkitSubject)
  | revokeTemporaryAuthorizationById (authority : Option PolkitAuthority) (id : Bytes)
  deriving DecidableEq, Repr

namespace Request

def kind : Request → Kind
  | checkAuthorization .. => .checkAuthorization
  | enumerateActions _ => .enumerateActions
  | registerAuthenticationAgent .. => .registerAuthenticationAgent
  | unregisterAuthenticationAgent .. => .unregisterAuthenticationAgent
  | authenticationAgentResponse .. => .authenticationAgentResponse
  | enumerateTemporaryAuthorizations .. => .enumerateTemporaryAuthorizations
  | revokeTemporaryAuthorizations .. => .revokeTemporaryAuthorizations
  | revokeTemporaryAuthorizationById .. => .revokeTemporaryAuthorization

/-- The `PolkitAuthority` the call is made on. -/
def authority : Request → Option PolkitAuthority
  | checkAuthorization a .. => a
  | enumerateActions a => a
  | registerAuthenticationAgent a .. => a
  | unregisterAuthenticationAgent a .. => a
  | authenticationAgentResponse a .. => a
  | enumerateTemporaryAuthorizations a _ => a
  | revokeTemporaryAuthorizations a _ => a
  | revokeTemporaryAuthorizationById a _ => a

/-- Whether the subject or the identity the call forwards, if it forwards one, is there. -/
def objectValid : Request → Bool
  | checkAuthorization _ s .. => s.isSome
  | enumerateActions _ => true
  | registerAuthenticationAgent _ s .. => s.isSome
  | unregisterAuthenticationAgent _ s .. => s.isSome
  | authenticationAgentResponse _ _ i => i.isSome
  | enumerateTemporaryAuthorizations _ s => s.isSome
  | revokeTemporaryAuthorizations _ s => s.isSome
  | revokeTemporaryAuthorizationById .. => true

/-- The call is made on an authority that is there and forwards nothing null. -/
def WellFormed (r : Request) : Prop := r.authority.isSome ∧ r.objectValid

instance (r : Request) : Decidable r.WellFormed := inferInstanceAs (Decidable (_ ∧ _))

end Request

end PolkitQt
