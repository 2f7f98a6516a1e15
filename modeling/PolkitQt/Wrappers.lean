/-
**The wrappers of polkit objects: who holds a reference on what.**

A `Subject`, an `Identity` and a `Details` is a pointer to a block of shared data, and the block
holds a pointer to an object of polkit.  Copies share the block, which counts them; the object is
counted by GObject, and the block gives its reference back when it is deleted.  How the block came
to its reference differs: `setSubject` and `Details()` take over the one that polkit's constructor
returns, `setIdentity` adds one of its own, and so does every constructor from a pointer.  A
`TemporaryAuthorization` holds a `Subject` among its data and consumes the reference on the object
it is made from.

Both kinds of counting are stores of counted cells.  polkit's constructors hand over an object that
is counted once; whether they succeed, and what the strings mean to them, is part of the event.  A
call that C++ would not compile, or one that hands over a pointer to no live object of the right
type, is no event of a program and is left without effect.

Main definitions:

* `PolkitQt.Wrappers.Heap` — objects, blocks, wrappers, and the references of the caller;
* `PolkitQt.Wrappers.setSubject`, `PolkitQt.Wrappers.setIdentity`, `PolkitQt.Wrappers.dropBlock`;
* `PolkitQt.Wrappers.Event`, `PolkitQt.Wrappers.step` — everything a program can do with them.
-/

import PolkitQt.RefCount
import PolkitQt.Polkit

set_option relaxedAutoImplicit false
set_option autoImplicit false

namespace PolkitQt

namespace Wrappers

open RefCount

/-! ### Objects and blocks -/

abbrev ObjectId := Nat

abbrev BlockId := Nat

/-- The three types of object that a wrapper holds by a pointer. -/
inductive Wrapped
  | subject
  | identity
  | details
  deriving DecidableEq, Repr

/-- An object of polkit. -/
inductive PolkitObject
  | subject (subject : PolkitSubject)
  | identity (identity : PolkitIdentity)
  | details (details : PolkitDetails)
  deriving DecidableEq, Repr

def PolkitObject.wrapped : PolkitObject → Wrapped
  | subject _ => .subject
  | identity _ => .identity
  | details _ => .details

/-- A `PolkitTemporaryAuthorization`, which owns a reference on its subject. -/
structure AuthorizationObject where
  id : Bytes
  actionId : Bytes
  subject : ObjectId
  timeObtained : UInt64
  timeExpires : UInt64
  deriving DecidableEq, Repr

/-- `Subject::Data`, `Identity::Data` and `Details::Data`, which differ in the type of the pointer. -/
structure Data where
  wrapped : Wrapped
  pointer : Option ObjectId
  deriving DecidableEq, Repr

/-- `TemporaryAuthorization::Data`; the member `subject` is a wrapper.  A `QDateTime()` is `none`. -/
structure AuthorizationData where
  id : QString
  actionId : QString
  subject : BlockId
  timeObtained : Option Int64
  timeExpires : Option Int64
  deriving DecidableEq, Repr

/-- The objects and the blocks, the variables of the program, of which some are destroyed, and the
references the caller owns itself. -/
structure Heap where
  objects : Store PolkitObject
  authorizations : Store AuthorizationObject
  blocks : Store Data
  authorizationBlocks : Store AuthorizationData
  wrappers : List (Option BlockId)
  authorizationWrappers : List (Option BlockId)
  owned : List ObjectId
  ownedAuthorizations : List ObjectId
  deriving DecidableEq, Repr

/-- Nothing has been created. -/
def Heap.empty : Heap := ⟨[], [], [], [], [], [], [], []⟩

/-! ### GObject -/

/-- `g_object_ref`, unless the pointer is null. -/
def gObjectRef (h : Heap) : Option ObjectId → Heap
  | none => h
  | some o => { h with objects := retain h.objects o }

/-- `g_object_unref`, unless the pointer is null. -/
def gObjectUnref (h : Heap) : Option ObjectId → Heap
  | none => h
  | some o => { h with objects := (release h.objects o).1 }

/-- What a constructor of polkit returns: null, or an object with one reference. -/
def receive (h : Heap) : Option PolkitObject → Heap × Option ObjectId
  | none => (h, none)
  | some v => ({ h with objects := alloc h.objects v }, some h.objects.length)

/-- What a constructor makes of its argument: null, if it does not accept it. -/
def accept {α : Type} (accepted : Bool) (v : α) : Option α := if accepted then some v else none

/-- `g_object_unref` of a `PolkitTemporaryAuthorization`, which then releases its subject. -/
def gObjectUnrefAuthorization (h : Heap) (t : ObjectId) : Heap :=
  let (authorizations, freed) := release h.authorizations t
  gObjectUnref { h with authorizations := authorizations } (freed.map AuthorizationObject.subject)

/-! ### Blocks -/

/-- `d(new Data)`: the block is counted once, for the wrapper under construction. -/
def newData (h : Heap) (wrapped : Wrapped) : Heap × BlockId :=
  ({ h with blocks := alloc h.blocks ⟨wrapped, none⟩ }, h.blocks.length)

/-- The pointer in a block. -/
def pointer (h : Heap) (b : BlockId) : Option ObjectId :=
  (content? h.blocks b).bind Data.pointer

/-- `d->subject = p`, and the same for the other two. -/
def setPointer (h : Heap) (b : BlockId) (p : Option ObjectId) : Heap :=
  match content? h.blocks b with
  | none => h
  | some data => { h with blocks := replace h.blocks b { data with pointer := p } }

/-- A wrapper lets go of its block; the last one deletes it. -/
def dropBlock (h : Heap) (b : BlockId) : Heap :=
  let (blocks, freed) := release h.blocks b
  gObjectUnref { h with blocks := blocks } (freed.bind Data.pointer)

/-- The same for the block of a `TemporaryAuthorization`, whose member `subject` is destroyed. -/
def dropAuthorizationBlock (h : Heap) (b : BlockId) : Heap :=
  let (authorizationBlocks, freed) := release h.authorizationBlocks b
  let h := { h with authorizationBlocks := authorizationBlocks }
  match freed with
  | none => h
  | some data => dropBlock h data.subject

/-! ### Constructors

Each leaves the heap and the block of the new object. -/

/-- `Subject()`, `Identity()`, `UnixUserIdentity()` and `UnixGroupIdentity()`. -/
def default (h : Heap) (wrapped : Wrapped) : Heap × BlockId := newData h wrapped

/-- The constructors from a pointer, of all three classes and of their subclasses, and
`Subject::fromSubject`. -/
def ofPointer (h : Heap) (wrapped : Wrapped) (p : Option ObjectId) : Heap × BlockId :=
  let (h, b) := newData h wrapped
  (gObjectRef (setPointer h b p) p, b)

/-- `Subject::setSubject`: the reference is taken over. -/
def setSubject (h : Heap) (b : BlockId) (p : Option ObjectId) : Heap :=
  setPointer (gObjectUnref h (pointer h b)) b p

/-- `Identity::setIdentity`: a reference is added. -/
def setIdentity (h : Heap) (b : BlockId) (p : Option ObjectId) : Heap :=
  if pointer h b = p then h
  else gObjectRef (setPointer (gObjectUnref h (pointer h b)) b p) p

/-- The constructors of `UnixProcessSubject`, `SystemBusNameSubject` and `UnixSessionSubject` that
pass what polkit returns to `setSubject`. -/
def subjectOf (h : Heap) (subject : Option PolkitSubject) : Heap × BlockId :=
  let (h, b) := default h .subject
  let (h, p) := receive h (subject.map .subject)
  (setSubject h b p, b)

def unixProcessSubject (h : Heap) (pid : Int64) : Heap × BlockId :=
  subjectOf h (polkitUnixProcessNewForOwner pid 0 (-1))

def unixProcessSubjectWithStartTime (h : Heap) (pid : Int64) (startTime : UInt64) :
    Heap × BlockId :=
  subjectOf h (polkitUnixProcessNewForOwner pid startTime (-1))

def systemBusNameSubject (h : Heap) (name : QString) (accepted : Bool) : Heap × BlockId :=
  subjectOf h (accept accepted (.systemBusName (cString name.toUtf8)))

def unixSessionSubject (h : Heap) (sessionId : QString) (accepted : Bool) : Heap × BlockId :=
  subjectOf h (accept accepted (.unixSession (cString sessionId.toUtf8)))

/-- `UnixSessionSubject(pid)`, with the reply of `polkit_unix_session_new_for_process_sync`. -/
def unixSessionSubjectOfPid (h : Heap) (reply : Except GError PolkitSubject) : Heap × BlockId :=
  match reply with
  | .ok subject => subjectOf h (some subject)
  | .error _ =>
      let (h, b) := subjectOf h none
      (setSubject h b none, b)

/-- `Subject::fromString`, with the reply of `polkit_subject_from_string`.  After an error a new
subject is returned, and the one under construction is destroyed. -/
def subjectFromString (h : Heap) (reply : Except GError PolkitSubject) : Heap × BlockId :=
  let (h, b) := default h .subject
  match reply with
  | .ok subject =>
      let (h, p) := receive h (some (.subject subject))
      (setPointer h b p, b)
  | .error _ =>
      let h := setPointer h b none
      let (h, b') := default h .subject
      (dropBlock h b, b')

/-- The constructors of `UnixUserIdentity` and `UnixGroupIdentity` that pass what polkit returns to
`setIdentity`. -/
def identityOf (h : Heap) (identity : Option PolkitIdentity) : Heap × BlockId :=
  let (h, b) := default h .identity
  let (h, p) := receive h (identity.map .identity)
  (setIdentity h b p, b)

def unixUserIdentity (h : Heap) (uid : UInt32) (accepted : Bool) : Heap × BlockId :=
  identityOf h (accept accepted (.unixUser uid))

def unixGroupIdentity (h : Heap) (gid : UInt32) (accepted : Bool) : Heap × BlockId :=
  identityOf h (accept accepted (.unixGroup gid))

/-- `UnixUserIdentity(name)` and `UnixGroupIdentity(name)`, with the reply to the lookup. -/
def identityForName (h : Heap) (reply : Except GError PolkitIdentity) : Heap × BlockId :=
  match reply with
  | .ok identity => identityOf h (some identity)
  | .error _ =>
      let (h, b) := identityOf h none
      (setIdentity h b none, b)

/-- `Identity::fromString`, with the reply of `polkit_identity_from_string`. -/
def identityFromString (h : Heap) (reply : Except GError PolkitIdentity) : Heap × BlockId :=
  match reply with
  | .ok identity =>
      let (h, p) := receive h (some (.identity identity))
      ofPointer h .identity p
  | .error _ => default h .identity

/-- `SystemBusNameSubject::user()`: what `polkit_system_bus_name_get_user_sync` returns goes to the
constructor from a pointer. -/
def systemBusNameUser (h : Heap) (user : Option PolkitIdentity) : Heap × BlockId :=
  let (h, p) := receive h (user.map .identity)
  ofPointer h .identity p

/-- `Details()`. -/
def detailsNew (h : Heap) : Heap × BlockId :=
  let (h, b) := newData h .details
  let (h, p) := receive h (some (.details []))
  (setPointer h b p, b)

/-! ### Temporary authorizations -/

/-- `TemporaryAuthorization()`. -/
def temporaryAuthorization (h : Heap) : Heap × BlockId :=
  let (h, s) := default h .subject
  ({ h with authorizationBlocks := alloc h.authorizationBlocks ⟨.null, .null, s, none, none⟩ },
    h.authorizationBlocks.length)

/-- `d->subject = other`: nothing happens if the block is the same. -/
def assignSubject (h : Heap) (b : BlockId) (s : BlockId) : Heap :=
  match content? h.authorizationBlocks b with
  | none => h
  | some data =>
      if data.subject = s then h
      else
        let h := { h with
          blocks := retain h.blocks s
          authorizationBlocks := replace h.authorizationBlocks b { data with subject := s } }
        dropBlock h data.subject

/-- The other members of the data. -/
def setAuthorizationData (h : Heap) (b : BlockId) (pk : AuthorizationObject) : Heap :=
  match content? h.authorizationBlocks b with
  | none => h
  | some data =>
      { h with authorizationBlocks := replace h.authorizationBlocks b { data with
        id := QString.fromUtf8 pk.id
        actionId := QString.fromUtf8 pk.actionId
        timeObtained := some pk.timeObtained.toInt64
        timeExpires := some pk.timeExpires.toInt64 } }

/-- `TemporaryAuthorization(pkTemporaryAuthorization)`.  What
`polkit_temporary_authorization_get_subject` returns is a reference of the caller's. -/
def temporaryAuthorizationOfPointer (h : Heap) (t : ObjectId) (pk : AuthorizationObject) :
    Heap × BlockId :=
  let (h, b) := temporaryAuthorization h
  let h := setAuthorizationData h b pk
  let h := gObjectRef h (some pk.subject)
  let (h, s) := ofPointer h .subject (some pk.subject)
  let h := assignSubject h b s
  let h := dropBlock h s
  (gObjectUnrefAuthorization h t, b)

/-! ### Variables -/

/-- The block of a variable that is not destroyed. -/
def Heap.wrapper? (h : Heap) (i : Nat) : Option BlockId := h.wrappers[i]?.join

def Heap.authorizationWrapper? (h : Heap) (i : Nat) : Option BlockId :=
  h.authorizationWrappers[i]?.join

/-- A new variable holds the object just constructed. -/
def declare (made : Heap × BlockId) : Heap :=
  { made.1 with wrappers := made.1.wrappers ++ [some made.2] }

def declareAuthorization (made : Heap × BlockId) : Heap :=
  { made.1 with authorizationWrappers := made.1.authorizationWrappers ++ [some made.2] }

/-- A copy shares the block. -/
def share (h : Heap) (b : BlockId) : Heap × BlockId :=
  ({ h with blocks := retain h.blocks b }, b)

/-- `operator=` of a variable that holds `b`: nothing happens if the block is the same. -/
def assign (h : Heap) (i : Nat) (b c : BlockId) : Heap :=
  if b = c then h
  else
    dropBlock { h with blocks := retain h.blocks c, wrappers := h.wrappers.set i (some c) } b

def assignAuthorization (h : Heap) (i : Nat) (b c : BlockId) : Heap :=
  if b = c then h
  else
    dropAuthorizationBlock { h with
      authorizationBlocks := retain h.authorizationBlocks c
      authorizationWrappers := h.authorizationWrappers.set i (some c) } b

/-- The pointer is null, or points to a live object of the type. -/
def Heap.Valid (h : Heap) (wrapped : Wrapped) : Option ObjectId → Prop
  | none => True
  | some o => (content? h.objects o).map PolkitObject.wrapped = some wrapped

instance (h : Heap) (wrapped : Wrapped) : (p : Option ObjectId) → Decidable (h.Valid wrapped p)
  | none => isTrue trivial
  | some _ => inferInstanceAs (Decidable (_ = _))

/-! ### Programs -/

/-- What a program can do: with polkit's objects on its own account, and with the wrappers. -/
inductive Event
  /-- The caller obtains a new object from polkit, with a reference of its own. -/
  | obtain (v : PolkitObject)
  /-- It obtains a `PolkitTemporaryAuthorization`, whose subject belongs to that object. -/
  | obtainAuthorization (id actionId : Bytes) (subject : PolkitSubject)
      (timeObtained timeExpires : UInt64)
  | ref (o : ObjectId)
  | unref (o : ObjectId)
  | refAuthorization (t : ObjectId)
  | unrefAuthorization (t : ObjectId)
  /-- The constructors; a destructor takes the variable. -/
  | default (wrapped : Wrapped)
  | ofPointer (wrapped : Wrapped) (p : Option ObjectId)
  | unixProcessSubject (pid : Int64)
  | unixProcessSubjectWithStartTime (pid : Int64) (startTime : UInt64)
  | systemBusNameSubject (name : QString) (accepted : Bool)
  | unixSessionSubject (sessionId : QString) (accepted : Bool)
  | unixSessionSubjectOfPid (reply : Except GError PolkitSubject)
  | subjectFromString (reply : Except GError PolkitSubject)
  | unixUserIdentity (uid : UInt32) (accepted : Bool)
  | unixGroupIdentity (gid : UInt32) (accepted : Bool)
  | identityForName (reply : Except GError PolkitIdentity)
  | identityFromString (reply : Except GError PolkitIdentity)
  /-- `user()` is called on a variable; `none` is a failure. -/
  | systemBusNameUser (i : Nat) (user : Option PolkitIdentity)
  | details
  | temporaryAuthorization
  | temporaryAuthorizationOfPointer (t : ObjectId)
  /-- `TemporaryAuthorization::subject()`. -/
  | subject (i : Nat)
  | copy (i : Nat)
  | assign (i j : Nat)
  | destroy (i : Nat)
  | copyAuthorization (i : Nat)
  | assignAuthorization (i j : Nat)
  | destroyAuthorization (i : Nat)

/-- The user that `user()` gets: none without a bus name to ask about. -/
def userOf (h : Heap) (i : Nat) (user : Option PolkitIdentity) : Option PolkitIdentity :=
  match (h.wrapper? i).bind (pointer h) with
  | none => none
  | some _ => user

def step (h : Heap) : Event → Heap
  | .obtain v => { h with objects := alloc h.objects v, owned := h.objects.length :: h.owned }
  | .obtainAuthorization id actionId subject timeObtained timeExpires =>
      { h with
        objects := alloc h.objects (.subject subject)
        authorizations := alloc h.authorizations
          ⟨id, actionId, h.objects.length, timeObtained, timeExpires⟩
        ownedAuthorizations := h.authorizations.length :: h.ownedAuthorizations }
  | .ref o =>
      match cell? h.objects o with
      | none => h
      | some _ => { gObjectRef h (some o) with owned := o :: h.owned }
  | .unref o =>
      if o ∈ h.owned then gObjectUnref { h with owned := h.owned.erase o } (some o) else h
  | .refAuthorization t =>
      match cell? h.authorizations t with
      | none => h
      | some _ =>
          { h with
            authorizations := retain h.authorizations t
            ownedAuthorizations := t :: h.ownedAuthorizations }
  | .unrefAuthorization t =>
      if t ∈ h.ownedAuthorizations then
        gObjectUnrefAuthorization { h with ownedAuthorizations := h.ownedAuthorizations.erase t } t
      else h
  | .default wrapped => declare (default h wrapped)
  | .ofPointer wrapped p => if h.Valid wrapped p then declare (ofPointer h wrapped p) else h
  | .unixProcessSubject pid => declare (unixProcessSubject h pid)
  | .unixProcessSubjectWithStartTime pid startTime =>
      declare (unixProcessSubjectWithStartTime h pid startTime)
  | .systemBusNameSubject name accepted => declare (systemBusNameSubject h name accepted)
  | .unixSessionSubject sessionId accepted => declare (unixSessionSubject h sessionId accepted)
  | .unixSessionSubjectOfPid reply => declare (unixSessionSubjectOfPid h reply)
  | .subjectFromString reply => declare (subjectFromString h reply)
  | .unixUserIdentity uid accepted => declare (unixUserIdentity h uid accepted)
  | .unixGroupIdentity gid accepted => declare (unixGroupIdentity h gid accepted)
  | .identityForName reply => declare (identityForName h reply)
  | .identityFromString reply => declare (identityFromString h reply)
  | .systemBusNameUser i user => declare (systemBusNameUser h (userOf h i user))
  | .details => declare (detailsNew h)
  | .temporaryAuthorization => declareAuthorization (temporaryAuthorization h)
  | .temporaryAuthorizationOfPointer t =>
      if t ∈ h.ownedAuthorizations then
        -- the caller's reference goes with the call
        match content? h.authorizations t with
        | none => h
        | some pk =>
            declareAuthorization (temporaryAuthorizationOfPointer
              { h with ownedAuthorizations := h.ownedAuthorizations.erase t } t pk)
      else h
  | .subject i =>
      match (h.authorizationWrapper? i).bind (content? h.authorizationBlocks) with
      | none => h
      | some data => declare (share h data.subject)
  | .copy i =>
      match h.wrapper? i with
      | none => h
      | some b => declare (share h b)
  | .assign i j =>
      match h.wrapper? i, h.wrapper? j with
      | some b, some c =>
          -- only wrappers of one class are assigned to each other
          if (content? h.blocks b).map Data.wrapped = (content? h.blocks c).map Data.wrapped then
            assign h i b c
          else h
      | _, _ => h
  | .destroy i =>
      match h.wrapper? i with
      | none => h
      | some b => dropBlock { h with wrappers := h.wrappers.set i none } b
  | .copyAuthorization i =>
      match h.authorizationWrapper? i with
      | none => h
      | some b =>
          declareAuthorization
            ({ h with authorizationBlocks := retain h.authorizationBlocks b }, b)
  | .assignAuthorization i j =>
      match h.authorizationWrapper? i, h.authorizationWrapper? j with
      | some b, some c => assignAuthorization h i b c
      | _, _ => h
  | .destroyAuthorization i =>
      match h.authorizationWrapper? i with
      | none => h
      | some b =>
          dropAuthorizationBlock
            { h with authorizationWrappers := h.authorizationWrappers.set i none } b

end Wrappers

end PolkitQt
