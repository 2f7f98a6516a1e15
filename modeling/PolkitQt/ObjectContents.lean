/-
**Objects keep their contents.**

What a program does with the wrappers moves references about, and frees an object with the last one.
It never changes what an object holds, and a position once freed is not used again.

Main definition:

* `PolkitQt.Wrappers.Keeps` — every object keeps its content or is freed.

Main result:

* `PolkitQt.Wrappers.persists_step` — so it is from each event to the next.
-/

import PolkitQt.Leaks

set_option relaxedAutoImplicit false
set_option autoImplicit false

namespace PolkitQt

namespace Wrappers

open RefCount

/-! ### One operation -/

/-- Every object keeps its content or is freed. -/
def Keeps (h h' : Heap) : Prop := Persists h.objects h'.objects

namespace Keeps

variable {h h' h'' : Heap}

theorem refl (h : Heap) : Keeps h h := Persists.refl _

theorem trans (hk : Keeps h h') (hk' : Keeps h' h'') : Keeps h h'' := Persists.trans hk hk'

theorem of_eq (heq : h'.objects = h.objects) : Keeps h h' := by
  rw [Keeps, heq]
  exact Persists.refl _

/-- What comes after a change that has nothing to do with objects. -/
theorem of_objects {g : Heap} (heq : g.objects = h.objects) (hk : Keeps g h') : Keeps h h' :=
  trans (of_eq heq) hk

/-- A new variable. -/
theorem declare {made : Heap × BlockId} (hk : Keeps h made.1) : Keeps h (Wrappers.declare made) :=
  hk

theorem declareAuthorization {made : Heap × BlockId} (hk : Keeps h made.1) :
    Keeps h (Wrappers.declareAuthorization made) := hk

theorem ref (h : Heap) (p : Option ObjectId) : Keeps h (gObjectRef h p) := by
  cases p with
  | none => exact refl h
  | some o => exact Persists.retain _ _

theorem unref (h : Heap) (p : Option ObjectId) : Keeps h (gObjectUnref h p) := by
  cases p with
  | none => exact refl h
  | some o => exact Persists.release _ _

theorem receive (h : Heap) (v : Option PolkitObject) : Keeps h (receive h v).1 := by
  cases v with
  | none => exact refl h
  | some v => exact Persists.alloc _ _

theorem newData (h : Heap) (wrapped : Wrapped) : Keeps h (newData h wrapped).1 := of_eq rfl

theorem unrefAuthorization (h : Heap) (t : ObjectId) :
    Keeps h (gObjectUnrefAuthorization h t) := by
  have hrelease : Keeps h { h with authorizations := (release h.authorizations t).1 } := of_eq rfl
  exact trans hrelease (unref _ _)

theorem setPointer (h : Heap) (b : BlockId) (p : Option ObjectId) :
    Keeps h (setPointer h b p) := of_eq (objects_setPointer h b p)

theorem dropBlock (h : Heap) (b : BlockId) : Keeps h (dropBlock h b) := by
  have hrelease : Keeps h { h with blocks := (release h.blocks b).1 } := of_eq rfl
  exact trans hrelease (unref _ _)

theorem dropAuthorizationBlock (h : Heap) (b : BlockId) : Keeps h (dropAuthorizationBlock h b) := by
  have hrelease : Keeps h { h with authorizationBlocks := (release h.authorizationBlocks b).1 } :=
    of_eq rfl
  rw [Wrappers.dropAuthorizationBlock]
  cases hfreed : (release h.authorizationBlocks b).2 with
  | none =>
      simp only [hfreed]
      exact hrelease
  | some data =>
      simp only [hfreed]
      exact trans hrelease (dropBlock _ _)

theorem ofPointer (h : Heap) (wrapped : Wrapped) (p : Option ObjectId) :
    Keeps h (ofPointer h wrapped p).1 := by
  have hset := trans (newData h wrapped) (setPointer _ (Wrappers.newData h wrapped).2 p)
  exact trans hset (ref _ p)

theorem setSubject (h : Heap) (b : BlockId) (p : Option ObjectId) : Keeps h (setSubject h b p) :=
  trans (unref h (pointer h b)) (setPointer _ b p)

theorem setIdentity (h : Heap) (b : BlockId) (p : Option ObjectId) :
    Keeps h (setIdentity h b p) := by
  rw [Wrappers.setIdentity]
  split
  · exact refl h
  · exact trans (trans (unref h (pointer h b)) (setPointer _ b p)) (ref _ p)

theorem subjectOf (h : Heap) (subject : Option PolkitSubject) :
    Keeps h (subjectOf h subject).1 := by
  have hreceive := trans (newData h .subject) (receive _ (subject.map .subject))
  exact trans hreceive (setSubject _ _ _)

theorem identityOf (h : Heap) (identity : Option PolkitIdentity) :
    Keeps h (identityOf h identity).1 := by
  have hreceive := trans (newData h .identity) (receive _ (identity.map .identity))
  exact trans hreceive (setIdentity _ _ _)

theorem unixSessionSubjectOfPid (h : Heap) (reply : Except GError PolkitSubject) :
    Keeps h (unixSessionSubjectOfPid h reply).1 := by
  cases reply with
  | ok subject => exact subjectOf h (some subject)
  | error error => exact trans (subjectOf h none) (setSubject _ _ none)

theorem subjectFromString (h : Heap) (reply : Except GError PolkitSubject) :
    Keeps h (subjectFromString h reply).1 := by
  cases reply with
  | ok subject =>
      have hreceive := trans (newData h .subject) (receive _ (some (.subject subject)))
      exact trans hreceive (setPointer _ _ _)
  | error error =>
      have hset := trans (newData h .subject) (setPointer _ (Wrappers.newData h .subject).2 none)
      exact trans (trans hset (newData _ .subject)) (dropBlock _ _)

theorem identityForName (h : Heap) (reply : Except GError PolkitIdentity) :
    Keeps h (identityForName h reply).1 := by
  cases reply with
  | ok identity => exact identityOf h (some identity)
  | error error => exact trans (identityOf h none) (setIdentity _ _ none)

theorem identityFromString (h : Heap) (reply : Except GError PolkitIdentity) :
    Keeps h (identityFromString h reply).1 := by
  cases reply with
  | ok identity => exact trans (receive h (some (.identity identity))) (ofPointer _ .identity _)
  | error error => exact newData h .identity

theorem systemBusNameUser (h : Heap) (user : Option PolkitIdentity) :
    Keeps h (systemBusNameUser h user).1 :=
  trans (receive h (user.map .identity)) (ofPointer _ .identity _)

theorem detailsNew (h : Heap) : Keeps h (detailsNew h).1 := by
  have hreceive := trans (newData h .details) (receive _ (some (.details [])))
  exact trans hreceive (setPointer _ _ _)

theorem assignSubject (h : Heap) (b s : BlockId) : Keeps h (assignSubject h b s) := by
  rw [Wrappers.assignSubject]
  split
  · exact refl h
  · next data hdata =>
      dsimp only
      split
      · exact refl h
      · have hshare : Keeps h { h with
            blocks := retain h.blocks s
            authorizationBlocks := replace h.authorizationBlocks b { data with subject := s } } :=
          of_eq rfl
        exact trans hshare (dropBlock _ _)

theorem temporaryAuthorization (h : Heap) : Keeps h (temporaryAuthorization h).1 := of_eq rfl

theorem assignTemporary (h : Heap) (b : BlockId) (p : Option ObjectId) :
    Keeps h (Wrappers.dropBlock (Wrappers.assignSubject (Wrappers.ofPointer h .subject p).1 b
      (Wrappers.ofPointer h .subject p).2) (Wrappers.ofPointer h .subject p).2) :=
  trans (trans (ofPointer h .subject p) (assignSubject _ b _)) (dropBlock _ _)

theorem temporaryAuthorizationOfPointer (h : Heap) (t : ObjectId) (pk : AuthorizationObject) :
    Keeps h (temporaryAuthorizationOfPointer h t pk).1 := by
  have hdata : Keeps h (setAuthorizationData (Wrappers.temporaryAuthorization h).1
      (Wrappers.temporaryAuthorization h).2 pk) :=
    trans (temporaryAuthorization h) (of_eq (objects_setAuthorizationData _ _ _))
  have hsubject := trans (trans hdata (ref _ (some pk.subject)))
    (assignTemporary _ (Wrappers.temporaryAuthorization h).2 (some pk.subject))
  simp only [Wrappers.temporaryAuthorizationOfPointer]
  exact trans hsubject (unrefAuthorization _ t)

theorem assign (h : Heap) (i : Nat) (b c : BlockId) : Keeps h (assign h i b c) := by
  rw [Wrappers.assign]
  split
  · exact refl h
  · have hshare : Keeps h { h with
        blocks := retain h.blocks c
        wrappers := h.wrappers.set i (some c) } := of_eq rfl
    exact trans hshare (dropBlock _ _)

theorem assignAuthorization (h : Heap) (i : Nat) (b c : BlockId) :
    Keeps h (assignAuthorization h i b c) := by
  rw [Wrappers.assignAuthorization]
  split
  · exact refl h
  · have hshare : Keeps h { h with
        authorizationBlocks := retain h.authorizationBlocks c
        authorizationWrappers := h.authorizationWrappers.set i (some c) } := of_eq rfl
    exact trans hshare (dropAuthorizationBlock _ _)

end Keeps

/-! ### One event -/

/-- **An event keeps the content of every object it does not free.** -/
theorem persists_step (h : Heap) (e : Event) : Keeps h (step h e) := by
  cases e with
  | obtain v => exact Persists.alloc _ _
  | obtainAuthorization id actionId subject timeObtained timeExpires => exact Persists.alloc _ _
  | ref o =>
      simp only [step]
      split
      · exact Keeps.refl h
      · exact Keeps.ref h (some o)
  | unref o =>
      simp only [step]
      split
      · exact Keeps.of_objects (g := { h with owned := h.owned.erase o }) rfl (Keeps.unref _ _)
      · exact Keeps.refl h
  | refAuthorization t =>
      simp only [step]
      split
      · exact Keeps.refl h
      · exact Keeps.of_eq rfl
  | unrefAuthorization t =>
      simp only [step]
      split
      · exact Keeps.of_objects (g := { h with
          ownedAuthorizations := h.ownedAuthorizations.erase t }) rfl (Keeps.unrefAuthorization _ t)
      · exact Keeps.refl h
  | default wrapped => exact (Keeps.newData h wrapped).declare
  | ofPointer wrapped p =>
      simp only [step]
      split
      · exact (Keeps.ofPointer h wrapped p).declare
      · exact Keeps.refl h
  | unixProcessSubject pid => exact (Keeps.subjectOf h _).declare
  | unixProcessSubjectWithStartTime pid startTime => exact (Keeps.subjectOf h _).declare
  | systemBusNameSubject name accepted => exact (Keeps.subjectOf h _).declare
  | unixSessionSubject sessionId accepted => exact (Keeps.subjectOf h _).declare
  | unixSessionSubjectOfPid reply => exact (Keeps.unixSessionSubjectOfPid h reply).declare
  | subjectFromString reply => exact (Keeps.subjectFromString h reply).declare
  | unixUserIdentity uid accepted => exact (Keeps.identityOf h _).declare
  | unixGroupIdentity gid accepted => exact (Keeps.identityOf h _).declare
  | identityForName reply => exact (Keeps.identityForName h reply).declare
  | identityFromString reply => exact (Keeps.identityFromString h reply).declare
  | systemBusNameUser i user => exact (Keeps.systemBusNameUser h _).declare
  | details => exact (Keeps.detailsNew h).declare
  | temporaryAuthorization => exact Keeps.temporaryAuthorization h
  | temporaryAuthorizationOfPointer t =>
      simp only [step]
      split
      · split
        · exact Keeps.refl h
        · next pk hpk =>
            have hmade := Keeps.temporaryAuthorizationOfPointer
              { h with ownedAuthorizations := h.ownedAuthorizations.erase t } t pk
            exact Keeps.declareAuthorization (Keeps.of_objects rfl hmade)
      · exact Keeps.refl h
  | subject i =>
      simp only [step]
      split
      · exact Keeps.refl h
      · exact Keeps.of_eq rfl
  | copy i =>
      simp only [step]
      split
      · exact Keeps.refl h
      · exact Keeps.of_eq rfl
  | assign i j =>
      simp only [step]
      split
      · split
        · exact Keeps.assign h i _ _
        · exact Keeps.refl h
      · exact Keeps.refl h
  | destroy i =>
      simp only [step]
      split
      · exact Keeps.refl h
      · exact Keeps.of_objects (g := { h with wrappers := h.wrappers.set i none }) rfl
          (Keeps.dropBlock _ _)
  | copyAuthorization i =>
      simp only [step]
      split
      · exact Keeps.refl h
      · exact Keeps.of_eq rfl
  | assignAuthorization i j =>
      simp only [step]
      split
      · exact Keeps.assignAuthorization h i _ _
      · exact Keeps.refl h
  | destroyAuthorization i =>
      simp only [step]
      split
      · exact Keeps.refl h
      · exact Keeps.of_objects (g := { h with
          authorizationWrappers := h.authorizationWrappers.set i none }) rfl
            (Keeps.dropAuthorizationBlock _ _)

end Wrappers

end PolkitQt
