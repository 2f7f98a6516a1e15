/-
**Every reference is accounted for.**

A counted cell — an object or a block — is held by the references that are owned to it: those of
the blocks that point to an object, of the objects that own it, of the wrappers that share a block,
and of the caller.  What the count has beyond that is spare.  This module says what each operation
of the wrappers does to the spare references, as long as none is missing.

Main definitions:

* `PolkitQt.Wrappers.Place`, `PolkitQt.Wrappers.held`, `PolkitQt.Wrappers.spare`;
* `PolkitQt.Wrappers.Sound` — nothing is missing, and only objects have spare references;
* `PolkitQt.Wrappers.Change` — what an operation does to the spare references.

Main results:

* `PolkitQt.Wrappers.made_subjectOf`, `PolkitQt.Wrappers.made_identityOf` — **the constructors that
  adopt a reference leave none spare, and those that add one leave polkit's**;
* `PolkitQt.Wrappers.change_dropBlock` — a block gives back what it has;
* `PolkitQt.Wrappers.change_temporaryAuthorizationOfPointer` — the reference on the subject stays.
-/

import PolkitQt.Runs
import PolkitQt.Wrappers
import Mathlib.Algebra.Group.Pi.Basic
import Mathlib.Algebra.Order.Group.Int
import Mathlib.Tactic.Abel

set_option relaxedAutoImplicit false
set_option autoImplicit false

namespace PolkitQt

namespace Wrappers

open Runs RefCount

/-! ### Accounts -/

/-- A counted cell of the heap. -/
inductive Place
  | object (o : ObjectId)
  | authorization (t : ObjectId)
  | block (b : BlockId)
  | authorizationBlock (b : BlockId)
  deriving DecidableEq, Repr

/-- The number of references that are owned to a cell. -/
def held (h : Heap) : Place → Nat
  | .object o =>
      pointing (fun data => data.pointer == some o) h.blocks +
        pointing (fun pk => pk.subject == o) h.authorizations + h.owned.count o
  | .authorization t => h.ownedAuthorizations.count t
  | .block b =>
      h.wrappers.count (some b) + pointing (fun data => data.subject == b) h.authorizationBlocks
  | .authorizationBlock b => h.authorizationWrappers.count (some b)

/-- Its count. -/
def count (h : Heap) : Place → Int
  | .object o => countAt h.objects o
  | .authorization t => countAt h.authorizations t
  | .block b => countAt h.blocks b
  | .authorizationBlock b => countAt h.authorizationBlocks b

/-- The references counted that nobody owns. -/
def spare (h : Heap) (x : Place) : Int := count h x - held h x

/-- Every live cell is counted. -/
structure Counted (h : Heap) : Prop where
  objects : Positive h.objects
  authorizations : Positive h.authorizations
  blocks : Positive h.blocks
  authorizationBlocks : Positive h.authorizationBlocks

/-- Between the calls of a program nothing is missing, and only objects have spare references. -/
structure Sound (h : Heap) : Prop where
  counted : Counted h
  nonneg : ∀ x, 0 ≤ spare h x
  zero : ∀ x, (∀ o, x ≠ .object o) → spare h x = 0

/-! ### Changes -/

/-- One reference to a cell. -/
def one (x : Place) : Place → Int := fun y => if y = x then 1 else 0

/-- One reference to the object a pointer points to. -/
def oneOf : Option ObjectId → Place → Int
  | none => 0
  | some o => one (.object o)

/-- The same for the block of a wrapper. -/
def oneOfBlock : Option BlockId → Place → Int
  | none => 0
  | some b => one (.block b)

/-- From `h` to `h'` the spare references change by `δ`. -/
structure Change (h h' : Heap) (δ : Place → Int) : Prop where
  counted : Counted h → Counted h'
  spare : ∀ x, spare h' x = spare h x + δ x

namespace Change

variable {h h' h'' : Heap} {δ ε : Place → Int}

theorem refl (h : Heap) : Change h h 0 := ⟨id, fun _ => (Int.add_zero _).symm⟩

theorem trans (hc : Change h h' δ) (hc' : Change h' h'' ε) : Change h h'' (δ + ε) := by
  refine ⟨fun hcounted => hc'.counted (hc.counted hcounted), fun x => ?_⟩
  rw [hc'.spare, hc.spare, Pi.add_apply, Int.add_assoc]

theorem congr (hc : Change h h' δ) (heq : δ = ε) : Change h h' ε := heq ▸ hc

/-- What has a spare reference is live. -/
theorem nonneg (hc : Change h h' δ) (hnonneg : ∀ x, 0 ≤ Wrappers.spare h x) (hδ : ∀ x, 0 ≤ δ x)
    (x : Place) : 0 ≤ Wrappers.spare h' x := by
  have hx := hnonneg x
  have hδx := hδ x
  rw [hc.spare]
  omega

end Change

theorem one_self (x : Place) : one x x = 1 := if_pos rfl

theorem one_nonneg (x y : Place) : 0 ≤ one x y := by
  rw [one]
  split <;> omega

/-- What was made spare is there to be given up. -/
theorem Change.spare_pos {h h' : Heap} {x : Place} (hc : Change h h' (one x))
    (hnonneg : ∀ y, 0 ≤ Wrappers.spare h y) : 0 < Wrappers.spare h' x := by
  have hold := hnonneg x
  rw [hc.spare, one_self]
  omega

theorem oneOf_nonneg (p : Option ObjectId) (y : Place) : 0 ≤ oneOf p y := by
  cases p with
  | none => exact Int.le_refl 0
  | some o => exact one_nonneg _ y

/-- A cell that is held, with nothing missing, is live. -/
theorem count_pos {h : Heap} {x : Place} (hnonneg : 0 ≤ spare h x) (hheld : 0 < held h x) :
    0 < count h x := by
  rw [spare] at hnonneg
  omega

theorem count_pos_of_spare {h : Heap} {x : Place} (hspare : 0 < spare h x) : 0 < count h x := by
  rw [spare] at hspare
  omega

theorem exists_object {h : Heap} {o : ObjectId} (hcount : 0 < count h (.object o)) :
    ∃ c, cell? h.objects o = some c := by
  apply exists_cell?
  rw [count] at hcount
  omega

theorem exists_block {h : Heap} {b : BlockId} (hcount : 0 < count h (.block b)) :
    ∃ c, cell? h.blocks b = some c := by
  apply exists_cell?
  rw [count] at hcount
  omega

/-- The object a live block points to is held. -/
theorem held_of_pointer {h : Heap} {b : BlockId} {data : Data} {o : ObjectId}
    (hdata : content? h.blocks b = some data) (hpointer : data.pointer = some o) :
    0 < held h (.object o) := by
  have hpos : 0 < pointing (fun data => data.pointer == some o) h.blocks :=
    pointing_pos hdata (by rw [hpointer, beq_self_eq_true])
  rw [held]
  omega

/-! ### Objects -/

theorem change_gObjectRef {h : Heap} {p : Option ObjectId}
    (hlive : ∀ o, p = some o → ∃ c, cell? h.objects o = some c) :
    Change h (gObjectRef h p) (oneOf p) := by
  cases p with
  | none => exact Change.refl h
  | some o =>
      obtain ⟨c, hc⟩ := hlive o rfl
      refine ⟨fun hcounted => ⟨hcounted.objects.retain o, hcounted.authorizations, hcounted.blocks,
        hcounted.authorizationBlocks⟩, fun x => ?_⟩
      cases x with
      | object o' =>
          simp only [spare, count, held, gObjectRef, oneOf, one, Place.object.injEq]
          rw [countAt_retain hc]
          omega
      | _ => simp [spare, count, held, gObjectRef, oneOf, one]

theorem change_gObjectUnref {h : Heap} {p : Option ObjectId}
    (hlive : ∀ o, p = some o → ∃ c, cell? h.objects o = some c) :
    Change h (gObjectUnref h p) (-oneOf p) := by
  cases p with
  | none => exact (Change.refl h).congr neg_zero.symm
  | some o =>
      obtain ⟨c, hc⟩ := hlive o rfl
      refine ⟨fun hcounted => ⟨hcounted.objects.release o, hcounted.authorizations, hcounted.blocks,
        hcounted.authorizationBlocks⟩, fun x => ?_⟩
      cases x with
      | object o' =>
          simp only [spare, count, held, gObjectUnref, oneOf, one, Place.object.injEq, Pi.neg_apply]
          rw [countAt_release hc]
          omega
      | _ => simp [spare, count, held, gObjectUnref, oneOf, one]

/-- polkit hands over one reference. -/
theorem change_receive (h : Heap) (v : Option PolkitObject) :
    Change h (receive h v).1 (oneOf (receive h v).2) := by
  cases v with
  | none => exact Change.refl h
  | some v =>
      refine ⟨fun hcounted => ⟨hcounted.objects.alloc v, hcounted.authorizations, hcounted.blocks,
        hcounted.authorizationBlocks⟩, fun x => ?_⟩
      cases x with
      | object o =>
          simp only [spare, count, held, receive, oneOf, one, Place.object.injEq]
          rw [countAt_alloc]
          omega
      | _ => simp [spare, count, held, receive, oneOf, one]

theorem receive_live (h : Heap) (v : Option PolkitObject) (o : ObjectId)
    (ho : (receive h v).2 = some o) : ∃ c, cell? (receive h v).1.objects o = some c := by
  cases v with
  | none => simp [receive] at ho
  | some v =>
      obtain rfl := Option.some.inj ho
      exact ⟨⟨1, v⟩, by rw [receive, cell?_alloc, if_pos rfl]⟩

theorem oneOf_object (p : Option ObjectId) (o : ObjectId) :
    oneOf p (.object o) = if (p == some o) = true then 1 else 0 := by
  cases p with
  | none => rfl
  | some o' =>
      simp only [oneOf, one, Place.object.injEq, beq_iff_eq, Option.some.injEq]
      exact if_congr eq_comm rfl rfl

theorem one_block (b b' : BlockId) :
    one (.block b) (.block b') = if (b == b') = true then 1 else 0 := by
  simp only [one, Place.block.injEq, beq_iff_eq]
  exact if_congr eq_comm rfl rfl

theorem oneOfBlock_block (p : Option BlockId) (b : BlockId) :
    oneOfBlock p (.block b) = if (p == some b) = true then 1 else 0 := by
  cases p with
  | none => rfl
  | some b' =>
      simp only [oneOfBlock, one_block, beq_iff_eq, Option.some.injEq]

@[simp] theorem oneOfBlock_object (p : Option BlockId) (o : ObjectId) :
    oneOfBlock p (.object o) = 0 := by
  cases p <;> simp [oneOfBlock, one]

@[simp] theorem oneOfBlock_authorization (p : Option BlockId) (t : ObjectId) :
    oneOfBlock p (.authorization t) = 0 := by
  cases p <;> simp [oneOfBlock, one]

@[simp] theorem oneOfBlock_authorizationBlock (p : Option BlockId) (b : BlockId) :
    oneOfBlock p (.authorizationBlock b) = 0 := by
  cases p <;> simp [oneOfBlock, one]

@[simp] theorem oneOf_authorization (p : Option ObjectId) (t : ObjectId) :
    oneOf p (.authorization t) = 0 := by
  cases p <;> simp [oneOf, one]

@[simp] theorem oneOf_block (p : Option ObjectId) (b : BlockId) : oneOf p (.block b) = 0 := by
  cases p <;> simp [oneOf, one]

@[simp] theorem oneOf_authorizationBlock (p : Option ObjectId) (b : BlockId) :
    oneOf p (.authorizationBlock b) = 0 := by
  cases p <;> simp [oneOf, one]

/-- The reference goes, and with the last one the object's own reference on its subject. -/
theorem change_gObjectUnrefAuthorization {h : Heap} {t : ObjectId} {c : Cell AuthorizationObject}
    (hc : cell? h.authorizations t = some c) (hnonneg : ∀ o, 0 ≤ spare h (.object o)) :
    Change h (gObjectUnrefAuthorization h t) (-one (.authorization t)) := by
  have hfirst : Change h { h with authorizations := (release h.authorizations t).1 }
      (oneOf ((release h.authorizations t).2.map AuthorizationObject.subject) -
        one (.authorization t)) := by
    refine ⟨fun hcounted => ⟨hcounted.objects, hcounted.authorizations.release t, hcounted.blocks,
      hcounted.authorizationBlocks⟩, fun x => ?_⟩
    cases x with
    | object o =>
        have hpointing := pointing_release (s := h.authorizations) (fun pk => pk.subject == o) t
        simp only [spare, count, held, Pi.sub_apply, oneOf_object, one, reduceCtorEq, if_false]
        cases hfreed : (release h.authorizations t).2 with
        | none =>
            simp [hfreed] at hpointing ⊢
            omega
        | some pk =>
            by_cases heq : pk.subject = o
            · simp [hfreed, heq] at hpointing ⊢
              omega
            · simp [hfreed, heq] at hpointing ⊢
              omega
    | authorization t' =>
        simp only [spare, count, held, Pi.sub_apply, oneOf_authorization, one,
          Place.authorization.injEq]
        rw [countAt_release hc]
        omega
    | _ => simp [spare, count, held, one]
  have hlive : ∀ o, (release h.authorizations t).2.map AuthorizationObject.subject = some o →
      ∃ c, cell? h.objects o = some c := by
    intro o ho
    obtain ⟨pk, hpk, rfl⟩ := Option.map_eq_some_iff.1 ho
    have hpos := pointing_pos (content?_of_release hpk) (p := fun pk' => pk'.subject == pk.subject)
      (beq_self_eq_true _)
    refine exists_object (count_pos (hnonneg _) ?_)
    rw [held]
    omega
  exact (hfirst.trans (change_gObjectUnref hlive)).congr (by abel)

/-! ### Blocks -/

theorem change_newData (h : Heap) (wrapped : Wrapped) :
    Change h (newData h wrapped).1 (one (.block (newData h wrapped).2)) := by
  refine ⟨fun hcounted => ⟨hcounted.objects, hcounted.authorizations, hcounted.blocks.alloc _,
    hcounted.authorizationBlocks⟩, fun x => ?_⟩
  cases x with
  | object o => simp [spare, count, held, newData, one, pointing_alloc]
  | block b =>
      simp only [spare, count, held, newData, one, Place.block.injEq]
      rw [countAt_alloc]
      omega
  | _ => simp [spare, count, held, newData, one]

/-- A block takes over a reference, and gives up the one it had. -/
theorem change_setPointer {h : Heap} {b : BlockId} {data : Data}
    (hdata : content? h.blocks b = some data) (p : Option ObjectId) :
    Change h (setPointer h b p) (oneOf data.pointer - oneOf p) := by
  rw [setPointer, hdata]
  refine ⟨fun hcounted => ⟨hcounted.objects, hcounted.authorizations, hcounted.blocks.replace _ _,
    hcounted.authorizationBlocks⟩, fun x => ?_⟩
  cases x with
  | object o =>
      have hpointing := pointing_replace hdata { data with pointer := p }
        (fun data => data.pointer == some o)
      simp only [spare, count, held, Pi.sub_apply, oneOf_object]
      simp only at hpointing
      cases hold : data.pointer == some o <;> cases hnew : p == some o <;>
        simp [hold, hnew] at hpointing ⊢ <;> omega
  | block b' => simp [spare, count, held]
  | _ => simp [spare, count, held]

theorem change_retainBlock {h : Heap} {b : BlockId} {c : Cell Data}
    (hc : cell? h.blocks b = some c) :
    Change h { h with blocks := retain h.blocks b } (one (.block b)) := by
  refine ⟨fun hcounted => ⟨hcounted.objects, hcounted.authorizations, hcounted.blocks.retain b,
    hcounted.authorizationBlocks⟩, fun x => ?_⟩
  cases x with
  | block b' =>
      simp only [spare, count, held, one, Place.block.injEq]
      rw [countAt_retain hc]
      omega
  | _ => simp [spare, count, held, one]

/-- The block loses a wrapper; deleted, it releases its object. -/
theorem change_dropBlock {h : Heap} {b : BlockId} {c : Cell Data} (hc : cell? h.blocks b = some c)
    (hnonneg : ∀ o, 0 ≤ spare h (.object o)) : Change h (dropBlock h b) (-one (.block b)) := by
  have hfirst : Change h { h with blocks := (release h.blocks b).1 }
      (oneOf ((release h.blocks b).2.bind Data.pointer) - one (.block b)) := by
    refine ⟨fun hcounted => ⟨hcounted.objects, hcounted.authorizations, hcounted.blocks.release b,
      hcounted.authorizationBlocks⟩, fun x => ?_⟩
    cases x with
    | object o =>
        have hpointing := pointing_release (s := h.blocks) (fun data => data.pointer == some o) b
        simp only [spare, count, held, Pi.sub_apply, oneOf_object, one, reduceCtorEq, if_false]
        cases hfreed : (release h.blocks b).2 with
        | none =>
            simp [hfreed] at hpointing ⊢
            omega
        | some data =>
            cases heq : data.pointer == some o with
            | true =>
                simp [hfreed, heq] at hpointing ⊢
                omega
            | false =>
                simp [hfreed, heq] at hpointing ⊢
                omega
    | block b' =>
        simp only [spare, count, held, Pi.sub_apply, oneOf_block, one, Place.block.injEq]
        rw [countAt_release hc]
        omega
    | _ => simp [spare, count, held, one]
  have hlive : ∀ o, (release h.blocks b).2.bind Data.pointer = some o →
      ∃ c, cell? h.objects o = some c := by
    intro o ho
    obtain ⟨data, hdata, hpointer⟩ := Option.bind_eq_some_iff.1 ho
    exact exists_object (count_pos (hnonneg o) (held_of_pointer (content?_of_release hdata) hpointer))
  exact (hfirst.trans (change_gObjectUnref hlive)).congr (by abel)

/-! ### Constructors -/

/-- A constructor leaves the block of the new object, counted for a wrapper that is to hold it. -/
def Made (h : Heap) (made : Heap × BlockId) (δ : Place → Int) : Prop :=
  Change h made.1 (one (.block made.2) + δ)

/-- The variable takes the block over. -/
theorem Made.declare {h : Heap} {made : Heap × BlockId} {δ : Place → Int} (hmade : Made h made δ) :
    Change h (declare made) δ := by
  have hdeclare : Change made.1 (Wrappers.declare made) (-one (.block made.2)) := by
    refine ⟨fun hcounted => ⟨hcounted.objects, hcounted.authorizations, hcounted.blocks,
      hcounted.authorizationBlocks⟩, fun x => ?_⟩
    cases x with
    | block b =>
        simp only [spare, count, held, Wrappers.declare, Pi.neg_apply, one, Place.block.injEq,
          List.count_append, List.count_singleton, beq_iff_eq, Option.some.injEq]
        by_cases hb : b = made.2
        · simp [hb]
          omega
        · simp [hb, Ne.symm hb]
    | _ => simp [spare, count, held, Wrappers.declare, one]
  exact (Change.trans hmade hdeclare).congr (by abel)

theorem content?_newData (h : Heap) (wrapped : Wrapped) :
    content? (newData h wrapped).1.blocks (newData h wrapped).2 = some ⟨wrapped, none⟩ :=
  content?_alloc_self _

theorem content?_receive (h : Heap) (v : Option PolkitObject) (b : BlockId) :
    content? (receive h v).1.blocks b = content? h.blocks b := by
  cases v <;> rfl

theorem objects_setPointer (h : Heap) (b : BlockId) (p : Option ObjectId) :
    (setPointer h b p).objects = h.objects := by
  rw [setPointer]
  split <;> rfl

theorem made_default (h : Heap) (wrapped : Wrapped) : Made h (default h wrapped) 0 :=
  (change_newData h wrapped).congr (add_zero _).symm

/-- The constructors from a pointer keep a reference of their own. -/
theorem made_ofPointer {h : Heap} (wrapped : Wrapped) {p : Option ObjectId}
    (hlive : ∀ o, p = some o → ∃ c, cell? h.objects o = some c) :
    Made h (ofPointer h wrapped p) 0 := by
  have hnew := change_newData h wrapped
  have hset := change_setPointer (content?_newData h wrapped) p
  have href : Change _ _ _ := change_gObjectRef
    (h := setPointer (newData h wrapped).1 (newData h wrapped).2 p) (p := p) (by
      rw [objects_setPointer]
      exact hlive)
  exact ((hnew.trans hset).trans href).congr (by simp only [oneOf]; abel)

section Fresh

variable {h : Heap} {b : BlockId} {wrapped : Wrapped}

theorem pointer_of_fresh (hdata : content? h.blocks b = some ⟨wrapped, none⟩) :
    pointer h b = none := by
  rw [pointer, hdata]
  rfl

/-- On a new block `setSubject` takes a reference over, -/
theorem change_setSubject (hdata : content? h.blocks b = some ⟨wrapped, none⟩)
    (p : Option ObjectId) : Change h (setSubject h b p) (-oneOf p) := by
  rw [setSubject, pointer_of_fresh hdata]
  exact (change_setPointer hdata p).congr (by simp only [oneOf]; abel)

/-- and `setIdentity` adds one. -/
theorem change_setIdentity (hdata : content? h.blocks b = some ⟨wrapped, none⟩)
    {p : Option ObjectId} (hlive : ∀ o, p = some o → ∃ c, cell? h.objects o = some c) :
    Change h (setIdentity h b p) 0 := by
  rw [setIdentity, pointer_of_fresh hdata]
  split
  · exact Change.refl h
  · have hset : Change h (setPointer (gObjectUnref h none) b p) (oneOf none - oneOf p) :=
      change_setPointer hdata p
    have href : Change _ _ _ := change_gObjectRef (h := setPointer (gObjectUnref h none) b p)
      (p := p) (by
        rw [objects_setPointer]
        exact hlive)
    exact (hset.trans href).congr (by simp only [oneOf]; abel)

/-- A null pointer changes nothing. -/
theorem setIdentity_none (hdata : content? h.blocks b = some ⟨wrapped, none⟩) :
    setIdentity h b none = h := by
  rw [setIdentity, pointer_of_fresh hdata, if_pos rfl]

/-- After `setSubject(nullptr)` the block is as good as new. -/
theorem content?_setSubject_none (hdata : content? h.blocks b = some ⟨wrapped, none⟩) :
    content? (setSubject h b none).blocks b = some ⟨wrapped, none⟩ := by
  rw [setSubject, pointer_of_fresh hdata, setPointer, gObjectUnref, hdata]
  exact content?_replace_self hdata _

end Fresh

theorem made_subjectOf (h : Heap) (subject : Option PolkitSubject) :
    Made h (subjectOf h subject) 0 := by
  have hdefault := change_newData h .subject
  have hreceive := change_receive (newData h .subject).1 (subject.map .subject)
  have hset := change_setSubject (h := (receive (newData h .subject).1 (subject.map .subject)).1)
    (b := (newData h .subject).2)
    ((content?_receive _ _ _).trans (content?_newData h .subject))
    (receive (newData h .subject).1 (subject.map .subject)).2
  exact ((hdefault.trans hreceive).trans hset).congr (by abel)

/-- The object behind a new identity has one reference too many. -/
theorem made_identityOf (h : Heap) (identity : Option PolkitIdentity) :
    Made h (identityOf h identity) (oneOf (identity.map fun _ => h.objects.length)) := by
  have hdefault := change_newData h .identity
  have hreceive := change_receive (newData h .identity).1 (identity.map .identity)
  have hset := change_setIdentity
    (h := (receive (newData h .identity).1 (identity.map .identity)).1)
    (b := (newData h .identity).2)
    ((content?_receive _ _ _).trans (content?_newData h .identity))
    (receive_live (newData h .identity).1 (identity.map .identity))
  have hsame : (receive (newData h .identity).1 (identity.map .identity)).2 =
      identity.map fun _ => h.objects.length := by
    cases identity <;> rfl
  have hblock : (identityOf h identity).2 = (newData h .identity).2 := rfl
  rw [hsame] at hreceive
  rw [Made, hblock]
  exact ((hdefault.trans hreceive).trans hset).congr (by abel)

theorem made_identityOf_accept (h : Heap) (accepted : Bool) (identity : PolkitIdentity) :
    Made h (identityOf h (accept accepted identity)) (oneOf (accept accepted h.objects.length)) := by
  cases accepted with
  | true => exact made_identityOf h (some identity)
  | false => exact made_identityOf h none

/-- Dropping a block that was just made, or that is held, needs it to be counted. -/
theorem change_dropBlock_of_count {h : Heap} {b : BlockId} (hcount : 0 < count h (.block b))
    (hnonneg : ∀ o, 0 ≤ spare h (.object o)) : Change h (dropBlock h b) (-one (.block b)) := by
  obtain ⟨c, hc⟩ := exists_block hcount
  exact change_dropBlock hc hnonneg

/-- A reference to a block that was made spare is dropped with the block. -/
theorem Change.dropBlock {h h' : Heap} {b : BlockId} (hc : Change h h' (one (.block b)))
    (hnonneg : ∀ x, 0 ≤ Wrappers.spare h x) : Change h (Wrappers.dropBlock h' b) 0 := by
  have hdrop := change_dropBlock_of_count (count_pos_of_spare (hc.spare_pos hnonneg)) fun o =>
    hc.nonneg hnonneg (one_nonneg _) (.object o)
  exact (hc.trans hdrop).congr (add_neg_cancel _)

theorem made_unixSessionSubjectOfPid (h : Heap) (reply : Except GError PolkitSubject) :
    Made h (unixSessionSubjectOfPid h reply) 0 := by
  cases reply with
  | ok subject => exact made_subjectOf h (some subject)
  | error error =>
      have hfirst := made_subjectOf h none
      have hdata : content? (subjectOf h none).1.blocks (subjectOf h none).2 =
          some ⟨.subject, none⟩ :=
        content?_setSubject_none (content?_newData h .subject)
      have hset := change_setSubject hdata none
      exact (Change.trans hfirst hset).congr (by simp only [oneOf]; abel)

/-- The subject under construction goes, and another one is returned. -/
theorem made_subjectFromString {h : Heap} (hnonneg : ∀ o, 0 ≤ spare h (.object o))
    (hblocks : ∀ b, 0 ≤ spare h (.block b)) (reply : Except GError PolkitSubject) :
    Made h (subjectFromString h reply) 0 := by
  have hdefault := change_newData h .subject
  have hdata := content?_newData h .subject
  cases reply with
  | ok subject =>
      have hreceive := change_receive (newData h .subject).1 (some (.subject subject))
      have hset := change_setPointer ((content?_receive _ (some (.subject subject)) _).trans hdata)
        (receive (newData h .subject).1 (some (.subject subject))).2
      exact ((hdefault.trans hreceive).trans hset).congr (by simp only [oneOf]; abel)
  | error error =>
      have hset := change_setPointer hdata none
      have hagain := change_newData (setPointer (newData h .subject).1 (newData h .subject).2 none)
        .subject
      have hmade := (hdefault.trans hset).trans hagain
      have hspare := hmade.spare (.block (newData h .subject).2)
      have hdrop := change_dropBlock_of_count (b := (newData h .subject).2) (count_pos_of_spare (by
        rw [hspare]
        have hold := hblocks (newData h .subject).2
        have hnew := one_nonneg (.block (newData (setPointer (newData h .subject).1
          (newData h .subject).2 none) .subject).2) (.block (newData h .subject).2)
        simp only [Pi.add_apply, Pi.sub_apply, oneOf_block, one_self]
        omega)) (by
        intro o
        have hold := hnonneg o
        rw [hmade.spare]
        simp only [Pi.add_apply, Pi.sub_apply, oneOf_object, one, reduceCtorEq, if_false]
        simpa using hold)
      exact (hmade.trans hdrop).congr (by simp only [oneOf]; abel)

theorem made_identityForName (h : Heap) (reply : Except GError PolkitIdentity) :
    Made h (identityForName h reply)
      (oneOf (reply.toOption.map fun _ => h.objects.length)) := by
  cases reply with
  | ok identity => exact made_identityOf h (some identity)
  | error error =>
      have hsame : identityForName h (.error error) = default h .identity := by
        have hdata := content?_newData h .identity
        show (setIdentity (setIdentity (newData h .identity).1 (newData h .identity).2 none)
          (newData h .identity).2 none, (newData h .identity).2) = newData h .identity
        rw [setIdentity_none hdata, setIdentity_none hdata]
      rw [hsame]
      exact made_default h .identity

/-- A new object, wrapped by the constructor from a pointer: the reference received stays. -/
theorem made_receive_ofPointer (h : Heap) (v : Option PolkitObject) (wrapped : Wrapped) :
    Made h (ofPointer (receive h v).1 wrapped (receive h v).2)
      (oneOf (v.map fun _ => h.objects.length)) := by
  have hreceive := change_receive h v
  have hmade := made_ofPointer wrapped (receive_live h v)
  have hsame : (receive h v).2 = v.map fun _ => h.objects.length := by
    cases v <;> rfl
  rw [hsame] at hreceive
  exact (hreceive.trans hmade).congr (by abel)

theorem made_identityFromString (h : Heap) (reply : Except GError PolkitIdentity) :
    Made h (identityFromString h reply)
      (oneOf (reply.toOption.map fun _ => h.objects.length)) := by
  cases reply with
  | ok identity => exact made_receive_ofPointer h (some (.identity identity)) .identity
  | error error => exact made_default h .identity

theorem made_systemBusNameUser (h : Heap) (user : Option PolkitIdentity) :
    Made h (systemBusNameUser h user) (oneOf (user.map fun _ => h.objects.length)) := by
  have hmade := made_receive_ofPointer h (user.map .identity) .identity
  rw [Option.map_map] at hmade
  exact hmade

theorem made_detailsNew (h : Heap) : Made h (detailsNew h) 0 := by
  have hnew := change_newData h .details
  have hreceive := change_receive (newData h .details).1 (some (.details []))
  have hset := change_setPointer
    ((content?_receive _ (some (.details [])) _).trans (content?_newData h .details))
    (receive (newData h .details).1 (some (.details []))).2
  exact ((hnew.trans hreceive).trans hset).congr (by simp only [oneOf]; abel)

theorem made_share {h : Heap} {b : BlockId} (hcount : 0 < count h (.block b)) :
    Made h (share h b) 0 := by
  obtain ⟨c, hc⟩ := exists_block hcount
  exact (change_retainBlock hc).congr (add_zero _).symm

/-! ### Temporary authorizations -/

/-- The block of a `TemporaryAuthorization` takes over a block of a `Subject`. -/
theorem change_allocAuthorizationBlock (h : Heap) (data : AuthorizationData) :
    Change h { h with authorizationBlocks := alloc h.authorizationBlocks data }
      (one (.authorizationBlock h.authorizationBlocks.length) - one (.block data.subject)) := by
  refine ⟨fun hcounted => ⟨hcounted.objects, hcounted.authorizations, hcounted.blocks,
    hcounted.authorizationBlocks.alloc _⟩, fun x => ?_⟩
  cases x with
  | block b =>
      simp only [spare, count, held, Pi.sub_apply, one, reduceCtorEq, if_false, Place.block.injEq,
        pointing_alloc, beq_iff_eq]
      by_cases hb : b = data.subject
      · simp [hb]
        omega
      · simp [hb, Ne.symm hb]
  | authorizationBlock b =>
      simp only [spare, count, held, Pi.sub_apply, one, reduceCtorEq, if_false,
        Place.authorizationBlock.injEq]
      rw [countAt_alloc]
      omega
  | _ => simp [spare, count, held, one]

theorem change_replaceAuthorizationBlock {h : Heap} {b : BlockId} {data : AuthorizationData}
    (hdata : content? h.authorizationBlocks b = some data) (data' : AuthorizationData) :
    Change h { h with authorizationBlocks := replace h.authorizationBlocks b data' }
      (one (.block data.subject) - one (.block data'.subject)) := by
  refine ⟨fun hcounted => ⟨hcounted.objects, hcounted.authorizations, hcounted.blocks,
    hcounted.authorizationBlocks.replace _ _⟩, fun x => ?_⟩
  cases x with
  | block b' =>
      have hpointing := pointing_replace hdata data' fun data => data.subject == b'
      simp only [spare, count, held, Pi.sub_apply, one_block]
      cases hold : data.subject == b' <;> cases hnew : data'.subject == b' <;>
        simp [hold, hnew] at hpointing ⊢ <;> omega
  | authorizationBlock b' => simp [spare, count, held, one]
  | _ => simp [spare, count, held, one]

/-- The `Subject` among the data holds its block. -/
theorem held_of_subject {h : Heap} {b : BlockId} {data : AuthorizationData}
    (hdata : content? h.authorizationBlocks b = some data) : 0 < held h (.block data.subject) := by
  have hpos := pointing_pos hdata (p := fun data' => data'.subject == data.subject)
    (beq_self_eq_true _)
  rw [held]
  omega

/-- The block loses a variable; deleted, it drops the block of its `Subject`. -/
theorem change_dropAuthorizationBlock {h : Heap} {b : BlockId} {c : Cell AuthorizationData}
    (hc : cell? h.authorizationBlocks b = some c) (hnonneg : ∀ o, 0 ≤ spare h (.object o))
    (hblocks : ∀ b, 0 ≤ spare h (.block b)) :
    Change h (dropAuthorizationBlock h b) (-one (.authorizationBlock b)) := by
  have hfirst : Change h { h with authorizationBlocks := (release h.authorizationBlocks b).1 }
      (oneOfBlock ((release h.authorizationBlocks b).2.map AuthorizationData.subject) -
        one (.authorizationBlock b)) := by
    refine ⟨fun hcounted => ⟨hcounted.objects, hcounted.authorizations, hcounted.blocks,
      hcounted.authorizationBlocks.release b⟩, fun x => ?_⟩
    cases x with
    | block b' =>
        have hpointing := pointing_release (s := h.authorizationBlocks)
          (fun data => data.subject == b') b
        simp only [spare, count, held, Pi.sub_apply, oneOfBlock_block, one, reduceCtorEq, if_false]
        cases hfreed : (release h.authorizationBlocks b).2 with
        | none =>
            simp [hfreed] at hpointing ⊢
            omega
        | some data =>
            by_cases heq : data.subject = b'
            · simp [hfreed, heq] at hpointing ⊢
              omega
            · simp [hfreed, heq] at hpointing ⊢
              omega
    | authorizationBlock b' =>
        simp only [spare, count, held, Pi.sub_apply, oneOfBlock_authorizationBlock, one,
          Place.authorizationBlock.injEq]
        rw [countAt_release hc]
        omega
    | _ => simp [spare, count, held, one]
  rw [dropAuthorizationBlock]
  cases hfreed : (release h.authorizationBlocks b).2 with
  | none =>
      rw [hfreed] at hfirst
      simp only [hfreed]
      exact hfirst.congr (zero_sub _)
  | some data =>
      rw [hfreed] at hfirst
      simp only [hfreed]
      have hheld := held_of_subject (content?_of_release hfreed)
      have hdrop := change_dropBlock_of_count (b := data.subject)
        (count_pos (h := h) (hblocks data.subject) hheld) (h := { h with
          authorizationBlocks := (release h.authorizationBlocks b).1 }) hnonneg
      exact (hfirst.trans hdrop).congr (by simp only [Option.map_some, oneOfBlock]; abel)

theorem made_temporaryAuthorization (h : Heap) :
    Change h (temporaryAuthorization h).1
      (one (.authorizationBlock (temporaryAuthorization h).2)) := by
  have hdefault := change_newData h .subject
  have halloc := change_allocAuthorizationBlock (newData h .subject).1
    ⟨.null, .null, (newData h .subject).2, none, none⟩
  exact (hdefault.trans halloc).congr (add_sub_cancel _ _)

theorem content?_temporaryAuthorization (h : Heap) :
    ∃ data, content? (temporaryAuthorization h).1.authorizationBlocks (temporaryAuthorization h).2 =
      some data :=
  ⟨_, content?_alloc_self _⟩

theorem change_setAuthorizationData {h : Heap} {b : BlockId} {data : AuthorizationData}
    (hdata : content? h.authorizationBlocks b = some data) (pk : AuthorizationObject) :
    Change h (setAuthorizationData h b pk) 0 := by
  rw [setAuthorizationData, hdata]
  exact (change_replaceAuthorizationBlock hdata _).congr (sub_self _)

theorem content?_setAuthorizationData {h : Heap} {b : BlockId} {data : AuthorizationData}
    (hdata : content? h.authorizationBlocks b = some data) (pk : AuthorizationObject) :
    ∃ data', content? (setAuthorizationData h b pk).authorizationBlocks b = some data' := by
  rw [setAuthorizationData, hdata]
  exact ⟨_, content?_replace_self hdata _⟩

theorem objects_setAuthorizationData (h : Heap) (b : BlockId) (pk : AuthorizationObject) :
    (setAuthorizationData h b pk).objects = h.objects := by
  rw [setAuthorizationData]
  split <;> rfl

theorem authorizationBlocks_ofPointer (h : Heap) (wrapped : Wrapped) (p : Option ObjectId) :
    (ofPointer h wrapped p).1.authorizationBlocks = h.authorizationBlocks := by
  have hset : ∀ h : Heap, ∀ b, (setPointer h b p).authorizationBlocks = h.authorizationBlocks := by
    intro h b
    rw [setPointer]
    split <;> rfl
  cases p with
  | none => exact hset _ _
  | some o => exact hset _ _

/-- The member `subject` lets its old block go and shares the new one. -/
theorem change_assignSubject {h : Heap} {b s : BlockId} {data : AuthorizationData}
    (hdata : content? h.authorizationBlocks b = some data) (hs : 0 < count h (.block s))
    (hnonneg : ∀ x, 0 ≤ spare h x) : Change h (assignSubject h b s) 0 := by
  rw [assignSubject, hdata]
  simp only
  split
  · exact Change.refl h
  · obtain ⟨c, hc⟩ := exists_block hs
    have hretain := change_retainBlock hc
    have hreplace := change_replaceAuthorizationBlock (h := { h with blocks := retain h.blocks s })
      hdata { data with subject := s }
    have hshared := (hretain.trans hreplace).congr
      (ε := one (.block data.subject)) (add_sub_cancel _ _)
    exact hshared.dropBlock hnonneg

/-- The subject of a live authorization is held by it. -/
theorem held_of_authorization {h : Heap} {t : ObjectId} {pk : AuthorizationObject}
    (hpk : content? h.authorizations t = some pk) : 0 < held h (.object pk.subject) := by
  have hpos := pointing_pos hpk (p := fun pk' => pk'.subject == pk.subject) (beq_self_eq_true _)
  rw [held]
  omega

theorem exists_authorization {h : Heap} {t : ObjectId} (hcount : 0 < count h (.authorization t)) :
    ∃ c, cell? h.authorizations t = some c := by
  apply exists_cell?
  rw [count] at hcount
  omega

theorem exists_authorizationBlock {h : Heap} {b : BlockId}
    (hcount : 0 < count h (.authorizationBlock b)) :
    ∃ c, cell? h.authorizationBlocks b = some c := by
  apply exists_cell?
  rw [count] at hcount
  omega

/-- `d->subject = Subject(p)`, the temporary being destroyed: the new block keeps a reference of its
own. -/
theorem change_assignTemporary {h : Heap} {b : BlockId} {data : AuthorizationData}
    (hdata : content? h.authorizationBlocks b = some data) (hnonneg : ∀ x, 0 ≤ spare h x)
    {p : Option ObjectId} (hlive : ∀ o, p = some o → ∃ c, cell? h.objects o = some c) :
    Change h (dropBlock (assignSubject (ofPointer h .subject p).1 b (ofPointer h .subject p).2)
      (ofPointer h .subject p).2) 0 := by
  have hmade : Change h (ofPointer h .subject p).1 (one (.block (ofPointer h .subject p).2)) :=
    Change.congr (made_ofPointer .subject hlive) (add_zero _)
  have hdata' : content? (ofPointer h .subject p).1.authorizationBlocks b = some data := by
    rw [authorizationBlocks_ofPointer]
    exact hdata
  have hassign := change_assignSubject hdata' (count_pos_of_spare (hmade.spare_pos hnonneg))
    (hmade.nonneg hnonneg (one_nonneg _))
  have hassigned := (hmade.trans hassign).congr (add_zero _)
  exact hassigned.dropBlock hnonneg

/-- **The reference that `polkit_temporary_authorization_get_subject` returns stays.**  The one on
the authorization, which the caller hands over, is given back. -/
theorem change_temporaryAuthorizationOfPointer {h : Heap} {t : ObjectId}
    {pk : AuthorizationObject} (hpk : content? h.authorizations t = some pk)
    (hnonneg : ∀ x, 0 ≤ spare h x) (hgiven : 0 < spare h (.authorization t)) :
    Change h (temporaryAuthorizationOfPointer h t pk).1
      (one (.authorizationBlock (temporaryAuthorizationOfPointer h t pk).2) +
        one (.object pk.subject) - one (.authorization t)) := by
  obtain ⟨data, hdata⟩ := content?_temporaryAuthorization h
  obtain ⟨data', hdata'⟩ := content?_setAuthorizationData hdata pk
  have hmade := (made_temporaryAuthorization h).trans (change_setAuthorizationData hdata pk)
  -- `get_subject` returns a reference
  have hobjects : (setAuthorizationData (temporaryAuthorization h).1 (temporaryAuthorization h).2
      pk).objects = h.objects := objects_setAuthorizationData _ _ _
  have hget := hmade.trans (change_gObjectRef (p := some pk.subject) (by
    intro o ho
    obtain rfl := Option.some.inj ho
    rw [hobjects]
    exact exists_object (count_pos (hnonneg _) (held_of_authorization hpk))))
  have hnonneg' := hget.nonneg hnonneg (by
    intro x
    have hblock := one_nonneg (.authorizationBlock (temporaryAuthorization h).2) x
    have hobject := oneOf_nonneg (some pk.subject) x
    simp only [Pi.add_apply, Pi.zero_apply]
    omega)
  -- the new `Subject` takes one of its own, and the data share its block
  have hassign := hget.trans (change_assignTemporary (h := gObjectRef (setAuthorizationData
    (temporaryAuthorization h).1 (temporaryAuthorization h).2 pk) (some pk.subject))
    (p := some pk.subject) hdata' hnonneg' (by
    intro o ho
    obtain rfl := Option.some.inj ho
    apply exists_object
    apply count_pos_of_spare
    have hold := hnonneg (.object pk.subject)
    rw [hget.spare]
    simp [oneOf, one]
    omega))
  have hdelta : one (.authorizationBlock (temporaryAuthorization h).2) + 0 +
      oneOf (some pk.subject) + 0 = one (.authorizationBlock (temporaryAuthorization h).2) +
        one (.object pk.subject) := by
    simp only [oneOf]
    abel
  have hchange := hassign.congr hdelta
  obtain ⟨c, hc⟩ := exists_authorization (count_pos_of_spare (x := .authorization t) (by
    rw [hchange.spare]
    simpa [one] using hgiven))
  have hunref := change_gObjectUnrefAuthorization hc (by
    intro o
    refine hchange.nonneg hnonneg (fun x => ?_) (.object o)
    exact add_nonneg (one_nonneg _ x) (one_nonneg _ x))
  simp only [temporaryAuthorizationOfPointer]
  exact (hchange.trans hunref).congr (sub_eq_add_neg _ _).symm

end Wrappers

end PolkitQt
