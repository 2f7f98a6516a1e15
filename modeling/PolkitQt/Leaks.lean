/-
**What a program leaks, and that it releases nothing in use.**

No event makes a reference go missing: the objects that wrappers point to, and those the caller
owns, are counted for it in every state a program reaches.  But some constructors leave a reference
on an object that nobody will give back, and a program is free of leaks exactly as long as it calls
none of them.

Main definitions:

* `PolkitQt.Wrappers.leaked?` — the object on which a call leaves a spare reference;
* `PolkitQt.Wrappers.NoLeak` — no cell is counted beyond the references that are owned to it.

Main results:

* `PolkitQt.Wrappers.change_step` — **every event adds its leak and changes nothing else**;
* `PolkitQt.Wrappers.held_le_count_run` — over every run of a program, what is held is counted;
* `PolkitQt.Wrappers.always_noLeak_iff` — nothing is leaked exactly as long as no call leaks.
-/

import PolkitQt.Runs
import PolkitQt.Ownership

set_option relaxedAutoImplicit false
set_option autoImplicit false

namespace PolkitQt

namespace Wrappers

open Runs RefCount

/-! ### Variables and the caller -/

theorem wrapper?_eq_some {h : Heap} {i : Nat} {b : BlockId} (hi : h.wrapper? i = some b) :
    h.wrappers[i]? = some (some b) := by
  rwa [Heap.wrapper?, Option.join_eq_some_iff] at hi

theorem authorizationWrapper?_eq_some {h : Heap} {i : Nat} {b : BlockId}
    (hi : h.authorizationWrapper? i = some b) : h.authorizationWrappers[i]? = some (some b) := by
  rwa [Heap.authorizationWrapper?, Option.join_eq_some_iff] at hi

/-- A variable holds its block. -/
theorem held_of_wrapper {h : Heap} {i : Nat} {b : BlockId} (hi : h.wrapper? i = some b) :
    0 < held h (.block b) := by
  have hpos := List.count_pos_iff.2 (List.mem_of_getElem? (wrapper?_eq_some hi))
  rw [held]
  omega

theorem held_of_authorizationWrapper {h : Heap} {i : Nat} {b : BlockId}
    (hi : h.authorizationWrapper? i = some b) : 0 < held h (.authorizationBlock b) :=
  List.count_pos_iff.2 (List.mem_of_getElem? (authorizationWrapper?_eq_some hi))

/-- What overwriting an element does to the number of its equals. -/
theorem count_set_add {l : List (Option BlockId)} {i : Nat} {a : Option BlockId}
    (h : l[i]? = some a) (a' x : Option BlockId) :
    (l.set i a').count x + (if a == x then 1 else 0) = l.count x + if a' == x then 1 else 0 := by
  obtain ⟨hlt, hget⟩ := List.getElem?_eq_some_iff.1 h
  rw [List.count_set hlt, hget]
  cases hax : a == x with
  | true =>
      have hpos : 0 < l.count x := by
        rw [List.count_pos_iff, ← eq_of_beq hax, ← hget]
        exact List.getElem_mem hlt
      simp
      omega
  | false => simp

/-- One reference to the block of a `TemporaryAuthorization`. -/
def oneOfAuthorizationBlock : Option BlockId → Place → Int
  | none => 0
  | some b => one (.authorizationBlock b)

theorem one_authorizationBlock (b b' : BlockId) :
    one (.authorizationBlock b) (.authorizationBlock b') = if (b == b') = true then 1 else 0 := by
  simp only [one, Place.authorizationBlock.injEq, beq_iff_eq]
  exact if_congr eq_comm rfl rfl

theorem oneOfAuthorizationBlock_authorizationBlock (p : Option BlockId) (b : BlockId) :
    oneOfAuthorizationBlock p (.authorizationBlock b) = if (p == some b) = true then 1 else 0 := by
  cases p with
  | none => rfl
  | some b' =>
      simp only [oneOfAuthorizationBlock, one_authorizationBlock, beq_iff_eq, Option.some.injEq]

/-- A variable lets its block go for another one, or is destroyed. -/
theorem change_setWrapper {h : Heap} {i : Nat} {b : BlockId} (hi : h.wrapper? i = some b)
    (x : Option BlockId) :
    Change h { h with wrappers := h.wrappers.set i x } (one (.block b) - oneOfBlock x) := by
  refine ⟨fun hcounted => ⟨hcounted.objects, hcounted.authorizations, hcounted.blocks,
    hcounted.authorizationBlocks⟩, fun y => ?_⟩
  cases y with
  | block b' =>
      have hcount := count_set_add (wrapper?_eq_some hi) x (some b')
      simp only [spare, count, held, Pi.sub_apply, oneOfBlock_block, one_block]
      cases hb : b == b' <;> cases hx : x == some b' <;> simp [hb, hx] at hcount ⊢ <;> omega
  | _ => simp [spare, count, held, one]

theorem change_setAuthorizationWrapper {h : Heap} {i : Nat} {b : BlockId}
    (hi : h.authorizationWrapper? i = some b) (x : Option BlockId) :
    Change h { h with authorizationWrappers := h.authorizationWrappers.set i x }
      (one (.authorizationBlock b) - oneOfAuthorizationBlock x) := by
  refine ⟨fun hcounted => ⟨hcounted.objects, hcounted.authorizations, hcounted.blocks,
    hcounted.authorizationBlocks⟩, fun y => ?_⟩
  cases y with
  | authorizationBlock b' =>
      have hcount := count_set_add (authorizationWrapper?_eq_some hi) x (some b')
      simp only [spare, count, held, Pi.sub_apply, oneOfAuthorizationBlock_authorizationBlock,
        one_authorizationBlock]
      cases hb : b == b' <;> cases hx : x == some b' <;> simp [hb, hx] at hcount ⊢ <;> omega
  | _ => cases x <;> simp [spare, count, held, oneOfAuthorizationBlock, one]

theorem change_assign {h : Heap} {i : Nat} {b c : BlockId} (hi : h.wrapper? i = some b)
    (hc : 0 < count h (.block c)) (hnonneg : ∀ x, 0 ≤ spare h x) :
    Change h (assign h i b c) 0 := by
  rw [assign]
  split
  · exact Change.refl h
  · obtain ⟨cell, hcell⟩ := exists_block hc
    have hretain := change_retainBlock hcell
    have hset := change_setWrapper (h := { h with blocks := retain h.blocks c }) hi (some c)
    have hshared := (hretain.trans hset).congr (ε := one (.block b)) (add_sub_cancel _ _)
    exact hshared.dropBlock hnonneg

theorem change_destroy {h : Heap} {i : Nat} {b : BlockId} (hi : h.wrapper? i = some b)
    (hnonneg : ∀ x, 0 ≤ spare h x) :
    Change h (dropBlock { h with wrappers := h.wrappers.set i none } b) 0 := by
  have hset := (change_setWrapper hi none).congr (ε := one (.block b)) (sub_zero _)
  exact hset.dropBlock hnonneg

theorem change_retainAuthorizationBlock {h : Heap} {b : BlockId}
    (hcount : 0 < count h (.authorizationBlock b)) :
    Change h { h with authorizationBlocks := retain h.authorizationBlocks b }
      (one (.authorizationBlock b)) := by
  obtain ⟨c, hc⟩ := exists_authorizationBlock hcount
  refine ⟨fun hcounted => ⟨hcounted.objects, hcounted.authorizations, hcounted.blocks,
    hcounted.authorizationBlocks.retain b⟩, fun x => ?_⟩
  cases x with
  | authorizationBlock b' =>
      simp only [spare, count, held, one, Place.authorizationBlock.injEq]
      rw [countAt_retain hc]
      omega
  | _ => simp [spare, count, held, one]

/-- A variable takes the block of a `TemporaryAuthorization` over. -/
theorem change_declareAuthorization (made : Heap × BlockId) :
    Change made.1 (declareAuthorization made) (-one (.authorizationBlock made.2)) := by
  refine ⟨fun hcounted => ⟨hcounted.objects, hcounted.authorizations, hcounted.blocks,
    hcounted.authorizationBlocks⟩, fun x => ?_⟩
  cases x with
  | authorizationBlock b =>
      simp only [spare, count, held, declareAuthorization, Pi.neg_apply, one_authorizationBlock,
        List.count_append, List.count_singleton]
      cases hb : made.2 == b with
      | true =>
          simp [hb]
          omega
      | false => simp [hb]
  | _ => simp [spare, count, held, declareAuthorization, one]

theorem Change.dropAuthorizationBlock {h h' : Heap} {b : BlockId}
    (hc : Change h h' (one (.authorizationBlock b))) (hnonneg : ∀ x, 0 ≤ Wrappers.spare h x) :
    Change h (Wrappers.dropAuthorizationBlock h' b) 0 := by
  obtain ⟨c, hcell⟩ := exists_authorizationBlock (count_pos_of_spare (hc.spare_pos hnonneg))
  have hnonneg' := hc.nonneg hnonneg (one_nonneg _)
  have hdrop := change_dropAuthorizationBlock hcell (fun o => hnonneg' _) fun b => hnonneg' _
  exact (hc.trans hdrop).congr (add_neg_cancel _)

theorem change_assignAuthorization {h : Heap} {i : Nat} {b c : BlockId}
    (hi : h.authorizationWrapper? i = some b) (hc : 0 < count h (.authorizationBlock c))
    (hnonneg : ∀ x, 0 ≤ spare h x) : Change h (assignAuthorization h i b c) 0 := by
  rw [assignAuthorization]
  split
  · exact Change.refl h
  · have hretain := change_retainAuthorizationBlock hc
    have hset := change_setAuthorizationWrapper
      (h := { h with authorizationBlocks := retain h.authorizationBlocks c }) hi (some c)
    have hshared := (hretain.trans hset).congr (ε := one (.authorizationBlock b))
      (add_sub_cancel _ _)
    exact hshared.dropAuthorizationBlock hnonneg

theorem change_destroyAuthorization {h : Heap} {i : Nat} {b : BlockId}
    (hi : h.authorizationWrapper? i = some b) (hnonneg : ∀ x, 0 ≤ spare h x) :
    Change h (dropAuthorizationBlock
      { h with authorizationWrappers := h.authorizationWrappers.set i none } b) 0 := by
  have hset := (change_setAuthorizationWrapper hi none).congr
    (ε := one (.authorizationBlock b)) (sub_zero _)
  exact hset.dropAuthorizationBlock hnonneg

/-- The caller is given a reference, -/
theorem change_own (h : Heap) (o : ObjectId) :
    Change h { h with owned := o :: h.owned } (-one (.object o)) := by
  refine ⟨fun hcounted => ⟨hcounted.objects, hcounted.authorizations, hcounted.blocks,
    hcounted.authorizationBlocks⟩, fun x => ?_⟩
  cases x with
  | object o' =>
      simp only [spare, count, held, Pi.neg_apply, one, Place.object.injEq, List.count_cons,
        beq_iff_eq]
      by_cases ho : o = o'
      · simp [ho]
        omega
      · simp [ho, Ne.symm ho]
  | _ => simp [spare, count, held, one]

/-- or gives one up. -/
theorem change_disown {h : Heap} {o : ObjectId} (ho : o ∈ h.owned) :
    Change h { h with owned := h.owned.erase o } (one (.object o)) := by
  refine ⟨fun hcounted => ⟨hcounted.objects, hcounted.authorizations, hcounted.blocks,
    hcounted.authorizationBlocks⟩, fun x => ?_⟩
  cases x with
  | object o' =>
      have hpos := List.count_pos_iff.2 ho
      simp only [spare, count, held, one, Place.object.injEq, List.count_erase, beq_iff_eq]
      by_cases heq : o = o'
      · subst heq
        simp
        omega
      · simp [heq, Ne.symm heq]
  | _ => simp [spare, count, held, one]

theorem change_ownAuthorization (h : Heap) (t : ObjectId) :
    Change h { h with ownedAuthorizations := t :: h.ownedAuthorizations }
      (-one (.authorization t)) := by
  refine ⟨fun hcounted => ⟨hcounted.objects, hcounted.authorizations, hcounted.blocks,
    hcounted.authorizationBlocks⟩, fun x => ?_⟩
  cases x with
  | authorization t' =>
      simp only [spare, count, held, Pi.neg_apply, one, Place.authorization.injEq, List.count_cons,
        beq_iff_eq]
      by_cases ht : t = t'
      · simp [ht]
        omega
      · simp [ht, Ne.symm ht]
  | _ => simp [spare, count, held, one]

theorem change_disownAuthorization {h : Heap} {t : ObjectId} (ht : t ∈ h.ownedAuthorizations) :
    Change h { h with ownedAuthorizations := h.ownedAuthorizations.erase t }
      (one (.authorization t)) := by
  refine ⟨fun hcounted => ⟨hcounted.objects, hcounted.authorizations, hcounted.blocks,
    hcounted.authorizationBlocks⟩, fun x => ?_⟩
  cases x with
  | authorization t' =>
      have hpos := List.count_pos_iff.2 ht
      simp only [spare, count, held, one, Place.authorization.injEq, List.count_erase, beq_iff_eq]
      by_cases heq : t = t'
      · subst heq
        simp
        omega
      · simp [heq, Ne.symm heq]
  | _ => simp [spare, count, held, one]

theorem change_obtain (h : Heap) (v : PolkitObject) : Change h (step h (.obtain v)) 0 := by
  have hreceive := change_receive h (some v)
  have hown := change_own (receive h (some v)).1 h.objects.length
  exact (hreceive.trans hown).congr (add_neg_cancel _)

/-- The new authorization takes over a reference on its subject. -/
theorem change_allocAuthorization (h : Heap) (pk : AuthorizationObject) :
    Change h { h with authorizations := alloc h.authorizations pk }
      (one (.authorization h.authorizations.length) - oneOf (some pk.subject)) := by
  refine ⟨fun hcounted => ⟨hcounted.objects, hcounted.authorizations.alloc _, hcounted.blocks,
    hcounted.authorizationBlocks⟩, fun x => ?_⟩
  cases x with
  | object o =>
      simp only [spare, count, held, Pi.sub_apply, oneOf_object, pointing_alloc]
      cases ho : pk.subject == o with
      | true =>
          simp [one, eq_of_beq ho]
          omega
      | false =>
          have hne : ¬ pk.subject = o := fun heq => by simp [heq] at ho
          simp [one, hne]
  | authorization t =>
      simp only [spare, count, held, Pi.sub_apply, oneOf_authorization, one,
        Place.authorization.injEq]
      rw [countAt_alloc]
      omega
  | _ => simp [spare, count, held, one]

theorem change_obtainAuthorization (h : Heap) (id actionId : Bytes) (subject : PolkitSubject)
    (timeObtained timeExpires : UInt64) :
    Change h (step h (.obtainAuthorization id actionId subject timeObtained timeExpires)) 0 := by
  have hreceive := change_receive h (some (.subject subject))
  have halloc := change_allocAuthorization (receive h (some (.subject subject))).1
    ⟨id, actionId, h.objects.length, timeObtained, timeExpires⟩
  have hown := change_ownAuthorization { (receive h (some (.subject subject))).1 with
    authorizations := alloc h.authorizations
      ⟨id, actionId, h.objects.length, timeObtained, timeExpires⟩ } h.authorizations.length
  refine ((hreceive.trans halloc).trans hown).congr ?_
  simp only [receive]
  abel

theorem change_refAuthorization {h : Heap} {t : ObjectId} {c : Cell AuthorizationObject}
    (hc : cell? h.authorizations t = some c) :
    Change h { h with
      authorizations := retain h.authorizations t
      ownedAuthorizations := t :: h.ownedAuthorizations } 0 := by
  have hretain : Change h { h with authorizations := retain h.authorizations t }
      (one (.authorization t)) := by
    refine ⟨fun hcounted => ⟨hcounted.objects, hcounted.authorizations.retain t, hcounted.blocks,
      hcounted.authorizationBlocks⟩, fun x => ?_⟩
    cases x with
    | authorization t' =>
        simp only [spare, count, held, one, Place.authorization.injEq]
        rw [countAt_retain hc]
        omega
    | _ => simp [spare, count, held, one]
  have hown := change_ownAuthorization { h with authorizations := retain h.authorizations t } t
  exact (hretain.trans hown).congr (add_neg_cancel _)

/-! ### Events -/

/-- The object on which a call leaves a spare reference. -/
def leaked? (h : Heap) : Event → Option ObjectId
  | .unixUserIdentity _ accepted | .unixGroupIdentity _ accepted =>
      accept accepted h.objects.length
  | .identityForName reply | .identityFromString reply =>
      reply.toOption.map fun _ => h.objects.length
  | .systemBusNameUser i user => (userOf h i user).map fun _ => h.objects.length
  | .temporaryAuthorizationOfPointer t =>
      if t ∈ h.ownedAuthorizations then
        (content? h.authorizations t).map AuthorizationObject.subject
      else none
  | _ => none

theorem live_of_valid {h : Heap} {wrapped : Wrapped} {p : Option ObjectId}
    (hvalid : h.Valid wrapped p) (o : ObjectId) (ho : p = some o) :
    ∃ c, cell? h.objects o = some c := by
  subst ho
  rw [Heap.Valid, content?] at hvalid
  cases hc : cell? h.objects o with
  | none => simp [hc] at hvalid
  | some c => exact ⟨c, rfl⟩

/-- A constructor from a `PolkitTemporaryAuthorization` takes the caller's reference, and leaves
one on the subject. -/
theorem change_step_temporaryAuthorizationOfPointer {h : Heap} {t : ObjectId}
    (ht : t ∈ h.ownedAuthorizations) {pk : AuthorizationObject}
    (hpk : content? h.authorizations t = some pk) (hnonneg : ∀ x, 0 ≤ spare h x) :
    Change h (declareAuthorization (temporaryAuthorizationOfPointer
      { h with ownedAuthorizations := h.ownedAuthorizations.erase t } t pk))
      (oneOf (some pk.subject)) := by
  have hdisown := change_disownAuthorization ht
  have hmade := change_temporaryAuthorizationOfPointer
    (h := { h with ownedAuthorizations := h.ownedAuthorizations.erase t }) hpk
    (hdisown.nonneg hnonneg (one_nonneg _)) (hdisown.spare_pos hnonneg)
  have hdeclare := change_declareAuthorization (temporaryAuthorizationOfPointer
    { h with ownedAuthorizations := h.ownedAuthorizations.erase t } t pk)
  refine ((hdisown.trans hmade).trans hdeclare).congr ?_
  simp only [oneOf]
  abel

/-- **Every event adds its leak to the spare references, and nothing else.** -/
theorem change_step {h : Heap} (hsound : Sound h) (e : Event) :
    Change h (step h e) (oneOf (leaked? h e)) := by
  have hnonneg := hsound.nonneg
  cases e with
  | obtain v => exact change_obtain h v
  | obtainAuthorization id actionId subject timeObtained timeExpires =>
      exact change_obtainAuthorization h id actionId subject timeObtained timeExpires
  | ref o =>
      simp only [step]
      split
      · exact Change.refl h
      · next c hc =>
          have href := change_gObjectRef (p := some o) (fun o' ho => ⟨c, Option.some.inj ho ▸ hc⟩)
          have hown := change_own (gObjectRef h (some o)) o
          exact (href.trans hown).congr (add_neg_cancel _)
  | unref o =>
      simp only [step]
      split
      · next ho =>
          have hdisown := change_disown ho
          have hunref := change_gObjectUnref (h := { h with owned := h.owned.erase o })
            (p := some o) (by
              intro o' ho'
              obtain rfl := Option.some.inj ho'
              exact exists_object (count_pos_of_spare (hdisown.spare_pos hnonneg)))
          exact (hdisown.trans hunref).congr (add_neg_cancel _)
      · exact Change.refl h
  | refAuthorization t =>
      simp only [step]
      split
      · exact Change.refl h
      · next c hc => exact change_refAuthorization hc
  | unrefAuthorization t =>
      simp only [step]
      split
      · next ht =>
          have hdisown := change_disownAuthorization ht
          obtain ⟨c, hc⟩ := exists_authorization (count_pos_of_spare (hdisown.spare_pos hnonneg))
          have hunref := change_gObjectUnrefAuthorization hc fun o =>
            hdisown.nonneg hnonneg (one_nonneg _) (.object o)
          exact (hdisown.trans hunref).congr (add_neg_cancel _)
      · exact Change.refl h
  | default wrapped => exact (made_default h wrapped).declare
  | ofPointer wrapped p =>
      simp only [step]
      split
      · next hvalid => exact (made_ofPointer wrapped (live_of_valid hvalid)).declare
      · exact Change.refl h
  | unixProcessSubject pid => exact (made_subjectOf h _).declare
  | unixProcessSubjectWithStartTime pid startTime => exact (made_subjectOf h _).declare
  | systemBusNameSubject name accepted => exact (made_subjectOf h _).declare
  | unixSessionSubject sessionId accepted => exact (made_subjectOf h _).declare
  | unixSessionSubjectOfPid reply => exact (made_unixSessionSubjectOfPid h reply).declare
  | subjectFromString reply =>
      exact (made_subjectFromString (fun o => hnonneg _) (fun b => hnonneg _) reply).declare
  | unixUserIdentity uid accepted => exact (made_identityOf_accept h accepted _).declare
  | unixGroupIdentity gid accepted => exact (made_identityOf_accept h accepted _).declare
  | identityForName reply => exact (made_identityForName h reply).declare
  | identityFromString reply => exact (made_identityFromString h reply).declare
  | systemBusNameUser i user => exact (made_systemBusNameUser h _).declare
  | details => exact (made_detailsNew h).declare
  | temporaryAuthorization =>
      have hmade := made_temporaryAuthorization h
      have hdeclare := change_declareAuthorization (temporaryAuthorization h)
      exact (hmade.trans hdeclare).congr (add_neg_cancel _)
  | temporaryAuthorizationOfPointer t =>
      simp only [step, leaked?]
      split
      · next ht =>
          split
          · next hpk =>
              rw [hpk]
              exact Change.refl h
          · next pk hpk =>
              rw [hpk]
              exact change_step_temporaryAuthorizationOfPointer ht hpk hnonneg
      · exact Change.refl h
  | subject i =>
      simp only [step]
      split
      · exact Change.refl h
      · next data hdata =>
          obtain ⟨b, -, hdata⟩ := Option.bind_eq_some_iff.1 hdata
          exact (made_share (count_pos (hnonneg _) (held_of_subject hdata))).declare
  | copy i =>
      simp only [step]
      split
      · exact Change.refl h
      · next b hi => exact (made_share (count_pos (hnonneg _) (held_of_wrapper hi))).declare
  | assign i j =>
      simp only [step]
      split
      · next b c hi hj =>
          split
          · exact change_assign hi (count_pos (hnonneg _) (held_of_wrapper hj)) hnonneg
          · exact Change.refl h
      · exact Change.refl h
  | destroy i =>
      simp only [step]
      split
      · exact Change.refl h
      · next b hi => exact change_destroy hi hnonneg
  | copyAuthorization i =>
      simp only [step]
      split
      · exact Change.refl h
      · next b hi =>
          have hretain := change_retainAuthorizationBlock
            (count_pos (hnonneg _) (held_of_authorizationWrapper hi))
          have hdeclare := change_declareAuthorization
            ({ h with authorizationBlocks := retain h.authorizationBlocks b }, b)
          exact (hretain.trans hdeclare).congr (add_neg_cancel _)
  | assignAuthorization i j =>
      simp only [step]
      split
      · next b c hi hj =>
          exact change_assignAuthorization hi
            (count_pos (hnonneg _) (held_of_authorizationWrapper hj)) hnonneg
      · exact Change.refl h
  | destroyAuthorization i =>
      simp only [step]
      split
      · exact Change.refl h
      · next b hi => exact change_destroyAuthorization hi hnonneg

theorem sound_step {h : Heap} (hsound : Sound h) (e : Event) : Sound (step h e) := by
  have hchange := change_step hsound e
  refine ⟨hchange.counted hsound.counted, hchange.nonneg hsound.nonneg (oneOf_nonneg _), ?_⟩
  intro x hx
  rw [hchange.spare, hsound.zero x hx]
  cases x with
  | object o => exact absurd rfl (hx o)
  | _ => simp

theorem sound_empty : Sound Heap.empty := by
  refine ⟨⟨Positive.nil, Positive.nil, Positive.nil, Positive.nil⟩, ?_, ?_⟩
  · intro x
    cases x <;> exact Int.le_refl 0
  · intro x _
    cases x <;> rfl

/-! ### Nothing in use is released -/

/-- What holds between any two calls of a program. -/
theorem sound_run (es : List Event) : Sound (run step Heap.empty es) :=
  run_inv (I := Sound) (fun _ e hsound => sound_step hsound e) sound_empty es

/-- What is held, with nothing missing, has a content. -/
theorem exists_content_block {h : Heap} (hsound : Sound h) {b : BlockId}
    (hheld : 0 < held h (.block b)) : ∃ data, content? h.blocks b = some data := by
  obtain ⟨c, hc⟩ := exists_block (count_pos (hsound.nonneg _) hheld)
  exact ⟨c.content, by rw [content?, hc, Option.map_some]⟩

theorem exists_content_object {h : Heap} (hsound : Sound h) {o : ObjectId}
    (hheld : 0 < held h (.object o)) : ∃ v, content? h.objects o = some v := by
  obtain ⟨c, hc⟩ := exists_object (count_pos (hsound.nonneg _) hheld)
  exact ⟨c.content, by rw [content?, hc, Option.map_some]⟩

/-- **Nothing is released while it is in use.**  In every state a program reaches, each object is
counted at least once for each block that points to it, each object that owns it and each reference
of the caller's; every wrapper has its block, and every block its object. -/
theorem held_le_count_run (es : List Event) :
    (∀ x, (held (run step Heap.empty es) x : Int) ≤ count (run step Heap.empty es) x) ∧
    (∀ i b, (run step Heap.empty es).wrapper? i = some b →
      ∃ data, content? (run step Heap.empty es).blocks b = some data) ∧
    (∀ b data o, content? (run step Heap.empty es).blocks b = some data → data.pointer = some o →
      ∃ v, content? (run step Heap.empty es).objects o = some v) := by
  have hsound := sound_run es
  refine ⟨?_, ?_, ?_⟩
  · intro x
    have hnonneg := hsound.nonneg x
    rw [spare] at hnonneg
    omega
  · intro i b hi
    exact exists_content_block hsound (held_of_wrapper hi)
  · intro b data o hdata hpointer
    exact exists_content_object hsound (held_of_pointer hdata hpointer)

/-! ### Leaks -/

/-- Nothing is counted beyond the references that are owned to it. -/
def NoLeak (h : Heap) : Prop := ∀ x, count h x ≤ held h x

/-- Every variable is destroyed. -/
def Heap.Unwrapped (h : Heap) : Prop :=
  (∀ w ∈ h.wrappers, w = none) ∧ ∀ w ∈ h.authorizationWrappers, w = none

instance (h : Heap) : Decidable h.Unwrapped := inferInstanceAs (Decidable (_ ∧ _))

theorem noLeak_iff {h : Heap} (hsound : Sound h) : NoLeak h ↔ ∀ o, spare h (.object o) = 0 := by
  constructor
  · intro hleak o
    have hnonneg := hsound.nonneg (.object o)
    have hle := hleak (.object o)
    rw [spare] at hnonneg ⊢
    omega
  · intro hspare x
    have hzero : spare h x = 0 := by
      cases x with
      | object o => exact hspare o
      | _ => exact hsound.zero _ fun o => by simp
    rw [spare] at hzero
    omega

/-- A step keeps leaks away exactly when it leaves no reference. -/
theorem noLeak_step_iff {h : Heap} (hsound : Sound h) (hleak : NoLeak h) (e : Event) :
    NoLeak (step h e) ↔ leaked? h e = none := by
  have hchange := change_step hsound e
  have hspare := (noLeak_iff hsound).1 hleak
  rw [noLeak_iff (sound_step hsound e)]
  cases hleaked : leaked? h e with
  | none =>
      refine iff_of_true (fun o => ?_) rfl
      rw [hchange.spare, hspare, hleaked, oneOf]
      rfl
  | some o =>
      refine iff_of_false (fun hzero => ?_) (by simp)
      have hone := hzero o
      rw [hchange.spare, hspare, hleaked, oneOf, one_self] at hone
      omega

/-- Without a leak, nothing outlives the wrappers but what somebody else owns. -/
theorem released_of_noLeak {h : Heap} (hsound : Sound h) (hleak : NoLeak h)
    (hunwrapped : h.Unwrapped) {o : ObjectId} (howned : o ∉ h.owned)
    (hsubject : pointing (fun pk => pk.subject == o) h.authorizations = 0) :
    cell? h.objects o = none := by
  have hauthorizationBlock : ∀ b, countAt h.authorizationBlocks b ≤ 0 := by
    intro b
    have hle := hleak (.authorizationBlock b)
    have hzero : h.authorizationWrappers.count (some b) = 0 :=
      List.count_eq_zero.2 fun hb => by simpa using hunwrapped.2 _ hb
    rw [count, held, hzero] at hle
    exact hle
  have hblock : ∀ b, countAt h.blocks b ≤ 0 := by
    intro b
    have hle := hleak (.block b)
    have hzero : h.wrappers.count (some b) = 0 :=
      List.count_eq_zero.2 fun hb => by simpa using hunwrapped.1 _ hb
    -- no temporary authorization is left to hold a subject
    have hnone := hsound.counted.authorizationBlocks.pointing_eq_zero hauthorizationBlock
      (fun data => data.subject == b)
    rw [count, held, hzero, hnone] at hle
    exact hle
  have hpointer := hsound.counted.blocks.pointing_eq_zero hblock
    (fun data => data.pointer == some o)
  have hle := hleak (.object o)
  refine hsound.counted.objects.eq_none ?_
  rw [count, held, hpointer, hsubject, List.count_eq_zero.2 howned] at hle
  exact hle

theorem noLeak_empty : NoLeak Heap.empty := by
  intro x
  cases x <;> exact Int.le_refl 0

/-- **Leaks come from the constructors that leave a reference, and from nothing else.**  Nothing is
leaked all along a run exactly as long as it calls none of them; and then, once every variable is
destroyed, nothing is left but what the caller or another object owns. -/
theorem always_noLeak_iff (es : List Event) :
    (Always step NoLeak Heap.empty es ↔
      EachStep step (fun h e => leaked? h e = none) Heap.empty es) ∧
    (Always step NoLeak Heap.empty es → (run step Heap.empty es).Unwrapped →
      ∀ o, o ∉ (run step Heap.empty es).owned →
        pointing (fun pk => pk.subject == o) (run step Heap.empty es).authorizations = 0 →
          cell? (run step Heap.empty es).objects o = none) := by
  constructor
  · exact always_iff_eachStep (I := Sound) (P := NoLeak) (fun _ e hsound => sound_step hsound e)
      (fun _ e hsound hleak => noLeak_step_iff hsound hleak e) sound_empty noLeak_empty es
  · intro hleak hunwrapped o howned hsubject
    exact released_of_noLeak (sound_run es) hleak.last hunwrapped howned hsubject

/-- A `UnixUserIdentity` is made for root and destroyed.  The reference that polkit handed over is
counted still, and the object stays. -/
theorem unixUserIdentity_leaks :
    ¬ Always step NoLeak Heap.empty [.unixUserIdentity 0 true, .destroy 0] ∧
      (run step Heap.empty [.unixUserIdentity 0 true, .destroy 0]).Unwrapped ∧
      (run step Heap.empty [.unixUserIdentity 0 true, .destroy 0]).owned = [] ∧
      cell? (run step Heap.empty [.unixUserIdentity 0 true, .destroy 0]).objects 0 =
        some ⟨1, .identity (.unixUser 0)⟩ := by
  refine ⟨fun hleak => ?_, by decide, rfl, rfl⟩
  have hle := hleak.last (.object 0)
  revert hle
  decide

end Wrappers

end PolkitQt
