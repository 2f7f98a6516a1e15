/-
**A change of configuration, as it reaches the actions of a desktop one after the other.**

The authority announces a change once, and every action then asks for its own authorization.  What
an action is told depends on its id and its target process only — unless an error is latched: from
the first check that fails on, every action is refused, whatever polkit would answer.

Main definitions:

* `PolkitQt.Gui.Backend` — the fixed answers of polkit;
* `PolkitQt.Gui.configChange` — one change of configuration, delivered in a given order;
* `PolkitQt.Gui.OrderIndependent` — any two orders leave every action with the same result and the
  same appearance.

Main results:

* `PolkitQt.Gui.Action.configChanged_settle` — what an action is after the change;
* `PolkitQt.Gui.orderIndependent_iff` — the order does not matter exactly when polkit answers every
  action or none.
-/

import PolkitQt.ActionVerdict
import PolkitQt.Broadcast

set_option relaxedAutoImplicit false
set_option autoImplicit false

namespace PolkitQt

namespace Gui

open Runs Broadcast

/-! ### One action -/

namespace Action

/-- What a user sees of an action, and its result. -/
def view (a : Action) : Result × Shown := (a.d.pkResult, a.base.shown)

/-- An action whose check has this result after a change of configuration. -/
def settle (a : Action) (v : Result) : Action :=
  let a' := { a with d := { a.d with pkResult := v } }
  if a.d.pkResult = v then a else if v = .unknown then a' else (updateAction false a').1

@[simp] theorem pkResult_settle (a : Action) (v : Result) : (a.settle v).d.pkResult = v := by
  simp only [settle]
  split
  · assumption
  · split
    · rfl
    · rw [updateAction_d]

variable (applicationPid : Int64) (authority : Authority.System) (a : Action)
  (reply : Reply .checkAuthorization)

/-- An error is latched after a change of configuration exactly if the check has no result. -/
theorem configChanged_hasError :
    (configChanged applicationPid authority a reply).authority.d.hasError = true ↔
      (if authority.d.hasError then Result.unknown else verdict reply) = .unknown := by
  rw [← computePkResult_pkResult applicationPid authority a reply, unknown_iff_hasError]
  simp only [configChanged]
  split <;> exact Iff.rfl

/-- **What a change of configuration makes of an action.** -/
theorem configChanged_settle :
    (configChanged applicationPid authority a reply).action =
      a.settle (if authority.d.hasError then .unknown else verdict reply) := by
  have hres := computePkResult_pkResult applicationPid authority a reply
  have herr := unknown_iff_hasError applicationPid authority a reply
  have hchanged := computePkResult_changed applicationPid authority a reply
  have haction : (computePkResult applicationPid authority a reply).action =
      { a with d := { a.d with pkResult :=
        (computePkResult applicationPid authority a reply).action.d.pkResult } } := rfl
  rw [hres] at herr hchanged haction
  generalize (if authority.d.hasError then Result.unknown else verdict reply) = v at *
  simp only [configChanged, settle]
  by_cases hsame : a.d.pkResult = v
  · rw [hchanged, ← hsame, bne_self_eq_false, if_neg Bool.false_ne_true, if_pos rfl, haction,
      ← hsame]
  · rw [hchanged, if_pos (bne_iff_ne.2 hsame), if_neg hsame, ← haction]
    simp only [refresh]
    by_cases hunknown : v = .unknown
    · rw [if_pos hunknown, herr.1 hunknown, updateAction_true]
    · rw [if_neg hunknown, Bool.eq_false_iff.2 fun htrue => hunknown (herr.2 htrue)]

end Action

/-! ### The family -/

/-- polkit's fixed answer for every action id and process. -/
abbrev Backend := QString → Int64 → Reply .checkAuthorization

variable (applicationPid : Int64) (backend : Backend)

/-- The reply to the check an action makes. -/
def Backend.reply (a : Action) : Reply .checkAuthorization :=
  backend a.d.actionId (a.targetPID applicationPid)

/-- polkit answers the action. -/
def Backend.Answers (a : Action) : Prop := ∃ r, backend.reply applicationPid a = .ok (some r)

/-- The change of configuration reaches action `i`. -/
def notifyAction (w : Desktop) (i : Nat) : Desktop :=
  match w.actions[i]? with
  | none => w
  | some a =>
      Desktop.step applicationPid w (.call i (.configChanged (backend.reply applicationPid a)))

/-- One change of configuration reaches the actions in this order. -/
def configChange (w : Desktop) (order : List Nat) : Desktop :=
  run (notifyAction applicationPid backend) w order

/-- **Any two orders leave the same.** -/
def OrderIndependent (w : Desktop) : Prop :=
  ∀ order order' : List Nat, order.Perm (List.range w.actions.length) →
    order'.Perm (List.range w.actions.length) → ∀ i : Nat,
      (configChange applicationPid backend w order).actions[i]?.map Action.view =
        (configChange applicationPid backend w order').actions[i]?.map Action.view

/-! ### The family shares the authority -/

/-- What one visit does to the authority and to the action. -/
def visited (authority : Authority.System) (a : Action) : Authority.System × Action :=
  let o := Action.configChanged applicationPid authority a (backend.reply applicationPid a)
  (o.authority, o.action)

/-- The actions of a desktop are a family that shares the authority. -/
def Desktop.family (w : Desktop) : Family Authority.System Action := ⟨w.authority, w.actions⟩

theorem family_notifyAction (w : Desktop) (i : Nat) :
    (notifyAction applicationPid backend w i).family =
      visit (visited applicationPid backend) w.family i := by
  cases hi : w.actions[i]? with
  | none => simp only [notifyAction, visit, Desktop.family, hi]
  | some a => simp only [notifyAction, visit, Desktop.family, Desktop.step, Desktop.react, hi]; rfl

/-- A change of configuration is a broadcast. -/
theorem family_configChange (w : Desktop) (order : List Nat) :
    (configChange applicationPid backend w order).family =
      broadcast (visited applicationPid backend) w.family order := by
  induction order generalizing w with
  | nil => rfl
  | cons i order ih =>
      rw [broadcast_cons, ← family_notifyAction, ← ih]
      rfl

theorem actions_configChange (w : Desktop) (order : List Nat) :
    (configChange applicationPid backend w order).actions =
      (broadcast (visited applicationPid backend) w.family order).members := by
  rw [← family_configChange]
  rfl

/-! ### When the order does not matter -/

variable {applicationPid backend}

theorem answers_iff {a : Action} :
    backend.Answers applicationPid a ↔
      Action.verdict (backend.reply applicationPid a) ≠ .unknown := by
  rw [Backend.Answers]
  match backend.reply applicationPid a with
  | .ok (some r) => simp [Action.verdict]
  | .ok none => simp [Action.verdict]
  | .error e => simp [Action.verdict]

/-- What a visit makes of the action, and of the latch. -/
theorem visited_spec (authority : Authority.System) (a : Action) :
    (visited applicationPid backend authority a).2 =
        a.settle (if authority.d.hasError then .unknown
          else Action.verdict (backend.reply applicationPid a)) ∧
      ((visited applicationPid backend authority a).1.d.hasError = true ↔
        (if authority.d.hasError then Result.unknown
          else Action.verdict (backend.reply applicationPid a)) = .unknown) :=
  ⟨Action.configChanged_settle _ _ _ _, Action.configChanged_hasError _ _ _ _⟩

/-- If polkit answers every action, nothing is ever latched. -/
theorem orderIndependent_of_answers {w : Desktop} (herr : w.authority.d.hasError = false)
    (h : ∀ a ∈ w.actions, backend.Answers applicationPid a) :
    OrderIndependent applicationPid backend w := by
  -- every action settles on its own answer, as long as nothing is latched
  have hvisit : ∀ a ∈ w.family.members, ∀ authority : Authority.System,
      authority.d.hasError = false →
        (visited applicationPid backend authority a).1.d.hasError = false ∧
          (visited applicationPid backend authority a).2 =
            a.settle (Action.verdict (backend.reply applicationPid a)) := by
    intro a ha authority herr
    obtain ⟨haction, hlatch⟩ := @visited_spec applicationPid backend authority a
    rw [herr, if_neg Bool.false_ne_true] at haction hlatch
    refine ⟨?_, haction⟩
    rw [← Bool.not_eq_true, hlatch]
    exact answers_iff.1 (h a ha)
  intro order order' horder horder' i
  rw [actions_configChange, actions_configChange,
    members_broadcast_eq (L := fun authority => authority.d.hasError = false) horder hvisit herr,
    members_broadcast_eq (L := fun authority => authority.d.hasError = false) horder' hvisit herr]

/-- If it answers none, no action is left a result, whether it asked or was refused. -/
theorem orderIndependent_of_not_answers {w : Desktop}
    (h : ∀ a ∈ w.actions, ¬ backend.Answers applicationPid a) :
    OrderIndependent applicationPid backend w := by
  have hvisit : ∀ a ∈ w.family.members, ∀ authority : Authority.System, True →
      True ∧ (visited applicationPid backend authority a).2 = a.settle .unknown := by
    intro a ha authority _
    refine ⟨trivial, ?_⟩
    have hunknown : Action.verdict (backend.reply applicationPid a) = .unknown := by
      by_contra hne
      exact h a ha (answers_iff.2 hne)
    rw [(visited_spec authority a).1, hunknown, ite_self]
  intro order order' horder horder' i
  rw [actions_configChange, actions_configChange,
    members_broadcast_eq (L := fun _ => True) horder hvisit trivial,
    members_broadcast_eq (L := fun _ => True) horder' hvisit trivial]

/-- An action that is answered and one that is not can be told apart by their order. -/
theorem not_orderIndependent {w : Desktop} (herr : w.authority.d.hasError = false) {a b : Action}
    (ha : a ∈ w.actions) (hb : b ∈ w.actions) (hanswers : backend.Answers applicationPid a)
    (hnot : ¬ backend.Answers applicationPid b) : ¬ OrderIndependent applicationPid backend w := by
  intro h
  obtain ⟨i, hi⟩ := List.mem_iff_getElem?.1 ha
  obtain ⟨j, hj⟩ := List.mem_iff_getElem?.1 hb
  have hne : i ≠ j := by
    rintro rfl
    rw [hi] at hj
    obtain rfl := Option.some.inj hj
    exact hnot hanswers
  obtain ⟨order, hfirst, hsecond, hmem⟩ := exists_orders (List.getElem?_eq_some_iff.1 hi).1
    (List.getElem?_eq_some_iff.1 hj).1 hne
  have hview := h _ _ hfirst hsecond i
  have hmem' : i ∉ j :: order := by
    rw [List.mem_cons, not_or]
    exact ⟨hne, hmem⟩
  rw [actions_configChange, actions_configChange,
    getElem?_broadcast_first (w := w.family) hi hmem',
    getElem?_broadcast_second (w := w.family) hi hj (Ne.symm hne) hmem] at hview
  -- visited first, the action gets its answer; after the other it is refused
  have hunknown : Action.verdict (backend.reply applicationPid b) = .unknown := by
    by_contra hne
    exact hnot (answers_iff.2 hne)
  have hlatched : (visited applicationPid backend w.family.shared b).1.d.hasError = true := by
    rw [(visited_spec _ _).2, hunknown, ite_self]
  have hresult := congrArg Prod.fst (Option.some.inj hview)
  rw [(visited_spec _ _).1, (visited_spec _ _).1, hlatched] at hresult
  have herr' : w.family.shared.d.hasError = false := herr
  rw [herr', if_neg Bool.false_ne_true, if_pos rfl] at hresult
  simp only [Action.view, Action.pkResult_settle] at hresult
  exact answers_iff.1 hanswers hresult

/-- **When a change of configuration is order independent.**  For every family of actions, with no
error latched before, and every backend with fixed answers: any two orders in which the change
reaches the actions leave every action with the same result and the same visible, enabled, text and
icon if and only if polkit answers every one of them or none. -/
theorem orderIndependent_iff {w : Desktop} (herr : w.authority.d.hasError = false) :
    OrderIndependent applicationPid backend w ↔
      (∀ a ∈ w.actions, backend.Answers applicationPid a) ∨
        ∀ a ∈ w.actions, ¬ backend.Answers applicationPid a := by
  constructor
  · intro h
    by_contra hmixed
    rw [not_or] at hmixed
    obtain ⟨hall, hnone⟩ := hmixed
    push Not at hall hnone
    obtain ⟨b, hb, hnot⟩ := hall
    obtain ⟨a, ha, hanswers⟩ := hnone
    exact not_orderIndependent herr ha hb hanswers hnot h
  · rintro (h | h)
    · exact orderIndependent_of_answers herr h
    · exact orderIndependent_of_not_answers h

/-- Two actions, whose ids are "a" and "b"; polkit has said no to both. -/
def twoActions : Desktop :=
  run (Desktop.step 42)
    (Desktop.start (Authority.Private.construct .none (some 1) (.ok none)))
    [.construct .unknown (.ofUtf16 [0x61]) (.ok (some ⟨false, false⟩)),
      .construct .unknown (.ofUtf16 [0x62]) (.ok (some ⟨false, false⟩))]

/-- polkit now says yes to both. -/
theorem orderIndependent_iff_yes :
    OrderIndependent 42 (fun _ _ => .ok (some ⟨true, false⟩)) twoActions :=
  (orderIndependent_iff (by decide)).2 (Or.inl fun _ _ => ⟨_, rfl⟩)

/-- polkit says yes to "a", and the check of "b" fails. -/
theorem order_tells_apart :
    ¬ OrderIndependent 42
      (fun actionId _ =>
        if actionId = .ofUtf16 [0x61] then .ok (some ⟨true, false⟩)
        else .error ⟨.gDBusError, 4, []⟩)
      twoActions := by
  intro h
  have hview := h [0, 1] [1, 0] (by decide) (by decide) 0
  exact absurd hview (by decide)

end Gui

end PolkitQt
