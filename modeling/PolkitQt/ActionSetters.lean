/-
**The property setters of an action, as updates of a table.**

An action stores six properties for each of four states.  A setter is given a mask of states, and
one would expect it to update exactly the entries the mask names: a getter then returns the new
value for the states of the mask and the old one for the others, setting on a union is setting
twice, and settings that have no state in common can be exchanged.  The setters test the flags one
after the other and stop at the first that is set, so of a mask that names several states, other
than by `All`, only one entry is updated.

Main definitions:

* `PolkitQt.Gui.Slot`, `PolkitQt.Gui.Property` — the states that have entries, and the properties;
* `PolkitQt.Gui.States.names`, `PolkitQt.Gui.States.changes` — the entries a mask names, and those
  a setter updates;
* `PolkitQt.Gui.Action.setter`, `PolkitQt.Gui.Action.getter` — the twelve methods;
* `PolkitQt.Gui.Action.SetGet`, `PolkitQt.Gui.Action.SetUnion`, `PolkitQt.Gui.Action.SetComm` — the
  laws.

Main result:

* `PolkitQt.Gui.Action.lensLaws_iff` — from every state, for every property, value and mask, when
  each law holds.
-/

import PolkitQt.Action

set_option relaxedAutoImplicit false
set_option autoImplicit false

namespace PolkitQt

namespace Gui

/-! ### The table -/

/-- The states for which entries are stored. -/
inductive Slot
  | selfBlocked
  | no
  | auth
  | yes
  deriving DecidableEq, Repr

def Slot.state : Slot → State
  | selfBlocked => .selfBlocked
  | no => .no
  | auth => .auth
  | yes => .yes

/-- The properties stored for each of them. -/
inductive Property
  | text
  | toolTip
  | whatsThis
  | icon
  | enabled
  | visible
  deriving DecidableEq, Repr

namespace Property

abbrev Value : Property → Type
  | text | toolTip | whatsThis => QString
  | icon => QIcon
  | enabled | visible => Bool

instance (p : Property) : DecidableEq p.Value := by
  cases p <;> infer_instance

/-- The entry of a row. -/
def entry : (p : Property) → Row → p.Value
  | text => Row.text
  | toolTip => Row.toolTip
  | whatsThis => Row.whatsThis
  | icon => Row.icon
  | enabled => Row.enabled
  | visible => Row.visible

/-- Changes the entry of a row. -/
def put : (p : Property) → p.Value → Row → Row
  | text => fun v r => { r with text := v }
  | toolTip => fun v r => { r with toolTip := v }
  | whatsThis => fun v r => { r with whatsThis := v }
  | icon => fun v r => { r with icon := v }
  | enabled => fun v r => { r with enabled := v }
  | visible => fun v r => { r with visible := v }

@[simp] theorem entry_put (p : Property) (v : p.Value) (r : Row) : p.entry (p.put v r) = v := by
  cases p <;> rfl

@[simp] theorem put_put (p : Property) (v w : p.Value) (r : Row) :
    p.put v (p.put w r) = p.put v r := by
  cases p <;> rfl

/-- Putting changes a row unless the value is there already. -/
theorem put_eq_self_iff (p : Property) (v : p.Value) (r : Row) : p.put v r = r ↔ p.entry r = v := by
  constructor
  · intro h
    rw [← h, entry_put]
  · rintro rfl
    cases p <;> rfl

end Property

/-! ### Masks -/

namespace States

/-- The mask names the state, by its own flag or by `All`. -/
def names (states : States) (s : Slot) : Bool := states.test .all || states.test s.state

/-- The states in the order in which a setter tests their flags, `All` having been tested before. -/
def order : List Slot := [.auth, .no, .selfBlocked, .yes]

/-- The state whose flag is tested first, of those in the mask. -/
def first (states : States) : Option Slot := order.find? fun s => states.test s.state

/-- The entries a setter updates. -/
def changes (states : States) (s : Slot) : Bool := states.test .all || states.first == some s

/-- The flag of a union is that of either mask. -/
theorem test_or (t u : States) (state : State) :
    test (t ||| u) state = (t.test state || u.test state) := by
  rw [Bool.eq_iff_iff, Bool.or_eq_true]
  simp only [test, bne_iff_ne, ne_eq, BitVec.and_or_distrib_right]
  rw [← not_and_or]
  exact not_congr BitVec.or_eq_zero_iff

/-- A setter updates only what the mask names. -/
theorem names_of_changes {states : States} {s : Slot} (h : states.changes s = true) :
    states.names s = true := by
  rw [changes, Bool.or_eq_true, beq_iff_eq] at h
  rw [names, Bool.or_eq_true]
  rcases h with h | h
  · exact Or.inl h
  · rw [first] at h
    exact Or.inr (List.find?_some (p := fun s : Slot => states.test s.state) h)

/-- Of the elements found under either of two tests, the first is the first found under one. -/
theorem find?_or {α : Type} {p q : α → Bool} {l : List α} {a : α}
    (h : l.find? (fun x => p x || q x) = some a) : l.find? p = some a ∨ l.find? q = some a := by
  induction l with
  | nil => simp at h
  | cons b l ih =>
      rw [List.find?_cons] at h
      cases hp : p b with
      | true =>
          rw [hp] at h
          exact Or.inl (by rw [List.find?_cons, hp]; exact h)
      | false =>
          cases hq : q b with
          | true =>
              rw [hp, hq] at h
              exact Or.inr (by rw [List.find?_cons, hq]; exact h)
          | false =>
              rw [hp, hq] at h
              simpa [List.find?_cons, hp, hq] using ih h

/-- What a union updates, one of its parts updates. -/
theorem changes_of_changes_or {t u : States} {s : Slot} (h : changes (t ||| u) s = true) :
    t.changes s = true ∨ u.changes s = true := by
  simp only [changes, test_or, Bool.or_eq_true, beq_iff_eq] at h ⊢
  rcases h with (ht | hu) | h
  · exact Or.inl (Or.inl ht)
  · exact Or.inr (Or.inl hu)
  · simp only [first, test_or] at h
    rcases find?_or h with h | h
    · exact Or.inl (Or.inr h)
    · exact Or.inr (Or.inr h)

end States

namespace Action

namespace Private

/-- The row of a state. -/
def slot (d : Private) : Slot → Row
  | .selfBlocked => d.selfBlocked
  | .no => d.no
  | .auth => d.auth
  | .yes => d.yes

/-- **What a setter does to the table.** -/
theorem slot_edit (d : Private) (states : States) (f : Row → Row) (s : Slot) :
    (d.edit states f).slot s = if states.changes s then f (d.slot s) else d.slot s := by
  rw [edit]
  cases hall : states.test .all with
  | true => cases s <;> simp [slot, States.changes, hall]
  | false =>
      -- one case for each branch of the chain, in its order
      simp only [States.changes, States.first, States.order, hall, Bool.false_or, List.find?_cons,
        Slot.state, Bool.false_eq_true, if_false]
      cases states.test .auth with
      | true => cases s <;> simp [slot]
      | false =>
          cases states.test .no with
          | true => cases s <;> simp [slot]
          | false =>
              cases states.test .selfBlocked with
              | true => cases s <;> simp [slot]
              | false =>
                  cases states.test .yes with
                  | true => cases s <;> simp [slot]
                  | false => cases s <;> simp [slot]

@[simp] theorem initiallyChecked_edit (d : Private) (states : States) (f : Row → Row) :
    (d.edit states f).initiallyChecked = d.initiallyChecked := by
  simp only [edit, apply_ite Private.initiallyChecked, ite_self]

/-- Private data that differ by edits are equal when their tables are. -/
theorem eq_iff_slot {d d' : Private} (hid : d.actionId = d'.actionId)
    (hres : d.pkResult = d'.pkResult) (hpid : d.targetPID = d'.targetPID)
    (hchecked : d.initiallyChecked = d'.initiallyChecked) :
    d = d' ↔ ∀ s, d.slot s = d'.slot s := by
  constructor
  · rintro rfl s
    rfl
  · intro h
    obtain ⟨id, res, pid, checked, blocked, no, auth, yes⟩ := d
    have hblocked : blocked = d'.selfBlocked := h .selfBlocked
    have hno : no = d'.no := h .no
    have hauth : auth = d'.auth := h .auth
    have hyes : yes = d'.yes := h .yes
    subst hblocked hno hauth hyes hid hres hpid hchecked
    rfl

end Private

/-! ### The methods -/

/-- The setter of a property. -/
def setter (authority : Authority.System) (a : Action) : (p : Property) → p.Value → States → Outcome
  | .text => setText authority a
  | .toolTip => setToolTip authority a
  | .whatsThis => setWhatsThis authority a
  | .icon => setIcon authority a
  | .enabled => setEnabled authority a
  | .visible => setVisible authority a

/-- Its getter. -/
def getter (a : Action) : (p : Property) → State → p.Value
  | .text => a.text
  | .toolTip => a.toolTip
  | .whatsThis => a.whatsThis
  | .icon => a.icon
  | .enabled => a.isEnabled
  | .visible => a.isVisible

@[simp] theorem setter_d (authority : Authority.System) (a : Action) (p : Property) (v : p.Value)
    (states : States) : (setter authority a p v states).action.d = a.d.edit states (p.put v) := by
  cases p <;> exact updateAction_d _ _

@[simp] theorem setter_authority (authority : Authority.System) (a : Action) (p : Property)
    (v : p.Value) (states : States) : (setter authority a p v states).authority = authority := by
  cases p <;> rfl

@[simp] theorem getter_state (a : Action) (p : Property) (s : Slot) :
    a.getter p s.state = p.entry (a.d.slot s) := by
  cases p <;> cases s <;> rfl

/-! ### The laws -/

section Laws

variable (authority : Authority.System) (a : Action)

/-- After the call the getter returns the new value for the states the mask names, and what it
returned before for the others. -/
def SetGet (p : Property) (v : p.Value) (states : States) : Prop :=
  ∀ s : Slot, (setter authority a p v states).action.getter p s.state =
    if states.names s then v else a.getter p s.state

/-- Setting on a union leaves what setting on its parts leaves, one after the other. -/
def SetUnion (p : Property) (v : p.Value) (t u : States) : Prop :=
  let o := setter authority a p v t
  (setter authority a p v (t ||| u)).action.d = (setter o.authority o.action p v u).action.d

/-- Settings on masks that name no state in common leave the same in either order. -/
def SetComm (p : Property) (v : p.Value) (q : Property) (w : q.Value) (t u : States) : Prop :=
  (∀ s, ¬ (t.names s = true ∧ u.names s = true)) →
    let o := setter authority a p v t
    let o' := setter authority a q w u
    (setter o.authority o.action q w u).action.d = (setter o'.authority o'.action p v t).action.d

/-- The laws, for the calls that set `v` on the masks `t` and `u`. -/
structure LensLaws (p : Property) (v : p.Value) (t u : States) : Prop where
  setGet : SetGet authority a p v t
  setUnion : SetUnion authority a p v t u
  setComm : ∀ (q : Property) (w : q.Value), SetComm authority a p v q w t u

/-! ### When they hold -/

variable {authority a}

theorem setGet_iff {p : Property} {v : p.Value} {states : States} :
    SetGet authority a p v states ↔
      ∀ s : Slot, states.names s = true → states.changes s = true ∨ a.getter p s.state = v := by
  refine forall_congr' fun s => ?_
  rw [getter_state, setter_d, Private.slot_edit, getter_state]
  cases hchanges : states.changes s with
  | true => simp [States.names_of_changes hchanges]
  | false =>
      rw [if_neg Bool.false_ne_true]
      cases states.names s with
      | true => simp
      | false => simp

/-- What the two sides of the law of unions do to an entry. -/
theorem slot_edit_edit (d : Private) (p : Property) (v : p.Value) (t u : States) (s : Slot) :
    ((d.edit t (p.put v)).edit u (p.put v)).slot s =
      if t.changes s || u.changes s then p.put v (d.slot s) else d.slot s := by
  rw [Private.slot_edit, Private.slot_edit]
  cases t.changes s <;> cases u.changes s <;> simp

theorem setUnion_iff {p : Property} {v : p.Value} {t u : States} :
    SetUnion authority a p v t u ↔
      ∀ s : Slot, t.changes s = true ∨ u.changes s = true →
        (t ||| u).changes s = true ∨ a.getter p s.state = v := by
  simp only [SetUnion, setter_d]
  rw [Private.eq_iff_slot (by simp) (by simp) (by simp) (by simp)]
  refine forall_congr' fun s => ?_
  rw [Private.slot_edit, slot_edit_edit, getter_state, ← Bool.or_eq_true]
  cases hor : (t ||| u).changes s with
  | true => simp [States.changes_of_changes_or hor]
  | false =>
      -- the union leaves the entry alone, whatever its parts do
      cases t.changes s || u.changes s with
      | true => simpa using eq_comm.trans (p.put_eq_self_iff v (a.d.slot s))
      | false => simp

theorem setComm (p : Property) (v : p.Value) (q : Property) (w : q.Value) (t u : States) :
    SetComm authority a p v q w t u := by
  intro hdisjoint
  simp only [setter_d]
  rw [Private.eq_iff_slot (by simp) (by simp) (by simp) (by simp)]
  intro s
  simp only [Private.slot_edit]
  cases ht : t.changes s with
  | false => simp
  | true =>
      cases hu : u.changes s with
      | false => simp
      | true =>
          exact absurd ⟨States.names_of_changes ht, States.names_of_changes hu⟩ (hdisjoint s)

end Laws

/-- **When the setters obey the lens laws.**  In every state of an action and of the authority,
for every property, value and pair of masks: the laws hold if and only if every state the mask
names is the one whose flag is tested first, unless the value is there already, and no part of the
union changes an entry that the union itself does not change, with the same exception. -/
theorem lensLaws_iff (authority : Authority.System) (a : Action) (p : Property) (v : p.Value)
    (t u : States) :
    LensLaws authority a p v t u ↔
      (∀ s : Slot, t.names s = true → t.changes s = true ∨ a.getter p s.state = v) ∧
        ∀ s : Slot, t.changes s = true ∨ u.changes s = true →
          (t ||| u).changes s = true ∨ a.getter p s.state = v := by
  constructor
  · intro h
    exact ⟨setGet_iff.1 h.setGet, setUnion_iff.1 h.setUnion⟩
  · rintro ⟨hget, hunion⟩
    exact ⟨setGet_iff.2 hget, setUnion_iff.2 hunion, fun q w => setComm p v q w t u⟩

/-- An action just constructed, polkit having answered yes. -/
def freshAction : Action :=
  (construct 42 (Authority.System.start Authority.freshAuthority) .unknown .null
    (.ok (some ⟨true, false⟩))).action

/-- `setEnabled(true, No | Auth | Yes)` leaves the action disabled for `No`. -/
theorem union_skips_no :
    ¬ LensLaws (Authority.System.start Authority.freshAuthority) freshAction .enabled true
      (State.no.flag ||| State.auth.flag ||| State.yes.flag) State.selfBlocked.flag := by
  intro h
  exact absurd (h.setGet .no) (by decide)

end Action

end Gui

end PolkitQt
