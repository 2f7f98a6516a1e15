/-
**The adapter's list of listeners, and the search through it.**

polkit calls back with a `PolkitAgentListener`, and the adapter has to find the `Listener` that
wraps it.  Of the two constructors of `Listener` only the default one tells the adapter, the
destructor takes the object off the adapter's list in any case, and `findListener` reads through
the pointers that are left.  So the list must hold live objects only, and no two of them may wrap
one pointer.

Main definitions:

* `PolkitQt.Agent.Registry` — the listeners that are alive and the adapter's list;
  `Registry.findListener`, `Registry.step`;
* `PolkitQt.Agent.Registry.Possible` — no live object is at the address of another;
* `PolkitQt.Agent.Registry.Inv`.

Main results:

* `PolkitQt.Agent.Registry.findIn_map` — the loop is a search for the pointer wrapped;
* `PolkitQt.Agent.Registry.inv_step` — what every event keeps;
* `PolkitQt.Agent.Registry.findListener_run` — over every history.
-/

import PolkitQt.AgentListener
import PolkitQt.KeyedList

set_option relaxedAutoImplicit false
set_option autoImplicit false

namespace PolkitQt

namespace Agent

open Runs

/-! ### Listeners that are alive -/

/-- `Listener::listener`. -/
def Listener.listener (l : Listener) : Option PolkitAgentListener := l.d.listener

/-- The object a constructor creates: only the default one creates any. -/
def Listener.Constructor.created? : Listener.Constructor → Option PolkitAgentListener
  | .new created => some created
  | .ofPointer _ => none

/-- A `Listener` that is alive, and how it was constructed. -/
structure Live where
  object : Listener
  builtBy : Listener.Constructor

namespace Live

def self (x : Live) : Nat := x.object.self

def listener (x : Live) : Option PolkitAgentListener := x.object.listener

/-- It was constructed by `Listener(parent)`. -/
def isDefault (x : Live) : Bool := x.builtBy.created?.isSome

/-- A call of `registerListener` on the listener at this address. -/
def registerListener (self : Nat) (r : Listener.Registration) (x : Live) : Live :=
  if x.self = self then { x with object := (x.object.registerListener r).object } else x

@[simp] theorem self_registerListener (self : Nat) (r : Listener.Registration) (x : Live) :
    (x.registerListener self r).self = x.self := by
  unfold registerListener
  split <;> rfl

@[simp] theorem listener_registerListener (self : Nat) (r : Listener.Registration) (x : Live) :
    (x.registerListener self r).listener = x.listener := by
  unfold registerListener
  split <;> rfl

@[simp] theorem isDefault_registerListener (self : Nat) (r : Listener.Registration) (x : Live) :
    (x.registerListener self r).isDefault = x.isDefault := by
  unfold registerListener
  split <;> rfl

end Live

/-! ### The adapter -/

/-- The listeners that are alive, in the order of their construction, and the adapter's list. -/
structure Registry where
  live : List Live
  mListeners : Listeners

namespace Registry

/-- The loop of `findListener` over the rest of the list: `none` if it reads through a pointer to
no live object, `some none` if it returns null. -/
def findIn (live : List Live) (listener : Option PolkitAgentListener) :
    Listeners → Option (Option Nat)
  | [] => some none
  | listItem :: rest =>
      match KeyedList.lookup Live.self live listItem with
      | none => none
      | some x => if x.listener = listener then some (some listItem) else findIn live listener rest

def findListener (w : Registry) (listener : Option PolkitAgentListener) : Option (Option Nat) :=
  findIn w.live listener w.mListeners

/-- A construction, a call of `registerListener`, or a destruction. -/
inductive Event
  | construct (c : Listener.Constructor) (self : Nat) (registeredHandle : Option Handle)
  | registerListener (self : Nat) (r : Listener.Registration)
  | destroy (self : Nat)

def step (w : Registry) : Event → Registry
  | .construct c self registeredHandle =>
      let built := Listener.construct c self registeredHandle w.mListeners
      ⟨w.live ++ [⟨built.object, c⟩], built.listeners⟩
  | .registerListener self r =>
      { w with live := w.live.map (Live.registerListener self r) }
  | .destroy self =>
      match KeyedList.lookup Live.self w.live self with
      | none => w
      | some x =>
          ⟨w.live.filter fun y => y.self ≠ self, (x.object.destroy w.mListeners).listeners⟩

/-- Before any listener is constructed. -/
def start : Registry := ⟨[], []⟩

/-- A new object is not where a live one is: neither the `Listener` nor, as a `Listener` holds its
reference, the `PolkitAgentListener`.  Only a live listener is called or destroyed. -/
def Possible (w : Registry) : Event → Prop
  | .construct c self _ =>
      (∀ x ∈ w.live, x.self ≠ self) ∧
        ∀ created ∈ c.created?, ∀ x ∈ w.live, x.listener ≠ some created
  | .registerListener self _ => ∃ x ∈ w.live, x.self = self
  | .destroy self => ∃ x ∈ w.live, x.self = self

instance (w : Registry) : (e : Event) → Decidable (Possible w e)
  | .construct .. => inferInstanceAs (Decidable (_ ∧ _))
  | .registerListener .. => inferInstanceAs (Decidable (∃ x ∈ w.live, _))
  | .destroy .. => inferInstanceAs (Decidable (∃ x ∈ w.live, _))

/-! ### The invariant -/

/-- The live listeners of the default constructor. -/
def defaults (w : Registry) : List Live := w.live.filter Live.isDefault

/-- Addresses differ, the adapter's list is that of the live listeners of the default constructor,
and no two of these wrap one pointer. -/
structure Inv (w : Registry) : Prop where
  selves : (w.live.map Live.self).Nodup
  listed : w.mListeners = w.defaults.map Live.self
  listeners : (w.defaults.map Live.listener).Nodup

theorem inv_start : Inv start := ⟨List.nodup_nil, rfl, List.nodup_nil⟩

theorem Inv.defaults_selves {w : Registry} (h : Inv w) : (w.defaults.map Live.self).Nodup :=
  KeyedList.nodup_filter Live.self h.selves Live.isDefault

/-! ### What an event keeps -/

/-- A construction. -/
theorem inv_construct {w : Registry} (h : Inv w) {c : Listener.Constructor} {self : Nat}
    {registeredHandle : Option Handle} (hpossible : Possible w (.construct c self registeredHandle)) :
    Inv (step w (.construct c self registeredHandle)) := by
  obtain ⟨hself, hcreated⟩ := hpossible
  cases c with
  | new created =>
      -- the adapter is told, and the pointer is new to it
      have hdefaults : (step w (.construct (.new created) self registeredHandle)).defaults =
          w.defaults ++ [⟨⟨self, some created, registeredHandle⟩, .new created⟩] := by
        rw [defaults, step, List.filter_append]
        rfl
      refine ⟨?_, ?_, ?_⟩
      · exact (KeyedList.nodup_concat_iff Live.self).2 ⟨h.selves, hself⟩
      · rw [hdefaults, List.map_append, ← h.listed]
        rfl
      · rw [hdefaults]
        refine (KeyedList.nodup_concat_iff Live.listener).2 ⟨h.listeners, ?_⟩
        intro x hx
        exact hcreated created rfl x (List.mem_of_mem_filter hx)
  | ofPointer listener =>
      -- the adapter is not told
      have hdefaults : (step w (.construct (.ofPointer listener) self registeredHandle)).defaults =
          w.defaults := by
        rw [defaults, step, List.filter_append]
        exact List.append_nil _
      refine ⟨?_, ?_, ?_⟩
      · exact (KeyedList.nodup_concat_iff Live.self).2 ⟨h.selves, hself⟩
      · rw [hdefaults, ← h.listed]
        rfl
      · rw [hdefaults]
        exact h.listeners

/-- A registration changes the handle of one listener, which nothing here depends on. -/
theorem inv_registerListener {w : Registry} (h : Inv w) (self : Nat)
    (r : Listener.Registration) : Inv (step w (.registerListener self r)) := by
  have hdefaults : (step w (.registerListener self r)).defaults =
      w.defaults.map (Live.registerListener self r) := by
    rw [defaults, step, List.filter_map, defaults]
    congr 1
    exact List.filter_congr fun x _ => Live.isDefault_registerListener self r x
  have hself := Live.self_registerListener self r
  refine ⟨?_, ?_, ?_⟩
  · rw [step, KeyedList.map_map_of_keeps Live.self hself]
    exact h.selves
  · rw [hdefaults, KeyedList.map_map_of_keeps Live.self hself, ← h.listed]
    rfl
  · rw [hdefaults, KeyedList.map_map_of_keeps Live.listener (Live.listener_registerListener self r)]
    exact h.listeners

/-- A destruction takes the object off the live ones, and off the adapter's list if it is there. -/
theorem inv_destroy {w : Registry} (h : Inv w) (self : Nat) : Inv (step w (.destroy self)) := by
  rw [step]
  cases hx : KeyedList.lookup Live.self w.live self with
  | none => exact h
  | some x =>
      dsimp only
      obtain ⟨-, rfl⟩ := KeyedList.mem_of_lookup hx
      have hdefaults : (w.live.filter fun y => y.self ≠ x.self).filter Live.isDefault =
          w.defaults.filter fun y => y.self ≠ x.self := by
        rw [defaults, List.filter_filter, List.filter_filter]
        exact List.filter_congr fun y _ => Bool.and_comm _ _
      refine ⟨?_, ?_, ?_⟩
      · exact KeyedList.nodup_filter Live.self h.selves _
      · rw [defaults, hdefaults, ← KeyedList.erase_map Live.self h.defaults_selves, ← h.listed]
        rfl
      · rw [defaults, hdefaults]
        exact KeyedList.nodup_filter Live.listener h.listeners _

/-- **Every event keeps the invariant.** -/
theorem inv_step (w : Registry) (e : Event) (hpossible : Possible w e) (h : Inv w) :
    Inv (step w e) := by
  cases e with
  | construct c self registeredHandle => exact inv_construct h hpossible
  | registerListener self r => exact inv_registerListener h self r
  | destroy self => exact inv_destroy h self

theorem inv_run {es : List Event} (hpossible : EachStep step Possible start es) :
    Inv (run step start es) :=
  (EachStep.always (P := Inv) inv_step inv_start hpossible).last

/-! ### The search -/

/-- The loop over the addresses of live listeners finds the first that wraps the pointer, and reads
through live pointers only. -/
theorem findIn_map {live : List Live} (hnodup : (live.map Live.self).Nodup)
    (listener : Option PolkitAgentListener) {xs : List Live} (hxs : ∀ x ∈ xs, x ∈ live) :
    findIn live listener (xs.map Live.self) =
      some ((KeyedList.lookup Live.listener xs listener).map Live.self) := by
  induction xs with
  | nil => rfl
  | cons x xs ih =>
      have hx : KeyedList.lookup Live.self live x.self = some x :=
        KeyedList.lookup_key hnodup (hxs x (List.mem_cons_self ..))
      have hrest := ih fun y hy => hxs y (List.mem_cons_of_mem _ hy)
      rw [List.map_cons, findIn, hx]
      dsimp only
      by_cases hwraps : x.listener = listener
      · rw [if_pos hwraps, KeyedList.lookup, List.find?_cons_of_pos (by simpa using hwraps)]
        rfl
      · rw [if_neg hwraps, hrest, KeyedList.lookup, KeyedList.lookup,
          List.find?_cons_of_neg (by simpa using hwraps)]

/-- In a state of the invariant `findListener` looks the pointer up among the live listeners of the
default constructor. -/
theorem Inv.findListener_eq {w : Registry} (h : Inv w) (listener : Option PolkitAgentListener) :
    w.findListener listener =
      some ((KeyedList.lookup Live.listener w.defaults listener).map Live.self) := by
  rw [findListener, h.listed]
  exact findIn_map h.selves listener fun x hx => List.mem_of_mem_filter hx

/-! ### The order of the list -/

/-- The address the adapter is told, if it is told one. -/
def Event.told? : Event → Option Nat
  | .construct c self _ => c.created?.map fun _ => self
  | .registerListener .. => none
  | .destroy _ => none

theorem mListeners_step (w : Registry) (e : Event) :
    (step w e).mListeners.Sublist (w.mListeners ++ [e].filterMap Event.told?) := by
  cases e with
  | construct c self registeredHandle =>
      cases c with
      | new created => exact List.Sublist.refl _
      | ofPointer listener => exact List.sublist_append_left ..
  | registerListener self r => exact List.sublist_append_left ..
  | destroy self =>
      rw [step]
      cases KeyedList.lookup Live.self w.live self with
      | none => exact List.sublist_append_left ..
      | some x => exact List.erase_sublist.trans (List.sublist_append_left ..)

/-- What is on the list is there in the order in which the adapter was told. -/
theorem mListeners_run (es : List Event) :
    (run step start es).mListeners.Sublist (es.filterMap Event.told?) := by
  induction es using List.reverseRecOn with
  | nil => exact List.Sublist.refl _
  | append_singleton es e ih =>
      rw [run_append, List.filterMap_append]
      exact (mListeners_step _ e).trans (ih.append (List.Sublist.refl _))

/-! ### Over a history -/

/-- The listener is alive, was constructed by the default constructor, and wraps the pointer. -/
structure Wraps (w : Registry) (x : Live) (listener : Option PolkitAgentListener) : Prop where
  alive : x ∈ w.live
  isDefault : x.isDefault = true
  listener : x.listener = listener

theorem wraps_iff {w : Registry} {x : Live} {listener : Option PolkitAgentListener} :
    Wraps w x listener ↔ x ∈ w.defaults ∧ x.listener = listener := by
  rw [defaults, List.mem_filter]
  constructor
  · rintro ⟨halive, hdefault, hlistener⟩
    exact ⟨⟨halive, hdefault⟩, hlistener⟩
  · rintro ⟨⟨halive, hdefault⟩, hlistener⟩
    exact ⟨halive, hdefault, hlistener⟩

/-- A pointer is found exactly where it is wrapped. -/
theorem Inv.findListener_spec {w : Registry} (h : Inv w) (listener : Option PolkitAgentListener) :
    (∃ x, Wraps w x listener ∧ (∀ y, Wraps w y listener → y = x) ∧
        w.findListener listener = some (some x.self)) ∨
      ((∀ x, ¬ Wraps w x listener) ∧ w.findListener listener = some none) := by
  rw [h.findListener_eq]
  cases hfind : KeyedList.lookup Live.listener w.defaults listener with
  | none =>
      refine Or.inr ⟨fun x hx => ?_, rfl⟩
      obtain ⟨hmem, hlistener⟩ := wraps_iff.1 hx
      exact KeyedList.lookup_eq_none_iff.1 hfind x hmem hlistener
  | some x =>
      refine Or.inl ⟨x, wraps_iff.2 (KeyedList.mem_of_lookup hfind), fun y hy => ?_, rfl⟩
      have hfind' := (KeyedList.lookup_eq_some_iff h.listeners).2 (wraps_iff.1 hy)
      rw [hfind] at hfind'
      exact (Option.some.inj hfind').symm

/-- **The adapter's list is right.**  After every history of constructions by either constructor,
registrations and destructions, in any order, in which no live object is at the address of another:
the list is that of the live listeners of the default constructor, each once and in the order of
their construction; and `findListener` returns, of any pointer, the only one of them that wraps it,
or null if none does. -/
theorem findListener_run (es : List Event) (hpossible : EachStep step Possible start es) :
    let w := run step start es
    w.mListeners = w.defaults.map Live.self ∧ w.mListeners.Nodup ∧
      w.mListeners.Sublist (es.filterMap Event.told?) ∧
      ∀ listener,
        (∃ x, Wraps w x listener ∧ (∀ y, Wraps w y listener → y = x) ∧
            w.findListener listener = some (some x.self)) ∨
          ((∀ x, ¬ Wraps w x listener) ∧ w.findListener listener = some none) := by
  intro w
  have hinv : Inv w := inv_run hpossible
  refine ⟨hinv.listed, ?_, mListeners_run es, hinv.findListener_spec⟩
  rw [hinv.listed]
  exact hinv.defaults_selves

/-- Two listeners of the default constructor, one that shares the pointer of the first, and after
the first is destroyed another, at its address. -/
def reused : List Event :=
  [.construct (.new 10) 1 none, .construct (.new 11) 2 none, .construct (.ofPointer (some 10)) 3 none,
    .destroy 1, .construct (.new 12) 1 none]

/-- The pointer of the first is still alive, and no longer found. -/
theorem findListener_run_reused :
    let w := run step start reused
    EachStep step Possible start reused ∧ w.mListeners = [2, 1] ∧ w.mListeners.Nodup ∧
      w.findListener (some 10) = some none ∧ w.findListener (some 12) = some (some 1) :=
  ⟨by decide, by decide, (findListener_run reused (by decide)).2.1, by decide, by decide⟩

end Registry

end Agent

end PolkitQt
