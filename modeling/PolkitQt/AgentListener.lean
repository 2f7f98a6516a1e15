/-
**The life of a listener: what it registers with polkit, and what it unregisters.**

A `Listener` holds a `PolkitAgentListener` and the handle of its registration.  `registerListener`
asks polkit for a registration and stores the handle it returns, null after a failure; the
destructor unregisters the handle that is stored, unless it is null.  No constructor sets the
handle, and every call replaces the one before.

Main definitions:

* `PolkitQt.Agent.Listener.construct`, `PolkitQt.Agent.Listener.registerListener`,
  `PolkitQt.Agent.Listener.destroy`;
* `PolkitQt.Agent.Listener.lifetime` — the calls on polkit of a whole life;
* `PolkitQt.Agent.Balanced` — the handles unregistered are those registered.

Main results:

* `PolkitQt.Agent.Listener.registeredHandle_run` — the handle stored is the last one returned;
* `PolkitQt.Agent.Listener.balanced_iff` — a life is balanced exactly when no registration but the
  last succeeds, and the handle is null if there was none.
-/

import PolkitQt.Runs
import PolkitQt.Polkit
import Mathlib.Data.Multiset.Count

set_option relaxedAutoImplicit false
set_option autoImplicit false

namespace PolkitQt

namespace Agent

open Runs

/-! ### The listener -/

/-- A `PolkitAgentListener`, known by its address. -/
abbrev PolkitAgentListener := Nat

/-- What `polkit_agent_listener_register` returns. -/
abbrev Handle := Nat

/-- The calls a listener makes on polkit and on GObject. -/
inductive PolkitCall
  | listenerNew (listener : PolkitAgentListener)
  | ref (listener : PolkitAgentListener)
  | register (listener : Option PolkitAgentListener) (subject : Option PolkitSubject)
      (objectPath : Bytes) (returned : Option Handle)
  | unregister (handle : Handle)
  | unref (listener : PolkitAgentListener)
  deriving DecidableEq, Repr

/-- `ListenerPrivate`. -/
structure ListenerPrivate where
  listener : Option PolkitAgentListener
  registeredHandle : Option Handle
  deriving DecidableEq, Repr

/-- A `Listener` object, known by its address, and its private data. -/
structure Listener where
  self : Nat
  d : ListenerPrivate
  deriving DecidableEq, Repr

/-- `ListenerAdapter::m_listeners`. -/
abbrev Listeners := List Nat

def Listeners.addListener (listeners : Listeners) (listener : Nat) : Listeners :=
  listeners ++ [listener]

def Listeners.removeListener (listeners : Listeners) (listener : Nat) : Listeners :=
  listeners.erase listener

namespace Listener

/-- What a constructor leaves: the object, the adapter's list and the calls made. -/
structure Built where
  object : Listener
  listeners : Listeners
  calls : List PolkitCall

/-- The two constructors.  `polkit_qt_listener_new` creates the object `created`; a pointer may be
null. -/
inductive Constructor
  | new (created : PolkitAgentListener)
  | ofPointer (listener : Option PolkitAgentListener)

/-- `Listener(parent)` and `Listener(listener, parent)`; the second does not tell the adapter.
Neither sets the member `registeredHandle`, so what it holds is a parameter. -/
def construct (c : Constructor) (self : Nat) (registeredHandle : Option Handle)
    (listeners : Listeners) : Built :=
  match c with
  | .new created =>
      ⟨⟨self, some created, registeredHandle⟩, listeners.addListener self, [.listenerNew created]⟩
  | .ofPointer listener =>
      ⟨⟨self, listener, registeredHandle⟩, listeners, (listener.map PolkitCall.ref).toList⟩

/-- The arguments of `registerListener`, and polkit's reply: an error, or a handle, possibly
null. -/
structure Registration where
  subject : Subject
  objectPath : QString
  reply : Except GError (Option Handle)

/-- What `polkit_agent_listener_register` returns: null beside an error. -/
def Registration.returned (r : Registration) : Option Handle :=
  match r.reply with
  | .error _ => none
  | .ok handle => handle

/-- What `registerListener` leaves: the object, the value returned and the calls made. -/
structure Registered where
  object : Listener
  value : Bool
  calls : List PolkitCall

def registerListener (l : Listener) (r : Registration) : Registered where
  object := { l with d := { l.d with registeredHandle := r.returned } }
  value :=
    match r.reply with
    | .error _ => false
    | .ok handle => handle.isSome
  calls := [.register l.d.listener r.subject.subject (cString r.objectPath.toLatin1) r.returned]

/-- What `~Listener` leaves: the adapter's list and the calls made. -/
structure Destroyed where
  listeners : Listeners
  calls : List PolkitCall

def destroy (l : Listener) (listeners : Listeners) : Destroyed where
  listeners := listeners.removeListener l.self
  calls := (l.d.registeredHandle.map PolkitCall.unregister).toList ++
    (l.d.listener.map PolkitCall.unref).toList

/-- One call of `registerListener`, and what it asks of polkit. -/
def step (l : Listener) (r : Registration) : Listener := (l.registerListener r).object

def out (l : Listener) (r : Registration) : List PolkitCall := (l.registerListener r).calls

/-- The calls on polkit of a whole life: a constructor, registrations, the destructor. -/
def lifetime (c : Constructor) (self : Nat) (registeredHandle : Option Handle)
    (listeners : Listeners) (rs : List Registration) : List PolkitCall :=
  let built := construct c self registeredHandle listeners
  built.calls ++ trace step out built.object rs ++
    ((run step built.object rs).destroy built.listeners).calls

end Listener

/-! ### The ledger -/

/-- The handles polkit returned, null left out. -/
def registered (t : List PolkitCall) : List Handle :=
  t.filterMap fun call =>
    match call with
    | .register _ _ _ returned => returned
    | _ => none

/-- The handles passed to `polkit_agent_listener_unregister`. -/
def unregistered (t : List PolkitCall) : List Handle :=
  t.filterMap fun call =>
    match call with
    | .unregister handle => some handle
    | _ => none

/-- The registration is still there, and may deliver a callback. -/
def Delivers (t : List PolkitCall) (handle : Handle) : Prop :=
  (unregistered t).count handle < (registered t).count handle

/-- As often as a handle was registered it was unregistered. -/
def Balanced (t : List PolkitCall) : Prop :=
  (unregistered t : Multiset Handle) = (registered t : Multiset Handle)

instance (t : List PolkitCall) : Decidable (Balanced t) := inferInstanceAs (Decidable (_ = _))

@[simp] theorem registered_append (t u : List PolkitCall) :
    registered (t ++ u) = registered t ++ registered u := List.filterMap_append

@[simp] theorem unregistered_append (t u : List PolkitCall) :
    unregistered (t ++ u) = unregistered t ++ unregistered u := List.filterMap_append

/-- Of a balanced ledger nothing can still deliver a callback. -/
theorem Balanced.not_delivers {t : List PolkitCall} (h : Balanced t) (handle : Handle) :
    ¬ Delivers t handle := by
  have hcount := congrArg (Multiset.count handle) h
  rw [Multiset.coe_count, Multiset.coe_count] at hcount
  rw [Delivers, hcount]
  exact lt_irrefl _

/-- In a balanced ledger nothing is unregistered that was not registered. -/
theorem Balanced.mem_registered {t : List PolkitCall} (h : Balanced t) {handle : Handle}
    (hmem : handle ∈ unregistered t) : handle ∈ registered t := by
  rw [← Multiset.mem_coe] at hmem ⊢
  rw [Balanced] at h
  rw [← h]
  exact hmem

namespace Listener

/-! ### What a life leaves in the ledger -/

/-- The handle stored is the one returned last, or what the member held before. -/
theorem registeredHandle_run (l : Listener) (rs : List Registration) :
    (run step l rs).d.registeredHandle =
      (rs.getLast?.map Registration.returned).getD l.d.registeredHandle := by
  rcases List.eq_nil_or_concat rs with rfl | ⟨rs, r, rfl⟩
  · rfl
  · rw [List.concat_eq_append, run_append, List.getLast?_append]
    rfl

/-- The registrations of a run leave their handles, and unregister nothing. -/
theorem ledger_trace (l : Listener) (rs : List Registration) :
    registered (trace step out l rs) = rs.filterMap Registration.returned ∧
      unregistered (trace step out l rs) = [] := by
  induction rs generalizing l with
  | nil => exact ⟨rfl, rfl⟩
  | cons r rs ih =>
      obtain ⟨hreg, hunreg⟩ := ih (step l r)
      rw [trace_cons, registered_append, unregistered_append, hreg, hunreg]
      refine ⟨?_, rfl⟩
      rw [List.filterMap_cons]
      cases hr : r.returned with
      | none => simp [out, registerListener, registered, hr]
      | some handle => simp [out, registerListener, registered, hr]

/-- The destructor unregisters the handle that is stored. -/
theorem ledger_destroy (l : Listener) (listeners : Listeners) :
    registered (l.destroy listeners).calls = [] ∧
      unregistered (l.destroy listeners).calls = l.d.registeredHandle.toList := by
  rw [destroy]
  cases l.d.registeredHandle <;> cases l.d.listener <;> exact ⟨rfl, rfl⟩

/-- A constructor registers nothing and unregisters nothing. -/
theorem ledger_construct (c : Constructor) (self : Nat) (registeredHandle : Option Handle)
    (listeners : Listeners) :
    registered (construct c self registeredHandle listeners).calls = [] ∧
      unregistered (construct c self registeredHandle listeners).calls = [] := by
  cases c with
  | new created => exact ⟨rfl, rfl⟩
  | ofPointer listener => cases listener <;> exact ⟨rfl, rfl⟩

/-- It leaves the handle as it was. -/
theorem registeredHandle_construct (c : Constructor) (self : Nat)
    (registeredHandle : Option Handle) (listeners : Listeners) :
    (construct c self registeredHandle listeners).object.d.registeredHandle =
      registeredHandle := by
  cases c <;> rfl

section Lifetime

variable (c : Constructor) (self : Nat) (registeredHandle : Option Handle) (listeners : Listeners)
  (rs : List Registration)

/-- **The ledger of a life.**  Everything returned is there, and what is unregistered is the handle
returned last, or what the member held if there was no registration. -/
theorem ledger_lifetime :
    registered (lifetime c self registeredHandle listeners rs) =
        rs.filterMap Registration.returned ∧
      unregistered (lifetime c self registeredHandle listeners rs) =
        ((rs.getLast?.map Registration.returned).getD registeredHandle).toList := by
  obtain ⟨hreg, hunreg⟩ := ledger_construct c self registeredHandle listeners
  obtain ⟨hreg', hunreg'⟩ :=
    ledger_trace (construct c self registeredHandle listeners).object rs
  obtain ⟨hreg'', hunreg''⟩ := ledger_destroy
    (run step (construct c self registeredHandle listeners).object rs)
    (construct c self registeredHandle listeners).listeners
  simp only [lifetime, registered_append, unregistered_append]
  constructor
  · rw [hreg, hreg', hreg'']
    simp
  · rw [hunreg, hunreg', hunreg'', registeredHandle_run, registeredHandle_construct]
    simp

/-- No registration but the last succeeded, and if there was none the member held null. -/
def OnlyLastSucceeded : Prop :=
  (∀ r ∈ rs.dropLast, r.returned = none) ∧ (rs = [] → registeredHandle = none)

/-- **When the registrations of a listener are balanced.**  Over every life of a listener, from
either constructor, through any registrations, successful or not, to the destructor: the handles
unregistered are the handles registered if and only if no registration before the last succeeded
and, if there was no registration, the handle no constructor sets held null.  In a balanced life
no registration is left that could deliver a callback, and nothing is unregistered that was not
registered. -/
theorem balanced_iff :
    (Balanced (lifetime c self registeredHandle listeners rs) ↔
        OnlyLastSucceeded registeredHandle rs) ∧
      (Balanced (lifetime c self registeredHandle listeners rs) →
        (∀ handle, ¬ Delivers (lifetime c self registeredHandle listeners rs) handle) ∧
          ∀ handle ∈ unregistered (lifetime c self registeredHandle listeners rs),
            handle ∈ registered (lifetime c self registeredHandle listeners rs)) := by
  refine ⟨?_, fun h => ⟨h.not_delivers, fun handle => h.mem_registered⟩⟩
  obtain ⟨hreg, hunreg⟩ := ledger_lifetime c self registeredHandle listeners rs
  rw [Balanced, hreg, hunreg, OnlyLastSucceeded]
  rcases List.eq_nil_or_concat rs with rfl | ⟨rs, r, rfl⟩
  · -- only what the member held can be unregistered
    cases registeredHandle <;> simp
  · -- the last handle is on both sides
    rw [List.concat_eq_append, List.dropLast_concat, List.filterMap_append, List.getLast?_concat]
    have hlast : [r].filterMap Registration.returned = r.returned.toList := by
      cases hr : r.returned <;> simp [hr]
    rw [hlast, Option.map_some, Option.getD_some, Multiset.coe_eq_coe, ← List.filterMap_eq_nil_iff]
    constructor
    · intro hperm
      have hlength := hperm.length_eq
      rw [List.length_append] at hlength
      refine ⟨List.eq_nil_of_length_eq_zero (by omega), ?_⟩
      simp
    · rintro ⟨hnil, -⟩
      rw [hnil, List.nil_append]

end Lifetime

/-- A listener is registered twice, as after a restart of the daemon; both registrations succeed. -/
def registeredTwice : List Registration :=
  [⟨unixProcessSubject 42, .null, .ok (some 1)⟩, ⟨unixProcessSubject 42, .null, .ok (some 2)⟩]

/-- Only the second is ended when the listener is destroyed. -/
theorem first_registration_left :
    ¬ Balanced (lifetime (.new 7) 1 none [] registeredTwice) := by
  decide

end Listener

end Agent

end PolkitQt
