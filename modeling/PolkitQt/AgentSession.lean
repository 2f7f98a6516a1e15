/-
**The life of a session, between its client and polkit.**

A `Session` owns a reference on a `PolkitAgentSession` and has four handlers connected to it, with
its own address as their data; nothing disconnects them.  Each handler emits a signal, and whatever
the client does in a slot comes before the handler returns.  Only `completed` has something left to
do then: it drops the reference and clears the pointer.  The destructor drops the reference if the
pointer is still there.

polkit may emit as long as the object lives, which it does while anybody has a reference on it: the
session, somebody else, or GLib for an emission that is in progress.  So the state counts all three,
and a run lists the calls of the client, the emissions and the returns in the order they happen.

Main definitions:

* `PolkitQt.Agent.Session.step` — the client's calls, polkit's signals and the returns of handlers;
* `PolkitQt.Agent.Session.Safe` — the reference is dropped once, no call passes a bad pointer, and
  no handler touches a session that is destroyed;
* `PolkitQt.Agent.Session.Proper` — the condition on a step.

Main results:

* `PolkitQt.Agent.Session.inv_step` — **the steps that meet the condition keep the invariant**;
* `PolkitQt.Agent.Session.always_safe_iff` — a run is safe exactly when all its steps meet the
  condition.
-/

import PolkitQt.AsyncResult

set_option relaxedAutoImplicit false
set_option autoImplicit false

namespace PolkitQt

namespace Agent

open Runs

/-- A `PolkitAgentSession`, known by its address. -/
abbrev PolkitAgentSession := Nat

namespace Session

/-! ### Signals -/

/-- What polkit emits on a `PolkitAgentSession`. -/
inductive PolkitSignal
  | completed (gainedAuthorization : Bool)
  | request (prompt : Bytes) (echoOn : Bool)
  | showError (text : Bytes)
  | showInfo (text : Bytes)
  deriving DecidableEq, Repr

/-- What a `Session` emits. -/
inductive Signal
  | completed (gainedAuthorization : Bool)
  | request (prompt : QString) (echo : Bool)
  | showError (text : QString)
  | showInfo (text : QString)
  deriving DecidableEq, Repr

/-- The signal a handler emits. -/
def PolkitSignal.emitted : PolkitSignal → Signal
  | completed gainedAuthorization => .completed gainedAuthorization
  | request prompt echoOn => .request (QString.fromUtf8 prompt) echoOn
  | showError text => .showError (QString.fromUtf8 text)
  | showInfo text => .showInfo (QString.fromUtf8 text)

def PolkitSignal.isCompleted : PolkitSignal → Bool
  | completed _ => true
  | _ => false

/-! ### The object and what it does -/

/-- What a session and its handlers do: calls of polkit and GObject, and accesses to the session
itself, which may be gone. -/
inductive Effect
  | initiate (session : Argument)
  | response (session : Argument) (response : Bytes)
  | cancel (session : Argument)
  | unref (session : Argument)
  | emit (destroyed : Bool) (signal : Signal)
  | access (destroyed : Bool)
  deriving DecidableEq, Repr

/-- A call gets a live object, an access a session that is there. -/
def Effect.Sound : Effect → Prop
  | initiate session => session = .live
  | response session _ => session = .live
  | cancel session => session = .live
  | unref session => session = .live
  | emit destroyed _ => destroyed = false
  | access destroyed => destroyed = false

def Effect.isUnref : Effect → Bool
  | unref _ => true
  | _ => false

/-- A `Session` in a program: the pointer in its private data, the object with the handlers, whether
the session holds its reference, how many others hold one, the signals whose handlers are in
progress, innermost first, whether polkit has emitted `completed`, whether the session is destroyed,
and what was done.  The pointer is still read after `delete d`. -/
structure System where
  polkitAgentSession : Option PolkitAgentSession
  connected : Option PolkitAgentSession
  referenced : Bool
  others : Nat
  handlers : List PolkitSignal
  completed : Bool
  destroyed : Bool
  effects : List Effect
  deriving DecidableEq, Repr

/-- The two constructors.  `polkit_agent_session_new` returns one reference, or null if it refuses
its arguments; a pointer that is not null has `owners + 1` references of others. -/
inductive Constructor
  | new (created : Option PolkitAgentSession)
  | ofPointer (pkAgentSession : Option PolkitAgentSession) (owners : Nat)
  deriving DecidableEq, Repr

def Constructor.pointer : Constructor → Option PolkitAgentSession
  | new created => created
  | ofPointer pkAgentSession _ => pkAgentSession

def Constructor.others : Constructor → Nat
  | new _ => 0
  | ofPointer pkAgentSession owners => if pkAgentSession.isSome then owners + 1 else 0

/-- `Session(identity, cookie, result, parent)` takes polkit's reference over, and
`Session(pkAgentSession, parent)` adds one of its own, unless the pointer is null; then nothing is
connected either. -/
def construct (c : Constructor) : System :=
  ⟨c.pointer, c.pointer, c.pointer.isSome, c.others, [], false, false, []⟩

/-- Somebody has a reference on the object; an emission in progress has one. -/
def System.alive (w : System) : Bool :=
  w.connected.isSome && (w.referenced || decide (0 < w.others) || !w.handlers.isEmpty)

/-- The pointer as an argument. -/
def System.argument (w : System) : Argument :=
  match w.polkitAgentSession with
  | none => .null
  | some _ => if w.alive then .live else .released

def System.act (w : System) (a : Effect) : System := { w with effects := w.effects ++ [a] }

/-- `g_object_unref(d->polkitAgentSession)`. -/
def System.unref (w : System) : System :=
  { w.act (.unref w.argument) with referenced := false }

def initiate (w : System) : System := w.act (.initiate w.argument)

def setResponse (w : System) (response : QString) : System :=
  w.act (.response w.argument (cString response.toUtf8))

def cancel (w : System) : System := w.act (.cancel w.argument)

/-- `~Session`. -/
def destroy (w : System) : System :=
  match w.polkitAgentSession with
  | none => { w with destroyed := true }
  | some _ => { w.unref with destroyed := true }

/-- polkit can emit the signal: the object lives, and it has not completed before. -/
def System.Emits (w : System) (s : PolkitSignal) : Prop :=
  w.alive = true ∧ (s.isCompleted = true → w.completed = false)

instance (w : System) (s : PolkitSignal) : Decidable (w.Emits s) :=
  inferInstanceAs (Decidable (_ ∧ _))

/-- `Private::completed`, `Private::request`, `Private::showError` and `Private::showInfo`, until
the slots are called. -/
def handle (w : System) (s : PolkitSignal) : System :=
  { w.act (.emit w.destroyed s.emitted) with
    handlers := s :: w.handlers
    completed := w.completed || s.isCompleted }

/-- The rest of `Private::completed`, after the slots. -/
def completedReturned (w : System) : System :=
  { (w.act (.access w.destroyed)).unref with polkitAgentSession := none }

/-- The innermost handler returns from the slots, and its emission ends. -/
def handlerReturned (w : System) : System :=
  match w.handlers with
  | [] => w
  | s :: handlers =>
      if s.isCompleted then { completedReturned w with handlers := handlers }
      else { w with handlers := handlers }

/-- What happens: the client's calls, also from slots, polkit's signals, the return of the innermost
handler, and what others do with the object. -/
inductive Event
  | initiate
  | setResponse (response : QString)
  | cancel
  | destroy
  | signal (s : PolkitSignal)
  | handlerReturned
  | otherRef
  | otherUnref
  deriving DecidableEq, Repr

/-- Nothing is called on a session that is destroyed, but its handlers are still connected. -/
def step (w : System) : Event → System
  | .initiate => if w.destroyed then w else initiate w
  | .setResponse response => if w.destroyed then w else setResponse w response
  | .cancel => if w.destroyed then w else cancel w
  | .destroy => if w.destroyed then w else destroy w
  | .signal s => if w.Emits s then handle w s else w
  | .handlerReturned => handlerReturned w
  | .otherRef => if w.alive then { w with others := w.others + 1 } else w
  | .otherUnref => { w with others := w.others - 1 }

/-! ### The property and the condition -/

/-- The reference on the object, if there is one, is dropped once at most, and has been dropped when
the session is destroyed; and everything done is sound. -/
structure Safe (pointer : Option PolkitAgentSession) (w : System) : Prop where
  dropped : w.effects.countP Effect.isUnref ≤ pointer.isSome.toNat
  destroyed : w.destroyed = true → w.effects.countP Effect.isUnref = pointer.isSome.toNat
  sound : ∀ a ∈ w.effects, a.Sound

/-- When a step does no harm: no call on polkit without an object, and no signal of polkit, and no
return of `completed`, after the session is destroyed. -/
def Proper (w : System) : Event → Prop
  | .initiate | .setResponse _ | .cancel => w.destroyed = true ∨ w.polkitAgentSession ≠ none
  | .signal s => ¬ w.Emits s ∨ w.destroyed = false
  | .handlerReturned => w.handlers.head?.any PolkitSignal.isCompleted = false ∨ w.destroyed = false
  | .destroy | .otherRef | .otherUnref => True

/-! ### The invariant -/

/-- What a list of effects amounts to, all of them sound. -/
structure Tally (drops : Nat) (effects : List Effect) : Prop where
  dropped : effects.countP Effect.isUnref = drops
  sound : ∀ a ∈ effects, a.Sound

namespace Tally

variable {drops : Nat} {effects : List Effect}

theorem nil : Tally 0 [] := ⟨rfl, fun _ h => absurd h List.not_mem_nil⟩

theorem append (h : Tally drops effects) {a : Effect} (ha : a.Sound) :
    Tally (drops + a.isUnref.toNat) (effects ++ [a]) := by
  refine ⟨?_, forall_mem_concat h.sound ha⟩
  rw [countP_concat, h.dropped]

end Tally

/-- The stages of a session that was given `pointer`: it has the reference; `completed` has returned
and dropped it; or the session is destroyed. -/
inductive Stage (pointer : Option PolkitAgentSession) (w : System) : Prop
  | running (hpointer : w.polkitAgentSession = pointer) (hreferenced : w.referenced = pointer.isSome)
      (hdestroyed : w.destroyed = false) (htally : Tally 0 w.effects)
  | finished (hpointer : w.polkitAgentSession = none) (hsome : pointer ≠ none)
      (hdestroyed : w.destroyed = false) (htally : Tally 1 w.effects) (hcompleted : w.completed = true)
      (hhandlers : w.handlers.countP PolkitSignal.isCompleted = 0)
  | destroyed (hdestroyed : w.destroyed = true) (htally : Tally pointer.isSome.toNat w.effects)

/-- The handlers are those of the object the session was given, and `completed` runs only once. -/
structure Inv (pointer : Option PolkitAgentSession) (w : System) : Prop where
  stage : Stage pointer w
  connected : w.connected = pointer
  handlers : pointer = none → w.handlers = []
  completed : w.handlers.countP PolkitSignal.isCompleted ≤ w.completed.toNat

theorem inv_construct (c : Constructor) : Inv c.pointer (construct c) :=
  ⟨.running rfl rfl rfl Tally.nil, rfl, fun _ => rfl, Nat.zero_le _⟩

section Steps

variable {pointer : Option PolkitAgentSession} {w : System}

theorem Inv.safe (h : Inv pointer w) : Safe pointer w := by
  cases h.stage with
  | running hpointer hreferenced hdestroyed htally =>
      refine ⟨by rw [htally.dropped]; exact Nat.zero_le _, ?_, htally.sound⟩
      simp [hdestroyed]
  | finished hpointer hsome hdestroyed htally hcompleted hhandlers =>
      refine ⟨?_, by simp [hdestroyed], htally.sound⟩
      rw [htally.dropped, Option.isSome_iff_ne_none.2 hsome]
      exact Nat.le_refl 1
  | destroyed hdestroyed htally =>
      exact ⟨Nat.le_of_eq htally.dropped, fun _ => htally.dropped, htally.sound⟩

/-- With its reference, the session has a live object to pass. -/
theorem argument_eq_live (hpointer : w.polkitAgentSession = pointer)
    (hreferenced : w.referenced = pointer.isSome) (hconnected : w.connected = pointer)
    (hsome : pointer ≠ none) : w.argument = .live := by
  obtain ⟨p, rfl⟩ := Option.ne_none_iff_exists'.1 hsome
  have halive : w.alive = true := by simp [System.alive, hconnected, hreferenced]
  rw [System.argument, hpointer]
  simp [halive]

theorem argument_eq_null (hpointer : w.polkitAgentSession = none) : w.argument = .null := by
  rw [System.argument, hpointer]

/-- A call of the client's, if there is an object to call it on. -/
theorem inv_call (h : Inv pointer w) {f : Argument → Effect} (hsound : (f .live).Sound)
    (hunref : (f .live).isUnref = false)
    (hproper : w.destroyed = true ∨ w.polkitAgentSession ≠ none) :
    Inv pointer (if w.destroyed then w else w.act (f w.argument)) := by
  split
  · exact h
  · next hnot =>
      cases h.stage with
      | running hpointer hreferenced hdestroyed htally =>
          have hsome : pointer ≠ none := hpointer ▸ hproper.resolve_left hnot
          have hcall := htally.append hsound
          rw [hunref] at hcall
          rw [argument_eq_live hpointer hreferenced h.connected hsome]
          exact ⟨.running hpointer hreferenced hdestroyed hcall, h.connected, h.handlers,
            h.completed⟩
      | finished hpointer hsome hdestroyed htally hcompleted hhandlers =>
          exact absurd hpointer (hproper.resolve_left hnot)
      | destroyed hdestroyed htally => exact absurd hdestroyed hnot

theorem inv_destroy (h : Inv pointer w) : Inv pointer (step w .destroy) := by
  simp only [step]
  split
  · exact h
  · next hnot =>
      cases h.stage with
      | running hpointer hreferenced hdestroyed htally =>
          rw [destroy]
          split
          · next hnull =>
              refine ⟨.destroyed rfl ?_, h.connected, h.handlers, h.completed⟩
              rw [← hpointer, hnull]
              exact htally
          · next p hp =>
              have hsome : pointer ≠ none := by rw [← hpointer, hp]; exact Option.some_ne_none p
              have hlive := argument_eq_live hpointer hreferenced h.connected hsome
              have hdrop := htally.append (a := .unref w.argument) hlive
              refine ⟨.destroyed rfl ?_, h.connected, h.handlers, h.completed⟩
              rw [Option.isSome_iff_ne_none.2 hsome]
              exact hdrop
      | finished hpointer hsome hdestroyed htally hcompleted hhandlers =>
          rw [destroy, hpointer]
          refine ⟨.destroyed rfl ?_, h.connected, h.handlers, h.completed⟩
          rw [Option.isSome_iff_ne_none.2 hsome]
          exact htally
      | destroyed hdestroyed htally => exact absurd hdestroyed hnot

/-- Only an object that is there emits. -/
theorem Inv.ne_none_of_alive (h : Inv pointer w) (halive : w.alive = true) : pointer ≠ none := by
  rintro rfl
  simp [System.alive, h.connected] at halive

/-- `completed` is emitted when it has not been before. -/
theorem countP_cons_le (h : Inv pointer w) {s : PolkitSignal} (hemits : w.Emits s) :
    (s :: w.handlers).countP PolkitSignal.isCompleted ≤ (w.completed || s.isCompleted).toNat := by
  have hcount := h.completed
  cases hs : s.isCompleted with
  | true =>
      rw [hemits.2 hs] at hcount ⊢
      rw [List.countP_cons_of_pos hs, Nat.le_zero.1 hcount]
      exact Nat.le_refl 1
  | false =>
      rw [List.countP_cons_of_neg (by simp [hs]), Bool.or_false]
      exact hcount

theorem inv_signal (h : Inv pointer w) {s : PolkitSignal} (hproper : Proper w (.signal s)) :
    Inv pointer (step w (.signal s)) := by
  simp only [step]
  split
  · next hemits =>
      have hthere : w.destroyed = false := hproper.resolve_left (not_not.2 hemits)
      have hcount := countP_cons_le h hemits
      have hnone : pointer = none → s :: w.handlers = [] :=
        fun hnone => absurd hnone (h.ne_none_of_alive hemits.1)
      cases h.stage with
      | running hpointer hreferenced hdestroyed htally =>
          have hemit := htally.append (a := .emit w.destroyed s.emitted) hthere
          exact ⟨.running hpointer hreferenced hdestroyed hemit, h.connected, hnone, hcount⟩
      | finished hpointer hsome hdestroyed htally hcompleted hhandlers =>
          have hemit := htally.append (a := .emit w.destroyed s.emitted) hthere
          -- it is not `completed` a second time
          have hs : s.isCompleted = false := by
            by_contra hs
            have hnot := hemits.2 (by simpa using hs)
            rw [hcompleted] at hnot
            simp at hnot
          refine ⟨.finished hpointer hsome hdestroyed hemit ?_ ?_, h.connected, hnone, hcount⟩
          · show (w.completed || s.isCompleted) = true
            rw [hcompleted, Bool.true_or]
          · exact (List.countP_cons_of_neg (by simp [hs])).trans hhandlers
      | destroyed hdestroyed htally =>
          rw [hthere] at hdestroyed
          simp at hdestroyed
  · exact h

/-- `completed` returns to a session that is there: the reference goes, and the pointer. -/
theorem inv_completedReturned (h : Inv pointer w) {s : PolkitSignal} {handlers : List PolkitSignal}
    (hhandlers : w.handlers = s :: handlers) (hs : s.isCompleted = true)
    (hthere : w.destroyed = false) : Inv pointer { completedReturned w with handlers := handlers } := by
  have hcount := h.completed
  rw [hhandlers, List.countP_cons_of_pos hs] at hcount
  have hcompleted : w.completed = true := by
    by_contra hnot
    rw [Bool.eq_false_iff.2 hnot] at hcount
    exact absurd hcount (Nat.not_succ_le_zero _)
  rw [hcompleted] at hcount
  have hzero : handlers.countP PolkitSignal.isCompleted = 0 :=
    Nat.le_zero.1 (Nat.le_of_succ_le_succ hcount)
  have hsome : pointer ≠ none := by
    intro hnone
    have hempty := h.handlers hnone
    rw [hhandlers] at hempty
    simp at hempty
  cases h.stage with
  | running hpointer hreferenced hdestroyed htally =>
      have hlive := argument_eq_live hpointer hreferenced h.connected hsome
      have haccess := htally.append (a := .access w.destroyed) hthere
      have hdrop := haccess.append (a := .unref (w.act (.access w.destroyed)).argument) hlive
      exact ⟨.finished rfl hsome hdestroyed hdrop hcompleted hzero, h.connected,
        fun hnone => absurd hnone hsome, Nat.le_trans (Nat.le_of_eq hzero) (Nat.zero_le _)⟩
  | finished hpointer hsome hdestroyed htally hcompleted hnot =>
      rw [hhandlers, List.countP_cons_of_pos hs] at hnot
      exact absurd hnot (Nat.succ_ne_zero _)
  | destroyed hdestroyed htally =>
      rw [hthere] at hdestroyed
      simp at hdestroyed

/-- The other handlers have nothing left to do. -/
theorem inv_otherReturned (h : Inv pointer w) {s : PolkitSignal} {handlers : List PolkitSignal}
    (hhandlers : w.handlers = s :: handlers) (hs : ¬ s.isCompleted = true) :
    Inv pointer { w with handlers := handlers } := by
  have hcount := h.completed
  rw [hhandlers, List.countP_cons_of_neg hs] at hcount
  have hnone : pointer = none → handlers = [] := by
    intro hnone
    have hempty := h.handlers hnone
    rw [hhandlers] at hempty
    simp at hempty
  refine ⟨?_, h.connected, hnone, hcount⟩
  cases h.stage with
  | running hpointer hreferenced hdestroyed htally =>
      exact .running hpointer hreferenced hdestroyed htally
  | finished hpointer hsome hdestroyed htally hcompleted hzero =>
      rw [hhandlers, List.countP_cons_of_neg hs] at hzero
      exact .finished hpointer hsome hdestroyed htally hcompleted hzero
  | destroyed hdestroyed htally => exact .destroyed hdestroyed htally

theorem inv_handlerReturned (h : Inv pointer w) (hproper : Proper w .handlerReturned) :
    Inv pointer (step w .handlerReturned) := by
  simp only [step, handlerReturned]
  split
  · exact h
  · next s handlers hhandlers =>
      split
      · next hs =>
          have hthere : w.destroyed = false := hproper.resolve_left (by simp [hhandlers, hs])
          exact inv_completedReturned h hhandlers hs hthere
      · next hs => exact inv_otherReturned h hhandlers hs

/-- What others do with the object does not matter. -/
theorem inv_others (h : Inv pointer w) (others : Nat) : Inv pointer { w with others := others } := by
  refine ⟨?_, h.connected, h.handlers, h.completed⟩
  cases h.stage with
  | running hpointer hreferenced hdestroyed htally =>
      exact .running hpointer hreferenced hdestroyed htally
  | finished hpointer hsome hdestroyed htally hcompleted hnot =>
      exact .finished hpointer hsome hdestroyed htally hcompleted hnot
  | destroyed hdestroyed htally => exact .destroyed hdestroyed htally

/-- **The steps that meet the condition keep the invariant.** -/
theorem inv_step (h : Inv pointer w) {e : Event} (hproper : Proper w e) :
    Inv pointer (step w e) := by
  cases e with
  | initiate => exact inv_call h (f := .initiate) rfl rfl hproper
  | setResponse response =>
      exact inv_call h (f := (.response · (cString response.toUtf8))) rfl rfl hproper
  | cancel => exact inv_call h (f := .cancel) rfl rfl hproper
  | destroy => exact inv_destroy h
  | signal s => exact inv_signal h hproper
  | handlerReturned => exact inv_handlerReturned h hproper
  | otherRef =>
      simp only [step]
      split
      · exact inv_others h _
      · exact h
  | otherUnref => exact inv_others h _

/-- A call without an object passes null. -/
theorem proper_of_call {f : Argument → Effect} (hunsound : ¬ (f .null).Sound)
    (hstep : Safe pointer (if w.destroyed then w else w.act (f w.argument))) :
    w.destroyed = true ∨ w.polkitAgentSession ≠ none := by
  by_contra hnot
  rw [not_or, not_not] at hnot
  obtain ⟨hdestroyed, hnull⟩ := hnot
  rw [if_neg hdestroyed, argument_eq_null hnull] at hstep
  exact hunsound (hstep.sound _ (List.mem_append_right _ (List.mem_singleton_self _)))

/-- **And the others are not safe**: null is passed to polkit, or a handler is called with a session
that is destroyed, or returns to one. -/
theorem proper_of_safe {e : Event} (hstep : Safe pointer (step w e)) : Proper w e := by
  cases e with
  | initiate => exact proper_of_call (f := .initiate) (by simp [Effect.Sound]) hstep
  | setResponse response =>
      exact proper_of_call (f := (.response · (cString response.toUtf8)))
        (by simp [Effect.Sound]) hstep
  | cancel => exact proper_of_call (f := .cancel) (by simp [Effect.Sound]) hstep
  | destroy => trivial
  | signal s =>
      by_cases hemits : w.Emits s
      · refine Or.inr ?_
        simp only [step, if_pos hemits] at hstep
        exact hstep.sound (.emit w.destroyed s.emitted)
          (List.mem_append_right _ (List.mem_singleton_self _))
      · exact Or.inl hemits
  | handlerReturned =>
      cases hhead : w.handlers.head?.any PolkitSignal.isCompleted with
      | false => exact Or.inl hhead
      | true =>
          refine Or.inr ?_
          obtain ⟨s, hs, hcompleted⟩ := (Option.any_eq_true _ _).1 hhead
          obtain ⟨handlers, hhandlers⟩ := List.head?_eq_some_iff.1 hs
          simp only [step, handlerReturned, hhandlers, hcompleted, if_true] at hstep
          refine hstep.sound (.access w.destroyed) ?_
          simp [completedReturned, System.unref, System.act]
  | otherRef => trivial
  | otherUnref => trivial

end Steps

/-- **When a session is safe.**  For both constructors and every sequence of calls of the client,
from inside a slot or not, of signals of polkit and of returns of handlers: the reference on the
object is dropped exactly once, every call reaches a live object and no handler touches the session
after it was destroyed, if and only if no call is made on a null pointer, no signal comes after the
session was destroyed, and `completed` does not return to a session that was destroyed. -/
theorem always_safe_iff (c : Constructor) (es : List Event) :
    Always step (Safe c.pointer) (construct c) es ↔ EachStep step Proper (construct c) es :=
  always_iff_eachStep_of_inv (J := Inv c.pointer) (P := Safe c.pointer) (C := Proper)
    (fun _ h => h.safe) (fun _ _ h hproper => inv_step h hproper)
    (fun _ _ _ hstep => proper_of_safe hstep) (inv_construct c) es

/-- The answer to a request comes after the session has completed: null is passed to polkit.  And a
slot connected to `completed` deletes the session: the handler goes on with it. -/
theorem late_response_and_deleted_in_slot :
    ¬ Always step (Safe (some 1)) (construct (.new (some 1)))
        [.initiate, .signal (.completed false), .handlerReturned, .setResponse .null] ∧
      ¬ Always step (Safe (some 1)) (construct (.new (some 1)))
        [.initiate, .signal (.completed true), .destroy, .handlerReturned] := by
  refine ⟨fun h => ?_, fun h => ?_⟩
  · exact absurd (h.last.sound (.response .null []) (by decide)) (by simp [Effect.Sound])
  · exact absurd h.last.dropped (by decide)

end Session

end Agent

end PolkitQt
