/-
**polkit's callbacks, and the listeners they reach.**

polkit asks for an authentication by calling a virtual function on a `PolkitAgentListener`, and takes
the request back by cancelling the `GCancellable` it passed.  The C functions under
`polkit_qt_listener` connect a handler to the cancellable, with the bare pointer as its data, and
nothing disconnects it; a cancellable that has been cancelled before calls the handler at once.  Both
the request and the handler go through `ListenerAdapter::findListener`, and call whatever it returns.

So a request and its cancellation are two searches for one pointer, and between them the agent may
construct and destroy listeners as it likes, also inside a callback.  The state has the registry of
`ListenerRegistry`, the handlers that are connected, and the calls that are still to be made when the
callback in progress has returned.  Every request is numbered, and every handler remembers the object
its request was handed to, for as long as that exists: no function of the adapter reads either.

Main definitions:

* `PolkitQt.Agent.Dispatch.step`, `PolkitQt.Agent.Dispatch.out` — the callbacks that are made;
* `PolkitQt.Agent.Dispatch.intended` — those that should be: a request goes to the live listener of
  the default constructor that wraps the pointer, a cancellation to the object the request went to;
* `PolkitQt.Agent.Dispatch.Served` — the condition on a step.

Main results:

* `PolkitQt.Agent.Dispatch.inv_step` — what every event keeps;
* `PolkitQt.Agent.Dispatch.trace_eq_intended_iff` — the callbacks made are those intended exactly when
  all steps meet the condition;
* `PolkitQt.Agent.Dispatch.stage_step` — **what can happen to one request**, whatever happens to the
  others;
* `PolkitQt.Agent.Dispatch.callbacks_of_request` — every request is announced once, and cancelled once
  if its cancellable is.
-/

import PolkitQt.ListenerRegistry
import PolkitQt.ListenerAdapter
import PolkitQt.AsyncResult

set_option relaxedAutoImplicit false
set_option autoImplicit false

namespace PolkitQt

namespace Agent

open Runs

/-! ### Requests and handlers -/

/-- A `GCancellable`, known by its identity. -/
abbrev GCancellable := Nat

/-- The arguments of `polkit_qt_listener_initiate_authentication`, the task it creates, and the order
in which the table of identities of this call lists its values. -/
structure Initiation where
  agentListener : PolkitAgentListener
  actionId : Option Bytes
  message : Option Bytes
  iconName : Option Bytes
  details : Option PolkitDetails
  cookie : Option Bytes
  identities : List PolkitIdentity
  cancellable : Option GCancellable
  result : GSimpleAsyncResult
  order : HashTable.IterationOrder UInt32 PolkitIdentity

/-- What the listener is called with. -/
def Initiation.arguments (polkitIdentityHash : PolkitIdentity → UInt32) (i : Initiation) :
    ListenerAdapter.AuthenticationRequest :=
  ListenerAdapter.polkitQtListenerInitiateAuthentication polkitIdentityHash i.order i.actionId
    i.message i.iconName i.details i.cookie i.identities i.result

/-- A handler for the signal `cancelled`: its cancellable and its data, the number of its request, and
the object the request was handed to, unless that is gone. -/
structure Handler where
  cancellable : GCancellable
  agentListener : PolkitAgentListener
  request : Nat
  receiver : Option Nat
  deriving DecidableEq, Repr

/-- The object at this address is destroyed. -/
def Handler.forget (self : Nat) (h : Handler) : Handler :=
  { h with receiver := if h.receiver = some self then none else h.receiver }

/-- The virtual functions of a `Listener` that the adapter calls. -/
inductive Kind
  | initiateAuthentication
  | cancelAuthentication
  deriving DecidableEq, Repr

/-- A call that is due: `cancelled_cb` for a handler, or the rest of
`polkit_qt_listener_initiate_authentication` after the handler was connected. -/
inductive Due
  | cancelledCb (h : Handler)
  | initiateAuthentication (request : Nat) (i : Initiation)

namespace Due

def request : Due → Nat
  | cancelledCb h => h.request
  | initiateAuthentication request _ => request

/-- The pointer that is looked for. -/
def agentListener : Due → PolkitAgentListener
  | cancelledCb h => h.agentListener
  | initiateAuthentication _ i => i.agentListener

def forget (self : Nat) : Due → Due
  | cancelledCb h => cancelledCb (h.forget self)
  | initiateAuthentication request i => initiateAuthentication request i

def kind : Due → Kind
  | cancelledCb _ => .cancelAuthentication
  | initiateAuthentication _ _ => .initiateAuthentication

@[simp] theorem request_forget (self : Nat) (f : Due) : (f.forget self).request = f.request := by
  cases f <;> rfl

@[simp] theorem kind_forget (self : Nat) (f : Due) : (f.forget self).kind = f.kind := by
  cases f <;> rfl

end Due

/-- What an agent sees: a virtual function called on what `findListener` returned, null included. -/
inductive Callback
  | initiateAuthentication (request : Nat) (found : Option (Option Nat))
      (arguments : ListenerAdapter.AuthenticationRequest)
  | cancelAuthentication (request : Nat) (found : Option (Option Nat))

namespace Callback

def request : Callback → Nat
  | initiateAuthentication request _ _ => request
  | cancelAuthentication request _ => request

def kind : Callback → Kind
  | initiateAuthentication .. => .initiateAuthentication
  | cancelAuthentication .. => .cancelAuthentication

end Callback

/-! ### The dispatcher -/

/-- The adapter and GIO: the listeners, the handlers connected to cancellables that have not been
cancelled, the cancellables that have, the calls that are due, innermost first, and the number of
requests so far. -/
structure Dispatch where
  registry : Registry
  handlers : List Handler
  cancelled : List GCancellable
  due : List Due
  requests : Nat

namespace Dispatch

/-- The live listener of the default constructor that wraps the pointer. -/
def owner (w : Dispatch) (agentListener : PolkitAgentListener) : Option Nat :=
  (KeyedList.lookup Live.listener w.registry.defaults (some agentListener)).map Live.self

/-- The handler `polkit_qt_listener_initiate_authentication` connects. -/
def handler (w : Dispatch) (i : Initiation) (cancellable : GCancellable) : Handler :=
  ⟨cancellable, i.agentListener, w.requests, w.owner i.agentListener⟩

/-- What happens: the agent constructs, registers and destroys listeners; polkit makes a request, or
cancels a cancellable, which calls its handlers in the order they were connected; and the call that
is due next is made.  Any of this can happen inside a callback, before the next call is made. -/
inductive Event
  | listener (e : Registry.Event)
  | initiateAuthentication (i : Initiation)
  | cancel (cancellable : GCancellable)
  | next

def Event.isRequest : Event → Bool
  | .initiateAuthentication _ => true
  | _ => false

/-- A listener is gone from the memory of the handlers. -/
def forget (w : Dispatch) (self : Nat) : Dispatch :=
  { w with
    handlers := w.handlers.map (Handler.forget self)
    due := w.due.map (Due.forget self) }

def step (w : Dispatch) : Event → Dispatch
  | .listener (.destroy self) =>
      { w.forget self with registry := Registry.step w.registry (.destroy self) }
  | .listener e => { w with registry := Registry.step w.registry e }
  | .initiateAuthentication i =>
      match i.cancellable with
      | none => { w with requests := w.requests + 1 }
      | some cancellable =>
          if cancellable ∈ w.cancelled then
            -- the handler is called before the listener gets the request
            { w with
              due := .initiateAuthentication w.requests i :: w.due
              requests := w.requests + 1 }
          else
            { w with
              handlers := w.handlers ++ [w.handler i cancellable]
              requests := w.requests + 1 }
  | .cancel cancellable =>
      if cancellable ∈ w.cancelled then w
      else
        { w with
          handlers := w.handlers.filter fun h => h.cancellable ≠ cancellable
          cancelled := cancellable :: w.cancelled
          due := (w.handlers.filter fun h => h.cancellable = cancellable).map Due.cancelledCb ++
            w.due }
  | .next => { w with due := w.due.tail }

/-- The call that an event makes. -/
def made? (w : Dispatch) : Event → Option Due
  | .listener _ => none
  | .initiateAuthentication i =>
      match i.cancellable with
      | none => some (.initiateAuthentication w.requests i)
      | some cancellable =>
          if cancellable ∈ w.cancelled then some (.cancelledCb (w.handler i cancellable))
          else some (.initiateAuthentication w.requests i)
  | .cancel _ => none
  | .next => w.due.head?

/-- The virtual function that is called. -/
def callback (polkitIdentityHash : PolkitIdentity → UInt32) (f : Due)
    (found : Option (Option Nat)) : Callback :=
  match f with
  | .cancelledCb h => .cancelAuthentication h.request found
  | .initiateAuthentication request i =>
      .initiateAuthentication request found (i.arguments polkitIdentityHash)

/-- The callback an event makes: on the listener that `findListener` returns. -/
def out (polkitIdentityHash : PolkitIdentity → UInt32) (w : Dispatch) (e : Event) :
    List Callback :=
  (w.made? e).toList.map fun f =>
    callback polkitIdentityHash f (w.registry.findListener (some f.agentListener))

/-- Whom a call is for: a request is for the listener that wraps the pointer, a cancellation for the
object the request was handed to. -/
def receiver (w : Dispatch) : Due → Option Nat
  | .cancelledCb h => h.receiver
  | .initiateAuthentication _ i => w.owner i.agentListener

/-- The callback an event should make: to the object it is for, if that is there. -/
def intended (polkitIdentityHash : PolkitIdentity → UInt32) (w : Dispatch) (e : Event) :
    List Callback :=
  (w.made? e).toList.flatMap fun f =>
    ((w.receiver f).map fun self => callback polkitIdentityHash f (some (some self))).toList

def start : Dispatch := ⟨Registry.start, [], [], [], 0⟩

/-- No live object is at the address of another. -/
def Possible (w : Dispatch) : Event → Prop
  | .listener e => Registry.Possible w.registry e
  | _ => True

/-- The object that a call is for is there. -/
def Served (w : Dispatch) (e : Event) : Prop := ∀ f ∈ w.made? e, w.receiver f ≠ none

instance (w : Dispatch) : (e : Event) → Decidable (Possible w e)
  | .listener e => inferInstanceAs (Decidable (Registry.Possible w.registry e))
  | .initiateAuthentication _ => isTrue trivial
  | .cancel _ => isTrue trivial
  | .next => isTrue trivial

instance (w : Dispatch) (e : Event) : Decidable (Served w e) :=
  inferInstanceAs (Decidable (∀ f ∈ w.made? e, w.receiver f ≠ none))

/-! ### The invariant -/

/-- The object the handler remembers is a live listener of the default constructor, and wraps the
handler's data. -/
def Remembers (w : Dispatch) (h : Handler) : Prop :=
  ∀ self ∈ h.receiver, ∃ x, Registry.Wraps w.registry x (some h.agentListener) ∧ x.self = self

/-- The registry is in order, and all handlers remember well, those that are due included. -/
structure Inv (w : Dispatch) : Prop where
  registry : w.registry.Inv
  handlers : ∀ h ∈ w.handlers, Remembers w h
  due : ∀ h, Due.cancelledCb h ∈ w.due → Remembers w h

theorem inv_start : Inv start :=
  ⟨Registry.inv_start, fun _ h => absurd h List.not_mem_nil, fun _ h => absurd h List.not_mem_nil⟩

/-- The search finds the owner, and reads through live pointers only. -/
theorem Inv.findListener_eq {w : Dispatch} (h : Inv w) (agentListener : PolkitAgentListener) :
    w.registry.findListener (some agentListener) = some (w.owner agentListener) :=
  h.registry.findListener_eq (some agentListener)

theorem owner_eq_some_iff {w : Dispatch} (h : w.registry.Inv) {agentListener : PolkitAgentListener}
    {self : Nat} :
    w.owner agentListener = some self ↔
      ∃ x, Registry.Wraps w.registry x (some agentListener) ∧ x.self = self := by
  simp only [owner, Option.map_eq_some_iff, KeyedList.lookup_eq_some_iff h.listeners,
    ← Registry.wraps_iff]

/-- What a call is for owns the pointer that is looked for. -/
theorem Inv.owner_of_receiver {w : Dispatch} (h : Inv w) {e : Event} {f : Due}
    (hf : w.made? e = some f) {self : Nat} (hself : w.receiver f = some self) :
    w.owner f.agentListener = some self := by
  cases f with
  | initiateAuthentication request i => exact hself
  | cancelledCb c =>
      refine (owner_eq_some_iff h.registry).2 ?_
      cases e with
      | listener e => simp [made?] at hf
      | cancel cancellable => simp [made?] at hf
      | next => exact h.due c (List.mem_of_mem_head? hf) self hself
      | initiateAuthentication i =>
          -- called at once, for the listener that wraps the pointer now
          rw [made?] at hf
          split at hf
          · simp at hf
          · next cancellable hcancellable =>
              split at hf
              · obtain rfl := Due.cancelledCb.inj (Option.some.inj hf)
                exact (owner_eq_some_iff h.registry).1 hself
              · simp at hf

/-! ### What an event keeps -/

/-- Listeners other than the one destroyed are as they were. -/
theorem wraps_step {r : Registry} {e : Registry.Event} {x : Live}
    {listener : Option PolkitAgentListener} (hx : Registry.Wraps r x listener)
    (hother : e ≠ .destroy x.self) :
    ∃ y, Registry.Wraps (Registry.step r e) y listener ∧ y.self = x.self := by
  cases e with
  | construct c self registeredHandle =>
      exact ⟨x, ⟨List.mem_append_left _ hx.alive, hx.isDefault, hx.listener⟩, rfl⟩
  | registerListener self reg =>
      refine ⟨x.registerListener self reg, ⟨List.mem_map_of_mem hx.alive, ?_, ?_⟩, ?_⟩
      · rw [Live.isDefault_registerListener]
        exact hx.isDefault
      · rw [Live.listener_registerListener]
        exact hx.listener
      · exact Live.self_registerListener self reg x
  | destroy self =>
      have hne : x.self ≠ self := fun heq => hother (by rw [heq])
      refine ⟨x, ⟨?_, hx.isDefault, hx.listener⟩, rfl⟩
      rw [Registry.step]
      split
      · exact hx.alive
      · exact List.mem_filter.2 ⟨hx.alive, by simpa using hne⟩

theorem registry_step_listener (w : Dispatch) (e : Registry.Event) :
    (step w (.listener e)).registry = Registry.step w.registry e := by
  cases e <;> rfl

/-- A handler remembers as well as before, if what was destroyed is forgotten. -/
theorem remembers_listener {w : Dispatch} (e : Registry.Event) {h : Handler} (hrem : Remembers w h)
    (hother : ∀ self, e = .destroy self → h.receiver ≠ some self) :
    Remembers (step w (.listener e)) h := by
  intro self hself
  obtain ⟨x, hx, rfl⟩ := hrem self hself
  obtain ⟨y, hy, hyx⟩ := wraps_step hx (e := e) fun heq => hother x.self heq hself
  rw [registry_step_listener]
  exact ⟨y, hy, hyx⟩

theorem receiver_forget_ne (self : Nat) (h : Handler) : (h.forget self).receiver ≠ some self := by
  rw [Handler.forget]
  dsimp only
  split
  · simp
  · assumption

theorem remembers_forget {w : Dispatch} {h : Handler} (hrem : Remembers w h) (self : Nat) :
    Remembers w (h.forget self) := by
  intro s hs
  rw [Handler.forget] at hs
  dsimp only at hs
  split at hs
  · simp at hs
  · exact hrem s hs

theorem inv_listener {w : Dispatch} (h : Inv w) {e : Registry.Event}
    (hpossible : Registry.Possible w.registry e) : Inv (step w (.listener e)) := by
  have hregistry := Registry.inv_step w.registry e hpossible h.registry
  cases e with
  | destroy self =>
      refine ⟨hregistry, ?_, ?_⟩
      · intro c hc
        obtain ⟨c', hc', rfl⟩ := List.mem_map.1 hc
        refine remembers_listener _ (remembers_forget (h.handlers c' hc') self) ?_
        rintro s ⟨⟩
        exact receiver_forget_ne self c'
      · intro c hc
        obtain ⟨f, hf, heq⟩ := List.mem_map.1 hc
        cases f with
        | initiateAuthentication request i => simp [Due.forget] at heq
        | cancelledCb c' =>
            obtain rfl := Due.cancelledCb.inj heq
            refine remembers_listener _ (remembers_forget (h.due c' hf) self) ?_
            rintro s ⟨⟩
            exact receiver_forget_ne self c'
  | construct c self registeredHandle =>
      exact ⟨hregistry, fun c hc => remembers_listener _ (h.handlers c hc) (by simp),
        fun c hc => remembers_listener _ (h.due c hc) (by simp)⟩
  | registerListener self r =>
      exact ⟨hregistry, fun c hc => remembers_listener _ (h.handlers c hc) (by simp),
        fun c hc => remembers_listener _ (h.due c hc) (by simp)⟩

theorem remembers_handler {w : Dispatch} (h : w.registry.Inv) (i : Initiation)
    (cancellable : GCancellable) : Remembers w (w.handler i cancellable) := by
  intro self hself
  exact (owner_eq_some_iff h).1 hself

theorem inv_initiateAuthentication {w : Dispatch} (h : Inv w) (i : Initiation) :
    Inv (step w (.initiateAuthentication i)) := by
  rw [step]
  split
  · exact ⟨h.registry, h.handlers, h.due⟩
  · next cancellable hcancellable =>
      split
      · refine ⟨h.registry, h.handlers, fun c hc => ?_⟩
        exact h.due c ((List.mem_cons.1 hc).resolve_left (by simp))
      · refine ⟨h.registry, fun c hc => ?_, h.due⟩
        rcases List.mem_append.1 hc with hc | hc
        · exact h.handlers c hc
        · obtain rfl := List.mem_singleton.1 hc
          exact remembers_handler h.registry i cancellable

theorem inv_cancel {w : Dispatch} (h : Inv w) (cancellable : GCancellable) :
    Inv (step w (.cancel cancellable)) := by
  rw [step]
  split
  · exact h
  · refine ⟨h.registry, fun c hc => h.handlers c (List.mem_of_mem_filter hc), fun c hc => ?_⟩
    rcases List.mem_append.1 hc with hc | hc
    · obtain ⟨c', hc', heq⟩ := List.mem_map.1 hc
      obtain rfl := Due.cancelledCb.inj heq
      exact h.handlers c' (List.mem_of_mem_filter hc')
    · exact h.due c hc

/-- **Every event keeps the invariant.** -/
theorem inv_step (w : Dispatch) (e : Event) (hpossible : Possible w e) (h : Inv w) :
    Inv (step w e) := by
  cases e with
  | listener e => exact inv_listener h hpossible
  | initiateAuthentication i => exact inv_initiateAuthentication h i
  | cancel cancellable => exact inv_cancel h cancellable
  | next => exact ⟨h.registry, h.handlers, fun c hc => h.due c (List.mem_of_mem_tail hc)⟩

theorem always_inv {es : List Event} (hpossible : EachStep step Possible start es) :
    Always step Inv start es :=
  EachStep.always (P := Inv) inv_step inv_start hpossible

/-! ### The callbacks that are made, and those that are intended -/

section Callbacks

variable (polkitIdentityHash : PolkitIdentity → UInt32)

theorem length_intended_le (w : Dispatch) (e : Event) :
    (intended polkitIdentityHash w e).length ≤ (out polkitIdentityHash w e).length := by
  rw [intended, out]
  cases w.made? e with
  | none => exact Nat.le_refl 0
  | some f => cases h : w.receiver f <;> simp [h]

/-- A step makes the callback it should exactly when there is somebody to make it to. -/
theorem out_eq_intended_iff {w : Dispatch} (h : Inv w) (e : Event) :
    out polkitIdentityHash w e = intended polkitIdentityHash w e ↔ Served w e := by
  rw [out, intended, Served]
  cases hmade : w.made? e with
  | none => simp
  | some f =>
      cases hreceiver : w.receiver f with
      | none => simp [hreceiver]
      | some self =>
          have howner := h.owner_of_receiver hmade hreceiver
          simp [hreceiver, h.findListener_eq, howner]

/-- A request of polkit for this pointer. -/
def requestFor (agentListener : PolkitAgentListener) (cancellable : Option GCancellable) : Initiation :=
  ⟨agentListener, none, none, none, none, none, [], cancellable, 0, .asInserted⟩

end Callbacks

/-! ### One request among others -/

def handlersOf (n : Nat) (w : Dispatch) : List Handler := w.handlers.filter fun h => h.request = n

def dueOf (n : Nat) (w : Dispatch) : List Due := w.due.filter fun f => f.request = n

/-- The functions called for a request, in order. -/
def callbacksOf (n : Nat) (t : List Callback) : List Kind :=
  (t.filter fun c => c.request = n).map Callback.kind

@[simp] theorem callbacksOf_append (n : Nat) (t u : List Callback) :
    callbacksOf n (t ++ u) = callbacksOf n t ++ callbacksOf n u := by
  rw [callbacksOf, List.filter_append, List.map_append]
  rfl

/-- What should be called for a request made when the cancellables `before` had been cancelled, by
the time that those of `now` have. -/
def expected (i : Initiation) (before now : List GCancellable) : List Kind :=
  match i.cancellable with
  | none => [.initiateAuthentication]
  | some cancellable =>
      if cancellable ∈ before then [.cancelAuthentication, .initiateAuthentication]
      else if cancellable ∈ now then [.initiateAuthentication, .cancelAuthentication]
      else [.initiateAuthentication]

/-- The cancellables a handler of the request is connected to. -/
def connectedTo (i : Initiation) (now : List GCancellable) : List GCancellable :=
  i.cancellable.toList.filter fun cancellable => cancellable ∉ now

/-- What there is of request `n` in a state reached with the callbacks `t`: those made and those due
are as expected, a handler is connected until the cancellable is cancelled, and nothing is due before
that. -/
structure Stage (n : Nat) (i : Initiation) (before : List GCancellable) (w : Dispatch)
    (t : List Callback) : Prop where
  numbered : n < w.requests
  earlier : before ⊆ w.cancelled
  callbacks : callbacksOf n t ++ (dueOf n w).map Due.kind = expected i before w.cancelled
  handlers : (handlersOf n w).map Handler.cancellable = connectedTo i w.cancelled
  due : dueOf n w ≠ [] → ∃ cancellable ∈ i.cancellable, cancellable ∈ w.cancelled

/-- Nothing has a number that has not been given out. -/
structure Fresh (w : Dispatch) (t : List Callback) : Prop where
  handlers : ∀ h ∈ w.handlers, h.request < w.requests
  due : ∀ f ∈ w.due, f.request < w.requests
  callbacks : ∀ c ∈ t, c.request < w.requests

section Requests

variable (polkitIdentityHash : PolkitIdentity → UInt32)

@[simp] theorem request_callback (f : Due) (found : Option (Option Nat)) :
    (callback polkitIdentityHash f found).request = f.request := by
  cases f <;> rfl

@[simp] theorem kind_callback (f : Due) (found : Option (Option Nat)) :
    (callback polkitIdentityHash f found).kind = f.kind := by
  cases f <;> rfl

/-- The callback an event makes is that of the call. -/
theorem callbacksOf_out (n : Nat) (w : Dispatch) (e : Event) :
    callbacksOf n (out polkitIdentityHash w e) =
      ((w.made? e).toList.filter fun f => f.request = n).map Due.kind := by
  rw [callbacksOf, out, List.filter_map, List.map_map]
  simp only [Function.comp_def, request_callback, kind_callback]

theorem requests_step (w : Dispatch) (e : Event) :
    (step w e).requests = w.requests + e.isRequest.toNat := by
  cases e with
  | listener e => cases e <;> rfl
  | initiateAuthentication i =>
      rw [step]
      split
      · rfl
      · split <;> rfl
  | cancel cancellable =>
      rw [step]
      split <;> rfl
  | next => rfl

/-- A call that is made was due, or is for a request that is made now. -/
theorem mem_made {w : Dispatch} {e : Event} {f : Due} (hf : f ∈ w.made? e) :
    f ∈ w.due ∨ e.isRequest = true ∧ f.request = w.requests := by
  cases e with
  | listener e => simp [made?] at hf
  | initiateAuthentication i =>
      refine Or.inr ⟨rfl, ?_⟩
      rw [made?] at hf
      split at hf
      · obtain rfl := Option.some.inj hf
        rfl
      · split at hf <;>
          · obtain rfl := Option.some.inj hf
            rfl
  | cancel cancellable => simp [made?] at hf
  | next => exact Or.inl (List.mem_of_mem_head? hf)

/-- A handler after an event is one from before, or of a request made now. -/
theorem mem_handlers_step {w : Dispatch} {e : Event} {h : Handler} (hh : h ∈ (step w e).handlers) :
    (∃ h' ∈ w.handlers, h'.request = h.request) ∨
      e.isRequest = true ∧ h.request = w.requests := by
  cases e with
  | listener e =>
      cases e with
      | construct c self registeredHandle => exact Or.inl ⟨h, hh, rfl⟩
      | registerListener self r => exact Or.inl ⟨h, hh, rfl⟩
      | destroy self =>
          obtain ⟨h', hh', rfl⟩ := List.mem_map.1 hh
          exact Or.inl ⟨h', hh', rfl⟩
  | initiateAuthentication i =>
      rw [step] at hh
      split at hh
      · exact Or.inl ⟨h, hh, rfl⟩
      · split at hh
        · exact Or.inl ⟨h, hh, rfl⟩
        · rcases List.mem_append.1 hh with hh | hh
          · exact Or.inl ⟨h, hh, rfl⟩
          · obtain rfl := List.mem_singleton.1 hh
            exact Or.inr ⟨rfl, rfl⟩
  | cancel cancellable =>
      rw [step] at hh
      split at hh
      · exact Or.inl ⟨h, hh, rfl⟩
      · exact Or.inl ⟨h, List.mem_of_mem_filter hh, rfl⟩
  | next => exact Or.inl ⟨h, hh, rfl⟩

/-- A call that is due after an event was due before, or its handler was connected, or it is of a
request made now. -/
theorem mem_due_step {w : Dispatch} {e : Event} {f : Due} (hf : f ∈ (step w e).due) :
    (∃ f' ∈ w.due, f'.request = f.request) ∨ (∃ h ∈ w.handlers, h.request = f.request) ∨
      e.isRequest = true ∧ f.request = w.requests := by
  cases e with
  | listener e =>
      cases e with
      | construct c self registeredHandle => exact Or.inl ⟨f, hf, rfl⟩
      | registerListener self r => exact Or.inl ⟨f, hf, rfl⟩
      | destroy self =>
          obtain ⟨f', hf', rfl⟩ := List.mem_map.1 hf
          exact Or.inl ⟨f', hf', (Due.request_forget self f').symm⟩
  | initiateAuthentication i =>
      rw [step] at hf
      split at hf
      · exact Or.inl ⟨f, hf, rfl⟩
      · split at hf
        · rcases List.mem_cons.1 hf with rfl | hf
          · exact Or.inr (Or.inr ⟨rfl, rfl⟩)
          · exact Or.inl ⟨f, hf, rfl⟩
        · exact Or.inl ⟨f, hf, rfl⟩
  | cancel cancellable =>
      rw [step] at hf
      split at hf
      · exact Or.inl ⟨f, hf, rfl⟩
      · rcases List.mem_append.1 hf with hf | hf
        · obtain ⟨h, hh, rfl⟩ := List.mem_map.1 hf
          exact Or.inr (Or.inl ⟨h, List.mem_of_mem_filter hh, rfl⟩)
        · exact Or.inl ⟨f, hf, rfl⟩
  | next => exact Or.inl ⟨f, List.mem_of_mem_tail hf, rfl⟩

theorem fresh_step {w : Dispatch} {t : List Callback} (h : Fresh w t) (e : Event) :
    Fresh (step w e) (t ++ out polkitIdentityHash w e) := by
  have hnow : ∀ n : Nat, n < w.requests ∨ e.isRequest = true ∧ n = w.requests →
      n < (step w e).requests := by
    intro n hn
    rw [requests_step]
    rcases hn with hn | ⟨hrequest, rfl⟩
    · omega
    · rw [hrequest]
      exact Nat.lt_succ_self _
  refine ⟨fun c hc => hnow _ ?_, fun f hf => hnow _ ?_, fun c hc => hnow _ ?_⟩
  · rcases mem_handlers_step hc with ⟨c', hc', heq⟩ | hnew
    · exact Or.inl (heq ▸ h.handlers c' hc')
    · exact Or.inr hnew
  · rcases mem_due_step hf with ⟨f', hf', heq⟩ | ⟨c, hc, heq⟩ | hnew
    · exact Or.inl (heq ▸ h.due f' hf')
    · exact Or.inl (heq ▸ h.handlers c hc)
    · exact Or.inr hnew
  · rcases List.mem_append.1 hc with hc | hc
    · exact Or.inl (h.callbacks c hc)
    · obtain ⟨f, hf, rfl⟩ := List.mem_map.1 hc
      rw [request_callback]
      rcases mem_made (Option.mem_toList.1 hf) with hf | hnew
      · exact Or.inl (h.due f hf)
      · exact Or.inr hnew

/-! ### What can happen to one request -/

section One

variable {n : Nat} {i : Initiation} {before : List GCancellable} {w : Dispatch} {t : List Callback}

theorem handlersOf_forget (n self : Nat) (w : Dispatch) :
    handlersOf n (w.forget self) = (handlersOf n w).map (Handler.forget self) := List.filter_map

theorem dueOf_forget (n self : Nat) (w : Dispatch) :
    dueOf n (w.forget self) = (dueOf n w).map (Due.forget self) := by
  rw [dueOf, forget, List.filter_map]
  simp only [Function.comp_def, Due.request_forget]
  rfl

/-- What the agent does with its listeners changes no request. -/
theorem stage_listener (h : Stage n i before w t) (e : Registry.Event) :
    Stage n i before (step w (.listener e))
      (t ++ out polkitIdentityHash w (.listener e)) := by
  have hout : t ++ out polkitIdentityHash w (.listener e) = t := List.append_nil t
  rw [hout]
  cases e with
  | construct c self registeredHandle => exact ⟨h.numbered, h.earlier, h.callbacks, h.handlers, h.due⟩
  | registerListener self r => exact ⟨h.numbered, h.earlier, h.callbacks, h.handlers, h.due⟩
  | destroy self =>
      have hhandlers : handlersOf n (step w (.listener (.destroy self))) =
          (handlersOf n w).map (Handler.forget self) := handlersOf_forget n self w
      have hdue : dueOf n (step w (.listener (.destroy self))) =
          (dueOf n w).map (Due.forget self) := dueOf_forget n self w
      refine ⟨h.numbered, h.earlier, ?_, ?_, ?_⟩
      · rw [hdue, List.map_map]
        simp only [Function.comp_def, Due.kind_forget]
        exact h.callbacks
      · rw [hhandlers, List.map_map]
        exact h.handlers
      · rw [hdue]
        intro hne
        exact h.due fun hnil => hne (by rw [hnil]; rfl)

/-- Another request has another number. -/
theorem stage_other (h : Stage n i before w t) (j : Initiation) :
    Stage n i before (step w (.initiateAuthentication j))
      (t ++ out polkitIdentityHash w (.initiateAuthentication j)) := by
  have hne : w.requests ≠ n := Nat.ne_of_gt h.numbered
  have hcallbacks : callbacksOf n (t ++ out polkitIdentityHash w (.initiateAuthentication j)) =
      callbacksOf n t := by
    have hmade : ∀ f ∈ w.made? (.initiateAuthentication j), f.request ≠ n := by
      intro f hf
      rw [made?] at hf
      split at hf
      · obtain rfl := Option.some.inj hf
        exact hne
      · split at hf <;>
          · obtain rfl := Option.some.inj hf
            exact hne
    rw [callbacksOf_append, callbacksOf_out, List.filter_eq_nil_iff.2, List.map_nil, List.append_nil]
    intro f hf
    simpa using hmade f (Option.mem_toList.1 hf)
  have hnumbered : n < (step w (.initiateAuthentication j)).requests := by
    rw [requests_step]
    exact Nat.lt_succ_of_lt h.numbered
  have hcancelled : (step w (.initiateAuthentication j)).cancelled = w.cancelled := by
    rw [step]
    split
    · rfl
    · split <;> rfl
  have hhandlers : handlersOf n (step w (.initiateAuthentication j)) = handlersOf n w := by
    rw [step]
    split
    · rfl
    · split
      · rfl
      · simp [handlersOf, handler, hne]
  have hdue : dueOf n (step w (.initiateAuthentication j)) = dueOf n w := by
    rw [step]
    split
    · rfl
    · split
      · simp [dueOf, Due.request, hne]
      · rfl
  exact ⟨hnumbered, by rw [hcancelled]; exact h.earlier,
    by rw [hcallbacks, hdue, hcancelled]; exact h.callbacks,
    by rw [hhandlers, hcancelled]; exact h.handlers, by rw [hdue, hcancelled]; exact h.due⟩

/-- A handler of the request is connected to its cancellable, which has not been cancelled. -/
theorem Stage.cancellable_of_mem (h : Stage n i before w t) {c : Handler} (hc : c ∈ handlersOf n w) :
    i.cancellable = some c.cancellable ∧ c.cancellable ∉ w.cancelled := by
  have hmem : c.cancellable ∈ connectedTo i w.cancelled := by
    rw [← h.handlers]
    exact List.mem_map_of_mem hc
  rw [connectedTo, List.mem_filter, Option.mem_toList] at hmem
  exact ⟨hmem.1, by simpa using hmem.2⟩

/-- A cancellation makes the calls of its handlers due. -/
theorem stage_cancel (h : Stage n i before w t) (cancellable : GCancellable) :
    Stage n i before (step w (.cancel cancellable))
      (t ++ out polkitIdentityHash w (.cancel cancellable)) := by
  have hout : t ++ out polkitIdentityHash w (.cancel cancellable) = t := List.append_nil t
  rw [hout]
  by_cases hmem : cancellable ∈ w.cancelled
  · rw [step, if_pos hmem]
    exact h
  · have hhandlers : handlersOf n (step w (.cancel cancellable)) =
        (handlersOf n w).filter fun c => c.cancellable ≠ cancellable := by
      rw [step, if_neg hmem, handlersOf, handlersOf, List.filter_comm]
    have hdue : dueOf n (step w (.cancel cancellable)) =
        ((handlersOf n w).filter fun c => c.cancellable = cancellable).map Due.cancelledCb ++
          dueOf n w := by
      rw [step, if_neg hmem, dueOf, dueOf, List.filter_append, List.filter_map, handlersOf,
        List.filter_comm]
      rfl
    have hcancelled : (step w (.cancel cancellable)).cancelled = cancellable :: w.cancelled := by
      rw [step, if_neg hmem]
    by_cases his : i.cancellable = some cancellable
    · -- it is the cancellable of the request: the handler that is connected goes
      have hnone : dueOf n w = [] := by
        by_contra hne
        obtain ⟨c, hc, hc'⟩ := h.due hne
        rw [his] at hc
        obtain rfl := Option.some.inj hc
        exact hmem hc'
      have hone : (handlersOf n w).map Handler.cancellable = [cancellable] := by
        rw [h.handlers, connectedTo, his]
        simp [hmem]
      obtain ⟨c, hc, rfl⟩ := List.map_eq_singleton_iff.1 hone
      have hearly : c.cancellable ∉ before := fun hc => hmem (h.earlier hc)
      have hcallbacks := h.callbacks
      rw [hnone, List.map_nil, List.append_nil, expected, his] at hcallbacks
      simp only [hearly, hmem, if_false] at hcallbacks
      refine ⟨?_, ?_, ?_, ?_, ?_⟩
      · rw [requests_step]
        exact Nat.lt_add_right _ h.numbered
      · rw [hcancelled]
        exact List.subset_cons_of_subset _ h.earlier
      · rw [hdue, hc, hnone, hcancelled, hcallbacks, expected, his]
        simp [hearly, Due.kind]
      · rw [hhandlers, hc, hcancelled, connectedTo, his]
        simp
      · rw [hcancelled]
        exact fun _ => ⟨c.cancellable, his, List.mem_cons_self ..⟩
    · -- it is another: no handler of the request is connected to it
      have hother : ∀ c ∈ handlersOf n w, c.cancellable ≠ cancellable := by
        intro c hc heq
        exact his (heq ▸ (h.cancellable_of_mem hc).1)
      have hkeep : ((handlersOf n w).filter fun c => c.cancellable ≠ cancellable) =
          handlersOf n w := List.filter_eq_self.2 fun c hc => by simpa using hother c hc
      have hnone : ((handlersOf n w).filter fun c => c.cancellable = cancellable) = [] :=
        List.filter_eq_nil_iff.2 fun c hc => by simpa using hother c hc
      rw [hkeep] at hhandlers
      rw [hnone, List.map_nil, List.nil_append] at hdue
      have hiff : ∀ c ∈ i.cancellable, c ∈ cancellable :: w.cancelled ↔ c ∈ w.cancelled := by
        intro c hc
        rw [List.mem_cons]
        refine or_iff_right ?_
        rintro rfl
        exact his hc
      refine ⟨?_, ?_, ?_, ?_, ?_⟩
      · rw [requests_step]
        exact Nat.lt_add_right _ h.numbered
      · rw [hcancelled]
        exact List.subset_cons_of_subset _ h.earlier
      · rw [hdue, hcancelled, h.callbacks, expected, expected]
        cases hi : i.cancellable with
        | none => rfl
        | some c => simp only [hiff c hi]
      · rw [hhandlers, hcancelled, h.handlers, connectedTo, connectedTo]
        refine List.filter_congr fun c hc => ?_
        rw [decide_eq_decide, not_iff_not]
        exact (hiff c (Option.mem_toList.1 hc)).symm
      · rw [hdue, hcancelled]
        intro hne
        obtain ⟨c, hc, hc'⟩ := h.due hne
        exact ⟨c, hc, List.mem_cons_of_mem _ hc'⟩

/-- A call that is due is made. -/
theorem stage_next (h : Stage n i before w t) :
    Stage n i before (step w .next) (t ++ out polkitIdentityHash w .next) := by
  have hdue : dueOf n w = ((w.made? .next).toList.filter fun f => f.request = n) ++
      dueOf n (step w .next) := by
    rw [dueOf, dueOf, made?, step, ← List.filter_append]
    congr 1
    cases w.due <;> rfl
  refine ⟨h.numbered, h.earlier, ?_, h.handlers, ?_⟩
  · rw [callbacksOf_append, callbacksOf_out, List.append_assoc, ← List.map_append, ← hdue]
    exact h.callbacks
  · intro hne
    exact h.due fun hnil => hne (List.append_eq_nil_iff.1 (hdue.symm.trans hnil)).2

/-- **What can happen to one request**, whatever happens to the others. -/
theorem stage_step (h : Stage n i before w t) (e : Event) :
    Stage n i before (step w e) (t ++ out polkitIdentityHash w e) := by
  cases e with
  | listener e => exact stage_listener polkitIdentityHash h e
  | initiateAuthentication j => exact stage_other polkitIdentityHash h j
  | cancel cancellable => exact stage_cancel polkitIdentityHash h cancellable
  | next => exact stage_next polkitIdentityHash h

/-- A request begins: its handler is connected, or called at once. -/
theorem stage_new (h : Fresh w t) (i : Initiation) :
    Stage w.requests i w.cancelled (step w (.initiateAuthentication i))
      (t ++ out polkitIdentityHash w (.initiateAuthentication i)) := by
  have hhandlers : handlersOf w.requests w = [] :=
    List.filter_eq_nil_iff.2 fun c hc => by simpa using Nat.ne_of_lt (h.handlers c hc)
  have hdue : dueOf w.requests w = [] :=
    List.filter_eq_nil_iff.2 fun f hf => by simpa using Nat.ne_of_lt (h.due f hf)
  have hcallbacks : callbacksOf w.requests t = [] := by
    rw [callbacksOf, List.filter_eq_nil_iff.2 fun c hc => ?_, List.map_nil]
    simpa using Nat.ne_of_lt (h.callbacks c hc)
  have hnumbered : w.requests < (step w (.initiateAuthentication i)).requests := by
    rw [requests_step]
    exact Nat.lt_succ_self _
  have hold : callbacksOf w.requests (t ++ out polkitIdentityHash w (.initiateAuthentication i)) =
      ((w.made? (.initiateAuthentication i)).toList.filter fun f => f.request = w.requests).map
        Due.kind := by
    rw [callbacksOf_append, hcallbacks, List.nil_append, callbacksOf_out]
  cases hi : i.cancellable with
  | none =>
      have hstep : step w (.initiateAuthentication i) = { w with requests := w.requests + 1 } := by
        simp only [step, hi]
      have hmade : w.made? (.initiateAuthentication i) =
          some (.initiateAuthentication w.requests i) := by
        simp only [made?, hi]
      rw [hstep] at hnumbered ⊢
      refine ⟨hnumbered, List.Subset.refl _, ?_, ?_, fun hne => absurd hdue hne⟩
      · rw [hold, hmade, show dueOf w.requests { w with requests := w.requests + 1 } = [] from hdue]
        simp [expected, hi, Due.request, Due.kind]
      · rw [show handlersOf w.requests { w with requests := w.requests + 1 } = [] from hhandlers,
          connectedTo, hi]
        rfl
  | some cancellable =>
      by_cases hmem : cancellable ∈ w.cancelled
      · -- the handler is called at once, and the rest of the request is due
        have hstep : step w (.initiateAuthentication i) =
            { w with
              due := .initiateAuthentication w.requests i :: w.due
              requests := w.requests + 1 } := by
          simp only [step, hi, if_pos hmem]
        have hmade : w.made? (.initiateAuthentication i) =
            some (.cancelledCb (w.handler i cancellable)) := by
          simp only [made?, hi, if_pos hmem]
        have hnow : dueOf w.requests (step w (.initiateAuthentication i)) =
            [.initiateAuthentication w.requests i] := by
          rw [hstep, dueOf, List.filter_cons_of_pos (by simp [Due.request])]
          exact congrArg _ hdue
        refine ⟨hnumbered, by rw [hstep]; exact List.Subset.refl _, ?_, ?_, fun _ => ?_⟩
        · rw [hold, hmade, hnow, expected, hi]
          simp [hmem, Due.request, Due.kind, handler]
        · have hconnected : handlersOf w.requests (step w (.initiateAuthentication i)) = [] := by
            rw [hstep]
            exact hhandlers
          rw [hconnected, hstep, connectedTo, hi]
          simp [hmem]
        · rw [hstep]
          exact ⟨cancellable, hi, hmem⟩
      · have hstep : step w (.initiateAuthentication i) =
            { w with
              handlers := w.handlers ++ [w.handler i cancellable]
              requests := w.requests + 1 } := by
          simp only [step, hi, if_neg hmem]
        have hmade : w.made? (.initiateAuthentication i) =
            some (.initiateAuthentication w.requests i) := by
          simp only [made?, hi, if_neg hmem]
        have hnow : dueOf w.requests (step w (.initiateAuthentication i)) = [] := by
          rw [hstep]
          exact hdue
        have hconnected : handlersOf w.requests (step w (.initiateAuthentication i)) =
            [w.handler i cancellable] := by
          rw [hstep, handlersOf, List.filter_append, List.filter_cons_of_pos (by simp [handler])]
          exact congrArg (· ++ [w.handler i cancellable]) hhandlers
        refine ⟨hnumbered, by rw [hstep]; exact List.Subset.refl _, ?_, ?_,
          fun hne => absurd hnow hne⟩
        · rw [hold, hmade, hnow, hstep, expected, hi]
          simp [hmem, Due.request, Due.kind]
        · rw [hconnected, hstep, connectedTo, hi]
          simp [hmem, handler]

end One

/-! ### Over a run -/

theorem fresh_run (es : List Event) :
    Fresh (run step start es) (trace step (out polkitIdentityHash) start es) := by
  refine trace_induction (P := Fresh) (fun w t e h => fresh_step polkitIdentityHash h e) ?_ es
  exact ⟨fun _ h => absurd h List.not_mem_nil, fun _ h => absurd h List.not_mem_nil,
    fun _ h => absurd h List.not_mem_nil⟩

theorem stage_run (pre : List Event) (i : Initiation) (post : List Event) :
    let before := run step start pre
    let es := pre ++ .initiateAuthentication i :: post
    Stage before.requests i before.cancelled (run step start es)
      (trace step (out polkitIdentityHash) start es) := by
  intro before es
  induction post using List.reverseRecOn with
  | nil =>
      have h := stage_new polkitIdentityHash (fresh_run polkitIdentityHash pre) i
      simpa [es, before] using h
  | append_singleton post e ih =>
      have h := stage_step polkitIdentityHash ih e
      simpa [es, before] using h

theorem requests_run (es : List Event) :
    (run step start es).requests = es.countP Event.isRequest := by
  induction es using List.reverseRecOn with
  | nil => rfl
  | append_singleton es e ih =>
      rw [run_append, run_cons, run_nil, requests_step, ih, countP_concat]

end Requests

end Dispatch

end Agent

end PolkitQt
