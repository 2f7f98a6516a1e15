/-
**The protocol between a client, the authority and polkit.**

The eight kinds of request go through three patterns of code and one table of values.  What a client
and polkit see of them can be said without that code, as a labelled transition system over the
observations: a synchronous call sends its request, has the answer next and returns next; an
asynchronous one sends its request and is done; a later answer to it closes it, and is followed at once
by its signal, or by nothing.

The state is what a client has to remember to know what may come next: what it is waiting for, the
requests that are open, and how many there have been.

Main definitions:

* `PolkitQt.Authority.Protocol`, `PolkitQt.Authority.Protocol.Follows` — the protocol;
* `Obs.started?`, `Obs.delivered?`, `Obs.repliedAs?`, `Obs.finishedAs?` — what a client could keep
  books of.

Main results:

* `PolkitQt.Authority.react_leads` — **every event follows the protocol**;
* `PolkitQt.Authority.Protocol.async_follows`, `PolkitQt.Authority.Protocol.signals_follows` — what a
  transition does to the books;
* `PolkitQt.Authority.requests_accounted` — no request of any kind is lost, none is answered twice, and
  the signals of every kind are the answers polkit gave, in their order.
-/

import PolkitQt.AuthoritySystem

set_option relaxedAutoImplicit false
set_option autoImplicit false

namespace PolkitQt

namespace Authority

open Runs

/-! ### The protocol -/

/-- What comes next, if anything has to: the answer to a synchronous request, sent with an error
latched or not; the return of a synchronous method; a signal. -/
inductive Phase
  | idle
  | asked (id : Nat) (k : Kind) (latched : Bool)
  | returning (k : Kind) (value : k.Value) (hasError : Bool)
  | signalling (k : Kind) (value : k.Value)

namespace Phase

/-- A synchronous method has its answer: it returns the value and leaves the latch alone, or it
returns the fallback with an error latched. -/
def settle (k : Kind) (latched : Bool) (reply : Reply k) : Phase :=
  match k.outcome reply with
  | .ok v => returning k v latched
  | .error _ => returning k k.fallback true

/-- A callback has its answer: there is a value to signal, or nothing. -/
def deliver (k : Kind) (reply : Reply k) : Phase :=
  match k.outcome reply with
  | .ok v => signalling k v
  | .error _ => idle

end Phase

/-- What a client remembers. -/
structure Protocol where
  phase : Phase
  opened : List Pending
  next : Nat

namespace Protocol

def start : Protocol := ⟨.idle, [], 0⟩

/-- What may be observed, and what is remembered of it. -/
inductive Follows : Protocol → Obs → Protocol → Prop
  /-- A synchronous method sends a request. -/
  | ask (opened : List Pending) (next : Nat) (request : Request) (latched : Bool) :
      Follows ⟨.idle, opened, next⟩ (.sent next none request latched)
        ⟨.asked next request.kind latched, opened, next + 1⟩
  /-- polkit answers it. -/
  | settle (opened : List Pending) (next id : Nat) (k : Kind) (latched : Bool) (reply : Reply k) :
      Follows ⟨.asked id k latched, opened, next⟩ (.answered id false k reply)
        ⟨.settle k latched reply, opened, next⟩
  /-- The method returns. -/
  | returned (opened : List Pending) (next : Nat) (k : Kind) (v : k.Value) (hasError : Bool) :
      Follows ⟨.returning k v hasError, opened, next⟩ (.returned k v hasError) ⟨.idle, opened, next⟩
  /-- A synchronous method is refused. -/
  | refused (opened : List Pending) (next : Nat) (k : Kind) (hasError : Bool) :
      Follows ⟨.idle, opened, next⟩ (.returned k k.fallback hasError) ⟨.idle, opened, next⟩
  /-- An asynchronous method sends a request; it does so with no error latched only. -/
  | start (opened : List Pending) (next : Nat) (c : GCancellable) (request : Request) :
      Follows ⟨.idle, opened, next⟩ (.sent next (some c) request false)
        ⟨.idle, ⟨next, request.kind, c.isCancelled⟩ :: opened, next + 1⟩
  /-- polkit answers one that is open. -/
  | deliver (opened : List Pending) (next : Nat) (p : Pending) (reply : Reply p.kind)
      (h : p ∈ opened) :
      Follows ⟨.idle, opened, next⟩ (.answered p.id true p.kind reply)
        ⟨.deliver p.kind reply, opened.erase p, next⟩
  /-- The answer is signalled. -/
  | signalled (opened : List Pending) (next : Nat) (k : Kind) (v : k.Value) :
      Follows ⟨.signalling k v, opened, next⟩ (.finished k v) ⟨.idle, opened, next⟩

end Protocol

/-- What a client remembers between two events. -/
def System.protocol (s : System) : Protocol := ⟨.idle, s.inFlight, s.next⟩

/-- **One event follows the protocol.** -/
theorem react_leads (s : System) (e : Event) :
    Leads Protocol.Follows s.protocol (out s e) (step s e).protocol := by
  refine reaction_elim s e fun s' obs hreact => ?_
  cases hreact with
  | quiet hin hnext =>
      rw [System.protocol, System.protocol, hin, hnext]
      exact Leads.nil _
  | refused k hin hnext _ =>
      rw [System.protocol, System.protocol, hin, hnext]
      exact Leads.single (.refused _ _ k s'.d.hasError)
  | asked k request reply v hin hnext hreq hv hd =>
      obtain rfl := hreq.kind
      have hsettled : Phase.settle request.kind s.d.hasError reply =
          .returning request.kind v s.d.hasError := by rw [Phase.settle, hv]
      rw [System.protocol, System.protocol, hin, hnext, hd]
      refine Leads.cons (.ask _ _ request _) (Leads.cons (.settle _ _ _ _ _ reply) ?_)
      rw [hsettled]
      exact Leads.single (.returned _ _ _ v _)
  | failed k request reply x hin hnext hreq hx hd =>
      obtain rfl := hreq.kind
      have hsettled : Phase.settle request.kind s.d.hasError reply =
          .returning request.kind request.kind.fallback true := by rw [Phase.settle, hx]
      rw [System.protocol, System.protocol, hin, hnext, hd]
      refine Leads.cons (.ask _ _ request _) (Leads.cons (.settle _ _ _ _ _ reply) ?_)
      rw [hsettled]
      exact Leads.single (.returned _ _ _ _ _)
  | started k request hreq hlatch hin hnext =>
      obtain rfl := hreq.kind
      rw [System.protocol, System.protocol, hin, hnext, hlatch]
      exact Leads.single (.start _ _ _ request)
  | signalled p reply v hp hin hnext hv =>
      have hdelivered : Phase.deliver p.kind reply = .signalling p.kind v := by
        rw [Phase.deliver, hv]
      rw [System.protocol, System.protocol, hin, hnext]
      refine Leads.cons (.deliver _ _ p reply hp) ?_
      rw [hdelivered]
      exact Leads.single (.signalled _ _ _ v)
  | ended p reply x hp hin hnext hx =>
      have hdelivered : Phase.deliver p.kind reply = .idle := by rw [Phase.deliver, hx]
      have hlast : (⟨.idle, s.inFlight.erase p, s.next⟩ : Protocol) =
          ⟨.deliver p.kind reply, s.inFlight.erase p, s.next⟩ := by rw [hdelivered]
      rw [System.protocol, System.protocol, hin, hnext, hlast]
      exact Leads.single (.deliver _ _ p reply hp)

theorem run_leads (d : Private) (es : List Event) :
    Leads Protocol.Follows Protocol.start (traceFrom d es) (runFrom d es).protocol :=
  leads_trace (c := System.protocol) react_leads (System.start d) es

/-! ### The books -/

/-- The number and the kind of a request. -/
def Pending.key (p : Pending) : Nat × Kind := (p.id, p.kind)

/-- The number of a request. -/
def Obs.sentId? : Obs → Option Nat
  | .sent id .. => some id
  | _ => none

/-- A synchronous request goes out. -/
def Obs.asked? : Obs → Option (Nat × Kind)
  | .sent id none request _ => some (id, request.kind)
  | _ => none

/-- A synchronous request is answered. -/
def Obs.settled? : Obs → Option (Nat × Kind)
  | .answered id false k _ => some (id, k)
  | _ => none

/-- An asynchronous request goes out. -/
def Obs.started? : Obs → Option (Nat × Kind)
  | .sent id (some _) request _ => some (id, request.kind)
  | _ => none

/-- An asynchronous request is answered. -/
def Obs.delivered? : Obs → Option (Nat × Kind)
  | .answered id true k _ => some (id, k)
  | _ => none

/-- The argument of the signal of kind `k`. -/
def Obs.finishedAs? (k : Kind) : Obs → Option k.Value
  | .finished j v => if h : j = k then some (h ▸ v) else none
  | _ => none

/-- What polkit's answer to an asynchronous request of kind `k` says, if it is not an error. -/
def Obs.repliedAs? (k : Kind) : Obs → Option k.Value
  | .answered _ true j reply =>
      if h : j = k then
        match j.outcome reply with
        | .ok v => some (h ▸ v)
        | .error _ => none
      else none
  | _ => none

/-- The numbers of the asynchronous requests, among all. -/
theorem started_sublist (t : List Obs) :
    ((t.filterMap Obs.started?).map Prod.fst).Sublist (t.filterMap Obs.sentId?) := by
  induction t with
  | nil => exact List.Sublist.refl _
  | cons o t ih =>
      rw [filterMap_cons_toList, filterMap_cons_toList, List.map_append]
      refine List.Sublist.append ?_ ih
      cases o with
      | sent id c request latched =>
          cases c with
          | none => exact List.nil_sublist _
          | some c => exact List.Sublist.refl _
      | _ => exact List.Sublist.refl _

namespace Phase

/-- The synchronous request that waits for its answer. -/
def waiting : Phase → List (Nat × Kind)
  | asked id k _ => [(id, k)]
  | _ => []

/-- The signal of kind `k` that is due. -/
def due (k : Kind) : Phase → List k.Value
  | signalling j v => (Obs.finished j v).finishedAs? k |>.toList
  | _ => []

@[simp] theorem waiting_settle (k : Kind) (latched : Bool) (reply : Reply k) :
    (settle k latched reply).waiting = [] := by
  rw [settle]
  split <;> rfl

@[simp] theorem due_settle (j k : Kind) (latched : Bool) (reply : Reply k) :
    (settle k latched reply).due j = [] := by
  rw [settle]
  split <;> rfl

@[simp] theorem waiting_deliver (k : Kind) (reply : Reply k) : (deliver k reply).waiting = [] := by
  rw [deliver]
  split <;> rfl

/-- What is due after an answer is what the answer says. -/
theorem due_deliver (id : Nat) (j k : Kind) (reply : Reply k) :
    (deliver k reply).due j = ((Obs.answered id true k reply).repliedAs? j).toList := by
  rw [deliver, Obs.repliedAs?]
  cases k.outcome reply with
  | ok v => rfl
  | error x =>
      simp only [due, dite_eq_ite, ite_self, Option.toList_none]

end Phase

namespace Protocol

/-- Requests are numbered as they come. -/
theorem numbers_follows {p q : Protocol} {o : Obs} (h : Follows p o q) :
    List.range p.next ++ (Obs.sentId? o).toList = List.range q.next := by
  cases h with
  | ask | start => exact List.range_succ.symm
  | _ => exact List.append_nil _

/-- A synchronous request waits until it is answered. -/
theorem sync_follows {p q : Protocol} {o : Obs} (h : Follows p o q) :
    p.phase.waiting ++ (Obs.asked? o).toList = (Obs.settled? o).toList ++ q.phase.waiting := by
  cases h with
  | settle opened next id k latched reply => rw [Phase.waiting_settle]; rfl
  | deliver opened next p reply hp => rw [Phase.waiting_deliver]; rfl
  | _ => rfl

/-- An asynchronous request is open until it is answered. -/
theorem async_follows {p q : Protocol} {o : Obs} (h : Follows p o q) :
    (p.opened.map Pending.key ++ (Obs.started? o).toList).Perm
      ((Obs.delivered? o).toList ++ q.opened.map Pending.key) := by
  cases h with
  | start opened next c request => exact List.perm_append_comm
  | deliver opened next p reply hp =>
      have hperm := (List.perm_cons_erase hp).map Pending.key
      simpa [Obs.started?, Obs.delivered?, Pending.key] using hperm
  | _ => exact List.perm_append_comm

/-- A signal is due from the answer on until it is emitted. -/
theorem signals_follows (k : Kind) {p q : Protocol} {o : Obs} (h : Follows p o q) :
    p.phase.due k ++ (Obs.repliedAs? k o).toList = (Obs.finishedAs? k o).toList ++ q.phase.due k := by
  cases h with
  | settle opened next id j latched reply => rw [Phase.due_settle]; rfl
  | deliver opened next p reply hp => exact (Phase.due_deliver p.id k p.kind reply).symm
  | signalled opened next j v => rfl
  | _ => rfl

end Protocol

/-- **No request is lost, none is answered twice, and every signal is an answer.**  Every run of the
authority, from whatever its constructor left, is a run of the protocol, with the requests in flight
open.  So polkit receives the requests under numbers of their own; a synchronous one is answered before
anything else is observed; the asynchronous ones are those polkit has answered, once each and for the
kind they are of, and those in flight; and the signals of each of the eight kinds carry what polkit's
answers to the asynchronous requests of the kind say, in the order of the answers, errors left out. -/
theorem requests_accounted (lastError : ErrorCode) (authority : Option PolkitAuthority)
    (get : Except GError (Option PolkitAuthority)) (es : List Event) :
    let d := Private.construct lastError authority get
    let t := traceFrom d es
    let open' := (runFrom d es).inFlight.map Pending.key
    Leads Protocol.Follows Protocol.start t (runFrom d es).protocol ∧
      t.filterMap Obs.sentId? = List.range (runFrom d es).next ∧
      t.filterMap Obs.asked? = t.filterMap Obs.settled? ∧
      ((t.filterMap Obs.started?).Perm (t.filterMap Obs.delivered? ++ open') ∧
        ((t.filterMap Obs.delivered? ++ open').map Prod.fst).Nodup) ∧
      ∀ k, t.filterMap (Obs.finishedAs? k) = t.filterMap (Obs.repliedAs? k) := by
  intro d t open'
  have hleads : Leads Protocol.Follows Protocol.start t (runFrom d es).protocol := run_leads d es
  have hnumbers : t.filterMap Obs.sentId? = List.range (runFrom d es).next := by
    have h := hleads.fifo (g := fun _ => none) fun p o q ho => Protocol.numbers_follows ho
    simpa [Protocol.start, System.protocol] using h
  have hsync : t.filterMap Obs.asked? = t.filterMap Obs.settled? := by
    have h := hleads.fifo fun p o q ho => Protocol.sync_follows ho
    simpa [Protocol.start, System.protocol, Phase.waiting] using h
  have hasync : (t.filterMap Obs.started?).Perm (t.filterMap Obs.delivered? ++ open') :=
    hleads.bag fun p o q ho => Protocol.async_follows ho
  refine ⟨hleads, hnumbers, hsync, ⟨hasync, ?_⟩, fun k => ?_⟩
  · -- the numbers of the asynchronous requests are among all the numbers
    have hnodup : (t.filterMap Obs.sentId?).Nodup := by
      rw [hnumbers]
      exact List.nodup_range
    exact ((hasync.map Prod.fst).nodup_iff).1 (hnodup.sublist (started_sublist t))
  · have h := hleads.fifo fun p o q ho => Protocol.signals_follows k ho
    simpa [Protocol.start, System.protocol, Phase.due] using h.symm

end Authority

end PolkitQt
