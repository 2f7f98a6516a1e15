/-
**The seats of ConsoleKit: subscribe, take a snapshot, subscribe to what it lists.**

The authority wants the signals of every seat.  Its constructor subscribes to the announcements of
new seats, asks ConsoleKit for the seats there are, and subscribes to the five signals of each;
later every announcement that reaches `dbusFilter` adds the five signals of the seat it names.
Seats come and go all the while.  What a seat that is missing from the snapshot owes to the
announcement, and one that is missing from the announcements to the snapshot, is the invariant of
this module.

A signal is put on the bus only for a process that has subscribed to it by then, and the messages
reach `dbusFilter` in the order they were sent.  `GetSeats` is served at any time between the call
and the return; nothing depends on how its reply is ordered among the signals.

Main definitions:

* `PolkitQt.Seats.System`, `PolkitQt.Seats.step` — ConsoleKit, the bus, `init` and `dbusFilter`;
* `PolkitQt.Seats.Accounted` — where the signals of a seat are to come from;
* `PolkitQt.Seats.Subscribed` — a signal of a seat is connected, by its name.

Main results:

* `PolkitQt.Seats.inv_step` — every seat stays accounted for;
* `PolkitQt.Seats.noSeatMissed_run` — over every run, the five signals of a seat are connected once
  `init` has succeeded and no announcement of it is in flight.
-/

import PolkitQt.Runs
import PolkitQt.Authority

set_option relaxedAutoImplicit false
set_option autoImplicit false

namespace PolkitQt

namespace Seats

open Runs

/-! ### The bus -/

/-- A seat, known by its object path. -/
abbrev Seat := QString

inductive Service
  | dbus
  | consoleKit
  deriving DecidableEq, Repr

inductive ObjectPath
  | root
  | consoleKitManager
  | seat (seat : Seat)
  deriving DecidableEq, Repr

inductive Interface
  | dbus
  | consoleKitManager
  | consoleKitSeat
  deriving DecidableEq, Repr

inductive Member
  | nameOwnerChanged
  | seatAdded
  | seatRemoved
  | deviceAdded
  | deviceRemoved
  | sessionAdded
  | sessionRemoved
  | activeSessionChanged
  deriving DecidableEq, Repr

/-- A signal of an object; what `dbusSignalAdd` connects to `dbusFilter`. -/
structure Connection where
  service : Service
  path : ObjectPath
  interface : Interface
  name : Member
  deriving DecidableEq, Repr

/-- A signal message: an announcement of the manager, or any other signal. -/
inductive Message
  | seatAdded (seat : Seat)
  | seatRemoved (seat : Seat)
  | other (source : Connection)
  deriving DecidableEq, Repr

def nameOwnerChanged : Connection := ⟨.dbus, .root, .dbus, .nameOwnerChanged⟩

def seatAdded : Connection := ⟨.consoleKit, .consoleKitManager, .consoleKitManager, .seatAdded⟩

def seatRemoved : Connection :=
  ⟨.consoleKit, .consoleKitManager, .consoleKitManager, .seatRemoved⟩

/-- The signals `seatSignalsConnect` connects, in its order. -/
def seatSignals (seat : Seat) : List Connection :=
  [.deviceAdded, .deviceRemoved, .sessionAdded, .sessionRemoved, .activeSessionChanged].map
    fun name => ⟨.consoleKit, .seat seat, .consoleKitSeat, name⟩

/-! ### The process -/

/-- How far `init` is, once there is a `PolkitAuthority`. -/
inductive Init
  /-- It has these signals to connect, and then calls `GetSeats`. -/
  | connecting (todo : List Connection)
  /-- The call has been sent. -/
  | calling
  /-- ConsoleKit has replied; `none` is an error, or a reply without arguments. -/
  | replied (seats : Option (List Seat))
  /-- It has these signals of the seats returned to connect. -/
  | looping (todo : List Connection)
  | finished (successful : Bool)
  deriving DecidableEq, Repr

/-- The connections `init` makes before it asks for the seats. -/
def managerSignals : List Connection := [nameOwnerChanged, seatAdded, seatRemoved]

/-- `init` returns early when there is no `PolkitAuthority`. -/
def Init.start (d : Authority.Private) : Init :=
  match d.pkAuthority with
  | none => .finished false
  | some _ => .connecting managerSignals

/-- The signal the authority emits. -/
inductive Emitted
  | consoleKitDBChanged
  deriving DecidableEq, Repr

/-- What `dbusFilter` does with a signal message: the signals it emits, and the connections it
makes. -/
def dbusFilter (message : Message) : List Emitted × List Connection :=
  match message with
  | .seatAdded seat => ([.consoleKitDBChanged], seatSignals seat)
  | .seatRemoved _ => ([.consoleKitDBChanged], [])
  | .other _ => ([.consoleKitDBChanged], [])

/-! ### The system -/

/-- ConsoleKit's seats, the messages sent and not yet delivered, the connections of the process,
how far `init` is, and the connections the present call of `dbusFilter` still has to make. -/
structure System where
  seats : List Seat
  queue : List Message
  connections : List Connection
  init : Init
  filter : List Connection
  deriving DecidableEq, Repr

inductive Event
  /-- A seat appears at ConsoleKit. -/
  | addSeat (seat : Seat)
  /-- A seat disappears. -/
  | removeSeat (seat : Seat)
  /-- A signal other than the manager's two is emitted. -/
  | signal (source : Connection)
  /-- ConsoleKit serves `GetSeats`, or fails. -/
  | serve (successful : Bool)
  /-- `init` takes its next step. -/
  | proceed
  /-- The next message is delivered to `dbusFilter`. -/
  | deliver
  /-- `dbusFilter` makes its next connection. -/
  | connect
  deriving DecidableEq, Repr

/-- The bus queues a message for a process that has connected its signal. -/
def System.send (w : System) (source : Connection) (message : Message) : System :=
  if source ∈ w.connections then { w with queue := w.queue ++ [message] } else w

/-- One step of `init`. -/
def proceed (w : System) : System :=
  match w.init with
  | .connecting (c :: todo) =>
      { w with connections := c :: w.connections, init := .connecting todo }
  | .connecting [] => { w with init := .calling }
  | .calling => w
  | .replied (some seats) => { w with init := .looping (seats.flatMap seatSignals) }
  | .replied none => { w with init := .finished false }
  | .looping (c :: todo) => { w with connections := c :: w.connections, init := .looping todo }
  | .looping [] => { w with init := .finished true }
  | .finished _ => w

def step (w : System) : Event → System
  | .addSeat seat =>
      if seat ∈ w.seats then w
      else System.send { w with seats := w.seats ++ [seat] } Seats.seatAdded (.seatAdded seat)
  | .removeSeat seat =>
      if seat ∈ w.seats then
        System.send { w with seats := w.seats.filter (· ≠ seat) } Seats.seatRemoved
          (.seatRemoved seat)
      else w
  | .signal source => w.send source (.other source)
  | .serve successful =>
      match w.init with
      | .calling => { w with init := .replied (if successful then some w.seats else none) }
      | _ => w
  | .proceed => proceed w
  | .deliver =>
      match w.filter, w.queue with
      | [], message :: queue => { w with queue := queue, filter := (dbusFilter message).2 }
      | _, _ => w
  | .connect =>
      match w.filter with
      | [] => w
      | c :: filter => { w with connections := c :: w.connections, filter := filter }

/-- The signals emitted at an event. -/
def out (w : System) : Event → List Emitted
  | .deliver =>
      match w.filter, w.queue with
      | [], message :: _ => (dbusFilter message).1
      | _, _ => []
  | _ => []

/-- The process starts; ConsoleKit has some seats already. -/
def start (d : Authority.Private) (seats : List Seat) : System where
  seats := seats
  queue := []
  connections := []
  init := .start d
  filter := []

/-! ### Accounts -/

/-- An announcement of the seat is on its way, or `dbusFilter` has a signal of the seat left to
connect. -/
def InFlight (w : System) (seat : Seat) : Prop :=
  Message.seatAdded seat ∈ w.queue ∨
    ∃ name, (⟨.consoleKit, .seat seat, .consoleKitSeat, name⟩ : Connection) ∈ w.filter

/-- The signal of this name, which ConsoleKit emits at the seat, is connected. -/
def Subscribed (w : System) (seat : Seat) (name : Member) : Prop :=
  (⟨.consoleKit, .seat seat, .consoleKitSeat, name⟩ : Connection) ∈ w.connections

instance (w : System) (seat : Seat) (name : Member) : Decidable (Subscribed w seat name) :=
  inferInstanceAs (Decidable (_ ∈ _))

/-- The connections `init` has yet to make of the seats returned. -/
def Init.looped : Init → List Connection
  | looping todo => todo
  | connecting _ | calling | replied _ | finished _ => []

/-- `init` may yet connect the seat, or is left without a snapshot. -/
def Init.Awaits (seat : Seat) : Init → Prop
  | connecting _ | calling | replied none | finished false => True
  | replied (some seats) => seat ∈ seats
  | looping _ | finished true => False

/-- The signal is connected, or about to be. -/
def Coming (w : System) (c : Connection) : Prop :=
  c ∈ w.connections ∨ c ∈ w.filter ∨ c ∈ w.init.looped

/-- Where the signals of a seat are to come from. -/
inductive Accounted (w : System) (seat : Seat) : Prop
  | coming (h : ∀ c ∈ seatSignals seat, Coming w c)
  /-- The announcement is on its way. -/
  | announced (h : Message.seatAdded seat ∈ w.queue)
  /-- The snapshot is yet to be taken, or has the seat, or never comes. -/
  | awaited (h : w.init.Awaits seat)

/-- Announcements are subscribed to before the call of `GetSeats`. -/
def Init.Listens (connections : List Connection) : Init → Prop
  | connecting todo => seatAdded ∈ connections ∨ seatAdded ∈ todo
  | calling | replied (some _) | looping _ | finished true => seatAdded ∈ connections
  | replied none | finished false => True

/-- The invariant. -/
structure Inv (w : System) : Prop where
  listening : w.init.Listens w.connections
  accounted : ∀ seat ∈ w.seats, Accounted w seat

theorem Init.Listens.mono {connections connections' : List Connection} {init : Init}
    (h : init.Listens connections) (hmono : ∀ c ∈ connections, c ∈ connections') :
    init.Listens connections' := by
  cases init with
  | connecting todo => exact h.imp_left (hmono _)
  | calling => exact hmono _ h
  | replied seats =>
      cases seats with
      | none => trivial
      | some seats => exact hmono _ h
  | looping todo => exact hmono _ h
  | finished successful =>
      cases successful with
      | true => exact hmono _ h
      | false => trivial

/-- Until it is subscribed, every seat is awaited. -/
theorem Init.Listens.awaits {connections : List Connection} {init : Init}
    (h : init.Listens connections) (hnot : seatAdded ∉ connections) (seat : Seat) :
    init.Awaits seat := by
  cases init with
  | connecting todo => trivial
  | calling => trivial
  | replied seats =>
      cases seats with
      | none => trivial
      | some seats => exact absurd h hnot
  | looping todo => exact absurd h hnot
  | finished successful =>
      cases successful with
      | true => exact absurd h hnot
      | false => trivial

/-- A seat stays accounted for when nothing it counts on is lost. -/
theorem Accounted.mono {w w' : System} {seat : Seat} (h : Accounted w seat)
    (hcoming : ∀ c, Coming w c → Coming w' c) (hqueue : ∀ m ∈ w.queue, m ∈ w'.queue)
    (hawaits : w.init.Awaits seat → Accounted w' seat) : Accounted w' seat := by
  cases h with
  | coming h => exact .coming fun c hc => hcoming c (h c hc)
  | announced h => exact .announced (hqueue _ h)
  | awaited h => exact hawaits h

/-! ### What an event does -/

/-- Sending a message leaves everything but the queue alone, and the queue loses nothing. -/
theorem send_spec (w : System) (source : Connection) (message : Message) :
    ∃ queue, w.send source message = { w with queue := queue } ∧ ∀ m ∈ w.queue, m ∈ queue := by
  rw [System.send]
  split
  · exact ⟨w.queue ++ [message], rfl, fun m hm => List.mem_append_left _ hm⟩
  · exact ⟨w.queue, rfl, fun m hm => hm⟩

/-- A message is queued if the process has connected its signal. -/
theorem mem_queue_send {w : System} {source : Connection} (h : source ∈ w.connections)
    (message : Message) : message ∈ (w.send source message).queue := by
  rw [System.send, if_pos h]
  exact List.mem_append_right _ (List.mem_singleton.2 rfl)

theorem Inv.send {w : System} (h : Inv w) (source : Connection) (message : Message) :
    Inv (w.send source message) := by
  obtain ⟨queue, hsend, hqueue⟩ := send_spec w source message
  rw [hsend]
  refine ⟨h.listening, fun seat hseat => ?_⟩
  exact (h.accounted seat hseat).mono (fun c hc => hc) hqueue fun h => .awaited h

/-- A new seat is announced, or awaited by `init`. -/
theorem Inv.addSeat {w : System} (h : Inv w) (seat : Seat) : Inv (step w (.addSeat seat)) := by
  rw [step]
  split
  · exact h
  · obtain ⟨queue, hsend, hqueue⟩ :=
      send_spec { w with seats := w.seats ++ [seat] } seatAdded (.seatAdded seat)
    rw [hsend]
    refine ⟨h.listening, fun other hother => ?_⟩
    rcases List.mem_append.1 hother with hother | hother
    · exact (h.accounted other hother).mono (fun c hc => hc) hqueue fun h => .awaited h
    · obtain rfl := List.mem_singleton.1 hother
      by_cases hconnected : seatAdded ∈ w.connections
      · have hmem := mem_queue_send (w := { w with seats := w.seats ++ [other] }) hconnected
          (.seatAdded other)
        rw [hsend] at hmem
        exact .announced hmem
      · exact .awaited (h.listening.awaits hconnected other)

theorem Inv.removeSeat {w : System} (h : Inv w) (seat : Seat) :
    Inv (step w (.removeSeat seat)) := by
  rw [step]
  split
  · have hless : Inv { w with seats := w.seats.filter (· ≠ seat) } := by
      refine ⟨h.listening, fun other hother => ?_⟩
      have haccounted := h.accounted other (List.mem_of_mem_filter hother)
      exact haccounted.mono (fun c hc => hc) (fun m hm => hm) fun h => .awaited h
    exact hless.send _ _
  · exact h

/-- The snapshot has every seat there is. -/
theorem Inv.serve {w : System} (h : Inv w) (successful : Bool) :
    Inv (step w (.serve successful)) := by
  simp only [step]
  split
  · next hinit =>
      have hlistening := h.listening
      rw [hinit] at hlistening
      cases successful with
      | true => exact ⟨hlistening, fun seat hseat => .awaited hseat⟩
      | false => exact ⟨trivial, fun seat _ => .awaited trivial⟩
  · exact h

theorem Inv.proceed {w : System} (h : Inv w) : Inv (proceed w) := by
  have hlistening := h.listening
  have haccounted := h.accounted
  rw [Seats.proceed]
  split
  · next c todo hinit =>
      rw [hinit] at hlistening
      refine ⟨?_, fun seat _ => .awaited trivial⟩
      rcases hlistening with hlistening | hlistening
      · exact Or.inl (List.mem_cons_of_mem _ hlistening)
      · rcases List.mem_cons.1 hlistening with rfl | hlistening
        · exact Or.inl (List.mem_cons_self ..)
        · exact Or.inr hlistening
  · next hinit =>
      rw [hinit] at hlistening
      exact ⟨hlistening.resolve_right (List.not_mem_nil), fun seat _ => .awaited trivial⟩
  · exact h
  · next seats hinit =>
      rw [hinit] at hlistening
      refine ⟨hlistening, fun seat hseat => ?_⟩
      refine (haccounted seat hseat).mono (fun c hc => ?_) (fun m hm => hm) fun hawaits => ?_
      · rw [Coming, hinit] at hc
        exact hc.imp_right (Or.imp_right fun hc => absurd hc List.not_mem_nil)
      · -- the signals of a seat listed are now to be connected one by one
        rw [hinit] at hawaits
        exact .coming fun c hc => Or.inr (Or.inr (List.mem_flatMap.2 ⟨seat, hawaits, hc⟩))
  · exact ⟨trivial, fun seat _ => .awaited trivial⟩
  · next c todo hinit =>
      rw [hinit] at hlistening
      refine ⟨List.mem_cons_of_mem _ hlistening, fun seat hseat => ?_⟩
      refine (haccounted seat hseat).mono (fun c' hc' => ?_) (fun m hm => hm) fun hawaits => ?_
      · rw [Coming, hinit] at hc'
        rcases hc' with hc' | hc' | hc'
        · exact Or.inl (List.mem_cons_of_mem _ hc')
        · exact Or.inr (Or.inl hc')
        · rcases List.mem_cons.1 hc' with rfl | hc'
          · exact Or.inl (List.mem_cons_self ..)
          · exact Or.inr (Or.inr hc')
      · rw [hinit] at hawaits
        exact hawaits.elim
  · next hinit =>
      rw [hinit] at hlistening
      refine ⟨hlistening, fun seat hseat => ?_⟩
      refine (haccounted seat hseat).mono (fun c hc => ?_) (fun m hm => hm) fun hawaits => ?_
      · rw [Coming, hinit] at hc
        exact hc
      · rw [hinit] at hawaits
        exact hawaits.elim
  · exact h

/-- The announcement of a seat is exchanged for the connections it asks for. -/
theorem Inv.deliver {w : System} (h : Inv w) : Inv (step w .deliver) := by
  simp only [step]
  split
  · next message queue hfilter hqueue =>
      have hcoming : ∀ c, Coming w c →
          Coming { w with queue := queue, filter := (dbusFilter message).2 } c := by
        intro c hc
        rw [Coming, hfilter] at hc
        rcases hc with hc | hc | hc
        · exact Or.inl hc
        · exact absurd hc List.not_mem_nil
        · exact Or.inr (Or.inr hc)
      refine ⟨h.listening, fun seat hseat => ?_⟩
      cases h.accounted seat hseat with
      | coming h => exact .coming fun c hc => hcoming c (h c hc)
      | announced h =>
          rw [hqueue] at h
          rcases List.mem_cons.1 h with rfl | h
          · exact .coming fun c hc => Or.inr (Or.inl hc)
          · exact .announced h
      | awaited h => exact .awaited h
  · exact h

theorem Inv.connect {w : System} (h : Inv w) : Inv (step w .connect) := by
  simp only [step]
  split
  · exact h
  · next c filter hfilter =>
      refine ⟨h.listening.mono fun c' hc' => List.mem_cons_of_mem _ hc', fun seat hseat => ?_⟩
      refine (h.accounted seat hseat).mono (fun c' hc' => ?_) (fun m hm => hm) fun h => .awaited h
      rw [Coming, hfilter] at hc'
      rcases hc' with hc' | hc' | hc'
      · exact Or.inl (List.mem_cons_of_mem _ hc')
      · rcases List.mem_cons.1 hc' with rfl | hc'
        · exact Or.inl (List.mem_cons_self ..)
        · exact Or.inr (Or.inl hc')
      · exact Or.inr (Or.inr hc')

/-- **Every event keeps the invariant.** -/
theorem inv_step {w : System} (h : Inv w) (e : Event) : Inv (step w e) := by
  cases e with
  | addSeat seat => exact h.addSeat seat
  | removeSeat seat => exact h.removeSeat seat
  | signal source => exact h.send _ _
  | serve successful => exact h.serve successful
  | proceed => exact h.proceed
  | deliver => exact h.deliver
  | connect => exact h.connect

/-! ### Over a run -/

theorem inv_start (d : Authority.Private) (seats : List Seat) : Inv (start d seats) := by
  cases hauth : d.pkAuthority with
  | none =>
      have hinit : (start d seats).init = .finished false := by rw [start, Init.start, hauth]
      refine ⟨?_, fun seat _ => .awaited ?_⟩
      · rw [hinit]
        trivial
      · rw [hinit]
        trivial
  | some authority =>
      have hinit : (start d seats).init = .connecting managerSignals := by
        rw [start, Init.start, hauth]
      refine ⟨?_, fun seat _ => .awaited ?_⟩
      · rw [hinit]
        exact Or.inr (by simp [managerSignals])
      · rw [hinit]
        trivial

/-- What is accounted for is connected, when nothing is left to come. -/
theorem Inv.subscribed {w : System} (h : Inv w) (hinit : w.init = .finished true) {seat : Seat}
    (hseat : seat ∈ w.seats) (hquiet : ¬ InFlight w seat) {name : Member}
    (hname : ⟨.consoleKit, .seat seat, .consoleKitSeat, name⟩ ∈ seatSignals seat) :
    Subscribed w seat name := by
  cases h.accounted seat hseat with
  | coming h =>
      rcases h _ hname with h | h | h
      · exact h
      · exact absurd (Or.inr ⟨name, h⟩) hquiet
      · rw [hinit] at h
        exact absurd h List.not_mem_nil
  | announced h => exact absurd (Or.inl h) hquiet
  | awaited h =>
      rw [hinit] at h
      exact h.elim

/-- **No seat is missed.**  Over every interleaving of seats appearing and disappearing at
ConsoleKit with the steps of `init` and the deliveries to `dbusFilter`: whenever `init` has
finished with a reply to `GetSeats`, every seat present has all five signals connected, unless an
announcement of that very seat is still in flight. -/
theorem noSeatMissed_run (lastError : Authority.ErrorCode) (authority : Option PolkitAuthority)
    (get : Except GError (Option PolkitAuthority)) (seats : List Seat) (es : List Event) :
    let w := run step (start (Authority.Private.construct lastError authority get) seats) es
    w.init = .finished true → ∀ seat ∈ w.seats, ¬ InFlight w seat →
      Subscribed w seat .deviceAdded ∧ Subscribed w seat .deviceRemoved ∧
        Subscribed w seat .sessionAdded ∧ Subscribed w seat .sessionRemoved ∧
        Subscribed w seat .activeSessionChanged := by
  intro w hinit seat hseat hquiet
  have hinv : Inv w := run_inv (I := Inv) (fun _ e h => inv_step h e) (inv_start _ seats) es
  have hsub : ∀ name, ⟨.consoleKit, .seat seat, .consoleKitSeat, name⟩ ∈ seatSignals seat →
      Subscribed w seat name := fun _ hname => hinv.subscribed hinit hseat hquiet hname
  refine ⟨hsub _ ?_, hsub _ ?_, hsub _ ?_, hsub _ ?_, hsub _ ?_⟩
  all_goals simp [seatSignals]

/-- The seats at `/1` and `/2`. -/
def seat1 : Seat := .ofUtf16 [0x2F, 0x31]

def seat2 : Seat := .ofUtf16 [0x2F, 0x32]

/-- `GetSeats` is served before the second seat appears. -/
def lateSeat : List Event :=
  List.replicate 4 .proceed ++ [.serve true, .addSeat seat2] ++ List.replicate 7 .proceed ++
    [.deliver] ++ List.replicate 5 .connect

/-- The seat in the snapshot is connected by `init`, the late one by `dbusFilter`. -/
theorem noSeatMissed_run_lateSeat :
    let w := run step (start (Authority.Private.construct .none (some 1) (.ok none)) [seat1])
      lateSeat
    (w.init = .finished true ∧ w.seats = [seat1, seat2] ∧ w.queue = [] ∧ w.filter = []) ∧
      ∀ seat ∈ w.seats,
        Subscribed w seat .deviceAdded ∧ Subscribed w seat .deviceRemoved ∧
          Subscribed w seat .sessionAdded ∧ Subscribed w seat .sessionRemoved ∧
          Subscribed w seat .activeSessionChanged := by
  intro w
  have hrun : w.init = .finished true ∧ w.seats = [seat1, seat2] ∧ w.queue = [] ∧
      w.filter = [] := by decide
  refine ⟨hrun, fun seat hseat => ?_⟩
  obtain ⟨hinit, -, hqueue, hfilter⟩ := hrun
  refine noSeatMissed_run .none (some 1) (.ok none) [seat1] lateSeat hinit seat hseat ?_
  rintro (h | ⟨name, h⟩)
  · exact List.not_mem_nil (hqueue ▸ h)
  · exact List.not_mem_nil (hfilter ▸ h)

end Seats

end PolkitQt
