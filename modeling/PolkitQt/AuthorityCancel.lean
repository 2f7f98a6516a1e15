/-
**What a Cancel method reaches.**

A `Cancel` method cancels the `GCancellable` of its kind, and that object is shared by all the
requests of the kind: `init` creates it and nothing replaces or resets it.  Cancelling the requests
in flight is what the method is for; but the object stays cancelled, so every request of that kind
started afterwards is handed a cancelled cancellable and can only end with a cancellation error —
which the callbacks are meant to keep quiet about.

Main definitions:

* `Spared` — a request was given a cancellable that is not cancelled, and while it is in flight
  every reply polkit may send to it is delivered.

Main results:

* `isCancelled_runFrom_iff` — the cancellable of a kind is cancelled exactly when a `Cancel` of
  that kind was called at some time in the past;
* `start_spared_iff` — a request is spared exactly when it is started before the first `Cancel` of
  its kind;
* `not_answered_of_cancelled` — a request that is not spared is answered with cancellation errors
  only.
-/

import PolkitQt.AuthoritySystem

set_option relaxedAutoImplicit false
set_option autoImplicit false

namespace PolkitQt

namespace Authority

open Runs

/-! ### The cancellables over a run -/

/-- A fresh authority has no cancelled cancellable. -/
@[simp] theorem isCancelled_construct (lastError : ErrorCode) (authority : Option PolkitAuthority)
    (get : Except GError (Option PolkitAuthority)) (k : Kind) :
    ((Private.construct lastError authority get).mCancellable k).isCancelled = false := by
  simp only [Private.construct, Private.init]
  split
  · rfl
  · split <;> rfl

/-- One event cancels a cancellable only if it is a `Cancel` of that kind, and never resets one. -/
theorem isCancelled_step_iff (s : System) (e : Event) (k : Kind) :
    ((step s e).d.mCancellable k).isCancelled = true ↔
      e = .cancel k ∨ (s.d.mCancellable k).isCancelled = true := by
  by_cases he : ∃ j, e = .cancel j
  · obtain ⟨j, rfl⟩ := he
    have hstep : (step s (.cancel j)).d = cancel j s.d := rfl
    rw [hstep, isCancelled_cancel, Bool.or_eq_true, decide_eq_true_eq, Event.cancel.injEq,
      eq_comm]
  · rw [step_mCancellable s fun j hj => he ⟨j, hj⟩]
    constructor
    · exact Or.inr
    · rintro (rfl | h)
      · exact absurd ⟨k, rfl⟩ he
      · exact h

theorem isCancelled_run_iff (s : System) (es : List Event) (k : Kind) :
    ((run step s es).d.mCancellable k).isCancelled = true ↔
      Event.cancel k ∈ es ∨ (s.d.mCancellable k).isCancelled = true := by
  induction es generalizing s with
  | nil => simp
  | cons e es ih =>
      rw [run_cons, ih, isCancelled_step_iff, List.mem_cons, eq_comm (a := e)]
      tauto

/-- **Cancelled once, cancelled for good.** -/
theorem isCancelled_runFrom_iff (lastError : ErrorCode) (authority : Option PolkitAuthority)
    (get : Except GError (Option PolkitAuthority)) (es : List Event) (k : Kind) :
    ((runFrom (Private.construct lastError authority get) es).d.mCancellable k).isCancelled = true ↔
      Event.cancel k ∈ es := by
  rw [isCancelled_run_iff]
  simp [System.start]

/-! ### Requests keep their number -/

/-- The requests in flight have been numbered. -/
def Numbered (s : System) : Prop := ∀ p ∈ s.inFlight, p.id < s.next

theorem Numbered.step {s : System} (h : Numbered s) (e : Event) : Numbered (step s e) := by
  refine reaction_elim s e fun s' obs hreact => ?_
  intro p hp
  cases hreact with
  | quiet hin hnext => exact hnext ▸ h p (hin ▸ hp)
  | refused k hin hnext _ => exact hnext ▸ h p (hin ▸ hp)
  | asked k request reply v hin hnext _ _ _ =>
      have := h p (hin ▸ hp)
      omega
  | failed k request reply x hin hnext _ _ _ =>
      have := h p (hin ▸ hp)
      omega
  | started k request _ _ hin hnext =>
      rw [hin] at hp
      rcases List.mem_cons.1 hp with rfl | hp
      · simp only
        omega
      · have := h p hp
        omega
  | signalled q reply v _ hin hnext _ =>
      exact hnext ▸ h p (List.mem_of_mem_erase (hin ▸ hp))
  | ended q reply x _ hin hnext _ => exact hnext ▸ h p (List.mem_of_mem_erase (hin ▸ hp))

theorem numbered_runFrom (d : Private) (es : List Event) : Numbered (runFrom d es) := by
  refine run_inv (I := Numbered) (fun s e h => h.step e) ?_ es
  intro p hp
  exact absurd hp List.not_mem_nil

/-- Request `id` was started with a cancellable in the state `b`, if it is still in flight. -/
structure Tracked (id : Nat) (b : Bool) (s : System) : Prop where
  numbered : id < s.next
  cancelled : ∀ p ∈ s.inFlight, p.id = id → p.cancelled = b

theorem Tracked.step {id : Nat} {b : Bool} {s : System} (h : Tracked id b s) (e : Event) :
    Tracked id b (step s e) := by
  refine reaction_elim s e fun s' obs hreact => ?_
  obtain ⟨hid, hcan⟩ := h
  cases hreact with
  | quiet hin hnext => exact ⟨by omega, fun p hp => hcan p (hin ▸ hp)⟩
  | refused k hin hnext _ => exact ⟨by omega, fun p hp => hcan p (hin ▸ hp)⟩
  | asked k request reply v hin hnext _ _ _ => exact ⟨by omega, fun p hp => hcan p (hin ▸ hp)⟩
  | failed k request reply x hin hnext _ _ _ => exact ⟨by omega, fun p hp => hcan p (hin ▸ hp)⟩
  | started k request _ _ hin hnext =>
      refine ⟨by omega, fun p hp hpid => ?_⟩
      rw [hin] at hp
      rcases List.mem_cons.1 hp with rfl | hp
      · -- the new request has a number of its own
        simp only at hpid
        omega
      · exact hcan p hp hpid
  | signalled q reply v _ hin hnext _ =>
      exact ⟨by omega, fun p hp => hcan p (List.mem_of_mem_erase (hin ▸ hp))⟩
  | ended q reply x _ hin hnext _ =>
      exact ⟨by omega, fun p hp => hcan p (List.mem_of_mem_erase (hin ▸ hp))⟩

/-! ### Delivery -/

/-- The callback of request `id` runs with `reply`. -/
def Delivers (s : System) (id : Nat) (k : Kind) (reply : Reply k) : Prop :=
  Obs.answered id true k reply ∈ out s (.complete id k reply)

theorem delivers_iff {s : System} {id : Nat} {k : Kind} {reply : Reply k} :
    Delivers s id k reply ↔ (s.ends id k reply).isSome := by
  cases hends : s.ends id k reply with
  | none => simp [Delivers, out, react_complete_of_none hends]
  | some p => simp [Delivers, out, react_complete_of_some hends]

/-- A request in flight that was started with a cancellable in the state `b` gets every reply when
`b` is false, and cancellations only when it is true. -/
theorem Tracked.delivers_iff {id : Nat} {b : Bool} {s : System} (h : Tracked id b s) {k : Kind}
    (hin : ∃ p ∈ s.inFlight, p.id = id ∧ p.kind = k) (reply : Reply k) :
    Delivers s id k reply ↔ b = false ∨ reply.isCancellation = true := by
  rw [Authority.delivers_iff, System.ends, List.find?_isSome]
  constructor
  · rintro ⟨p, hp, hmatch⟩
    simp only [Bool.and_eq_true, beq_iff_eq, Bool.or_eq_true, Bool.not_eq_true'] at hmatch
    obtain ⟨⟨hpid, -⟩, hcan⟩ := hmatch
    rwa [h.cancelled p hp hpid] at hcan
  · intro hb
    obtain ⟨p, hp, hpid, hpk⟩ := hin
    refine ⟨p, hp, ?_⟩
    simp only [Bool.and_eq_true, beq_iff_eq, Bool.or_eq_true, Bool.not_eq_true']
    exact ⟨⟨hpid, hpk⟩, by rwa [h.cancelled p hp hpid]⟩

/-! ### Which requests a Cancel reaches -/

/-- The request `id` of kind `k`, just started with `cancellable` in `s`, runs undisturbed: its
cancellable is not cancelled, and as long as it is in flight every reply polkit sends to it is
delivered. -/
def Spared (s : System) (id : Nat) (k : Kind) (cancellable : GCancellable) : Prop :=
  cancellable.isCancelled = false ∧
    ∀ (more : List Event) (reply : Reply k),
      (∃ p ∈ (run step s more).inFlight, p.id = id ∧ p.kind = k) →
        Delivers (run step s more) id k reply

/-- What an asynchronous method hands to polkit is the cancellable of its kind, under a fresh
number. -/
theorem sent_of_start {s : System} {op : Operation} {id : Nat} {c : GCancellable}
    {request : Request} {latched : Bool}
    (h : Obs.sent id (some c) request latched ∈ out s (.start op)) :
    id = s.next ∧ c = s.d.mCancellable op.kind ∧
      (step s (.start op)).inFlight = ⟨s.next, op.kind, c.isCancelled⟩ :: s.inFlight ∧
      (step s (.start op)).next = s.next + 1 := by
  cases href : s.d.refuse op.badArgument op.badCode with
  | some d' => simp [out, react_start_of_refused href] at h
  | none =>
      rw [out, react_start_of_asked href] at h
      rw [step, react_start_of_asked href]
      obtain ⟨rfl, hc, -, -⟩ := Obs.sent.inj (List.mem_singleton.1 h)
      obtain rfl := Option.some.inj hc
      exact ⟨rfl, rfl, rfl, rfl⟩

/-- A request is tracked from its start on. -/
theorem tracked_of_sent {s : System} (hs : Numbered s) {op : Operation} {id : Nat}
    {c : GCancellable} {request : Request} {latched : Bool}
    (h : Obs.sent id (some c) request latched ∈ out s (.start op)) (more : List Event) :
    Tracked id c.isCancelled (run step (step s (.start op)) more) := by
  obtain ⟨rfl, -, hin, hnext⟩ := sent_of_start h
  refine run_inv (I := Tracked s.next c.isCancelled) (fun s e h => h.step e) ⟨by omega, ?_⟩ more
  intro p hp hpid
  rw [hin] at hp
  rcases List.mem_cons.1 hp with rfl | hp
  · rfl
  · have := hs p hp
    omega

/-- **A Cancel reaches every later request of its kind.**  A request started by an asynchronous
method runs undisturbed exactly when no `Cancel` of its kind was ever called before. -/
theorem start_spared_iff (lastError : ErrorCode) (authority : Option PolkitAuthority)
    (get : Except GError (Option PolkitAuthority)) (es : List Event) (op : Operation) (id : Nat)
    (c : GCancellable) (request : Request) (latched : Bool)
    (h : Obs.sent id (some c) request latched ∈
      out (runFrom (Private.construct lastError authority get) es) (.start op)) :
    Spared (step (runFrom (Private.construct lastError authority get) es) (.start op)) id op.kind
        c ↔
      Event.cancel op.kind ∉ es := by
  have hcan := isCancelled_runFrom_iff lastError authority get es op.kind
  obtain ⟨-, hc, -, -⟩ := sent_of_start h
  rw [← hc] at hcan
  constructor
  · rintro ⟨hfresh, -⟩ hmem
    rw [hcan.2 hmem] at hfresh
    exact absurd hfresh (by simp)
  · intro hmem
    have hfresh : c.isCancelled = false := by
      rw [← Bool.not_eq_true, hcan]
      exact hmem
    refine ⟨hfresh, fun more reply hin => ?_⟩
    have htrack := tracked_of_sent (numbered_runFrom _ es) h more
    exact (htrack.delivers_iff hin reply).2 (Or.inl hfresh)

/-- A request started after a `Cancel` of its kind is answered with cancellation errors only. -/
theorem not_answered_of_cancelled (lastError : ErrorCode) (authority : Option PolkitAuthority)
    (get : Except GError (Option PolkitAuthority)) {es : List Event} {op : Operation} {id : Nat}
    {c : GCancellable} {request : Request} {latched : Bool}
    (hmem : Event.cancel op.kind ∈ es)
    (h : Obs.sent id (some c) request latched ∈
      out (runFrom (Private.construct lastError authority get) es) (.start op))
    {more : List Event} {reply : Reply op.kind}
    (hdel : Delivers
      (run step (step (runFrom (Private.construct lastError authority get) es) (.start op)) more)
      id op.kind reply) : reply.isCancellation = true := by
  have hcan := (isCancelled_runFrom_iff lastError authority get es op.kind).2 hmem
  obtain ⟨-, hc, -, -⟩ := sent_of_start h
  rw [← hc] at hcan
  have htrack := tracked_of_sent (numbered_runFrom _ es) h more
  have hin := Authority.delivers_iff.1 hdel
  rw [System.ends, List.find?_isSome] at hin
  obtain ⟨p, hp, hmatch⟩ := hin
  simp only [Bool.and_eq_true, beq_iff_eq] at hmatch
  have hall := (htrack.delivers_iff ⟨p, hp, hmatch.1⟩ reply).1 hdel
  simpa [hcan] using hall

/-! ### A check started again -/

/-- A check of the action "kick" for process 42. -/
def kickCheck : Operation :=
  .checkAuthorization (.ofUtf16 [0x6B, 0x69, 0x63, 0x6B]) (unixProcessSubject 42) 0 .empty

def kickRequest : Request := kickCheck.request (some 1)

/-- One check is in flight and the enumeration of actions was cancelled: a second check is spared. -/
theorem start_spared_iff_otherCancel :
    Obs.sent 1 (some ⟨false⟩) kickRequest false ∈
        out (runFrom freshAuthority [.start kickCheck, .cancel .enumerateActions])
          (.start kickCheck) ∧
      Spared (step (runFrom freshAuthority [.start kickCheck, .cancel .enumerateActions])
          (.start kickCheck)) 1 .checkAuthorization ⟨false⟩ := by
  have h : Obs.sent 1 (some ⟨false⟩) kickRequest false ∈
      out (runFrom freshAuthority [.start kickCheck, .cancel .enumerateActions])
        (.start kickCheck) := List.mem_singleton.2 rfl
  have hiff := start_spared_iff .none (some 1) (.ok none)
    [.start kickCheck, .cancel .enumerateActions] kickCheck 1 ⟨false⟩ kickRequest false h
  refine ⟨h, hiff.2 fun hmem => ?_⟩
  rcases List.mem_cons.1 hmem with hstart | hmem
  · exact Event.noConfusion hstart
  · have hkind := Event.cancel.inj (List.mem_singleton.1 hmem)
    exact Kind.noConfusion hkind

/-- The history of the test suite: a check is started and cancelled, and then another one is
started.  It goes out with a cancelled cancellable and is not spared. -/
theorem restarted_check_not_spared :
    Obs.sent 1 (some ⟨true⟩) kickRequest false ∈
        out (runFrom freshAuthority [.start kickCheck, .cancel .checkAuthorization])
          (.start kickCheck) ∧
      ¬ Spared (step (runFrom freshAuthority [.start kickCheck, .cancel .checkAuthorization])
          (.start kickCheck)) 1 .checkAuthorization ⟨true⟩ := by
  refine ⟨List.mem_singleton.2 rfl, ?_⟩
  rintro ⟨hfresh, -⟩
  simp at hfresh

end Authority

end PolkitQt
