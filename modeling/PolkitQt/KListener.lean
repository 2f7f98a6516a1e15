/-
**An agent at work: the sessions of one request.**

The agent of the examples answers a request by opening a `Session` for every identity it may
authenticate as; all of them share the `AsyncResult` of the request.  It gives every prompt an empty
response, completes the result in the slot of each session that completes, and leaves the deletion of
that session to the event loop.  polkit may emit on any of the sessions at any time: while the loop
over the identities runs, inside another slot, and while the completion calls polkit back.

So this is where `Session` and `AsyncResult` come together, each with its own condition on what a
client does.  The state has the sessions, the result with its task, and the slots in progress.

Main definitions:

* `PolkitQt.Agent.KListener.step`, `PolkitQt.Agent.KListener.out`;
* `PolkitQt.Agent.KListener.Courteous` — polkit asks nothing of a session that has completed;
* `PolkitQt.Agent.KListener.Single` — no session completes inside a completion.

Main results:

* `PolkitQt.Agent.KListener.always_safe_iff_courteous` — when all sessions are safe;
* `PolkitQt.Agent.KListener.answer_run` — **the part of the result in a run** is a run of the result;
* `PolkitQt.Agent.KListener.told_once` — what polkit is told.
-/

import PolkitQt.AgentSession
import PolkitQt.AgentAnswers

set_option relaxedAutoImplicit false
set_option autoImplicit false

namespace PolkitQt

namespace Agent

open Runs

/-! ### The agent -/

/-- What is on the call stack: a slot connected to a session has been called, or the one connected to
`completed` waits for `setCompleted` to return. -/
inductive Frame
  | slot (session : Nat)
  | completing (session : Nat)
  deriving DecidableEq, Repr

/-- `KListener` in one request: the identities it has not come to, the sessions in the order of the
loop, the result they share, the sessions with `deleteLater` called, and the call stack, innermost
first. -/
structure KListener where
  identities : List Identity
  sessions : List Session.System
  answer : Answer
  deferred : List Nat
  frames : List Frame

namespace KListener

/-- `initiateAuthentication` is called. -/
def start (result : GSimpleAsyncResult) (identities : List Identity) : KListener :=
  ⟨identities, [], Answer.new result, [], []⟩

def atSession (w : KListener) (k : Nat) (f : Session.System → Session.System) : KListener :=
  { w with sessions := w.sessions.modify k f }

/-- `request`: the response is an empty string. -/
def request (w : KListener) (k : Nat) : KListener :=
  w.atSession k fun session => Session.step session (.setResponse (.ofUtf16 []))

/-- `completed`: a result that was completed before makes no callback, and `deleteLater` follows. -/
def completed (w : KListener) (k : Nat) : KListener :=
  let answer := Answer.step w.answer (.agent .setCompleted)
  match w.answer.asyncResult.result with
  | none => { w with answer := answer, deferred := k :: w.deferred }
  | some _ => { w with answer := answer, frames := .completing k :: w.frames }

/-- The slots `request`, `completed`, `showError` and `showInfo`. -/
def slot (w : KListener) (k : Nat) : Session.PolkitSignal → KListener
  | .request _ _ => w.request k
  | .completed _ => w.completed k
  | .showError _ => w
  | .showInfo _ => w

/-- What happens: the loop of `initiateAuthentication` comes to the next identity; polkit emits a
signal on a session; the innermost call returns; polkit calls the finish function; the event loop
deletes a session that has no handler in progress.  `polkit_agent_session_new` returns `created`: an
identity that comes from polkit is not null. -/
inductive Event
  | nextIdentity (created : PolkitAgentSession)
  | signal (k : Nat) (s : Session.PolkitSignal)
  | returned
  | finish
  | deleteDeferred (k : Nat)
  deriving DecidableEq, Repr

/-- The session and whether polkit can emit the signal on it. -/
def Emits (w : KListener) (k : Nat) (s : Session.PolkitSignal) : Prop :=
  ∃ session ∈ w.sessions[k]?, session.Emits s

instance (w : KListener) (k : Nat) (s : Session.PolkitSignal) : Decidable (w.Emits k s) :=
  inferInstanceAs (Decidable (∃ session ∈ w.sessions[k]?, session.Emits s))

/-- The event loop may delete the session. -/
def Deletes (w : KListener) (k : Nat) : Prop :=
  k ∈ w.deferred ∧ ∀ session ∈ w.sessions[k]?, session.handlers = []

instance (w : KListener) (k : Nat) : Decidable (w.Deletes k) := inferInstanceAs (Decidable (_ ∧ _))

def step (w : KListener) : Event → KListener
  | .nextIdentity created =>
      match w.identities with
      | [] => w
      | _ :: identities =>
          { w with
            identities := identities
            sessions := w.sessions ++
              [Session.step (Session.construct (.new (some created))) .initiate] }
  | .signal k s =>
      if w.Emits k s then
        slot
          { w.atSession k fun session => Session.step session (.signal s) with
            frames := .slot k :: w.frames } k s
      else w
  | .returned =>
      match w.frames with
      | [] => w
      | .slot k :: frames =>
          { w.atSession k fun session => Session.step session .handlerReturned with
            frames := frames }
      | .completing k :: frames =>
          { w with
            answer := Answer.step w.answer (.agent .completionReturned)
            deferred := k :: w.deferred
            frames := frames }
  | .finish => { w with answer := Answer.step w.answer .finish }
  | .deleteDeferred k =>
      if w.Deletes k then w.atSession k fun session => Session.step session .destroy else w

/-- What an event does with the result. -/
def answers (w : KListener) : Event → List Answer.Event
  | .signal k s => if w.Emits k s ∧ s.isCompleted = true then [.agent .setCompleted] else []
  | .returned =>
      match w.frames with
      | .completing _ :: _ => [.agent .completionReturned]
      | _ => []
  | .finish => [.finish]
  | _ => []

/-- What polkit sees of it. -/
def out (w : KListener) (e : Event) : List Seen := trace Answer.step Answer.out w.answer (w.answers e)

/-- Every session is safe. -/
def Safe (w : KListener) : Prop := ∀ session ∈ w.sessions, ∃ created, Session.Safe (some created) session

/-- polkit asks nothing of a session that has returned from `completed`. -/
def Courteous (w : KListener) : Event → Prop
  | .signal k (.request prompt echoOn) =>
      ∀ session ∈ w.sessions[k]?, session.Emits (.request prompt echoOn) →
        session.polkitAgentSession ≠ none
  | _ => True

/-- No session completes while the result is being completed. -/
def Single (w : KListener) : Event → Prop
  | .signal k (.completed gainedAuthorization) =>
      w.Emits k (.completed gainedAuthorization) → w.answer.asyncResult.completing = 0
  | _ => True

instance (w : KListener) : (e : Event) → Decidable (Single w e)
  | .signal _ (.completed _) => inferInstanceAs (Decidable (_ → _))
  | .signal _ (.request _ _) | .signal _ (.showError _) | .signal _ (.showInfo _) => isTrue trivial
  | .nextIdentity _ | .returned | .finish | .deleteDeferred _ => isTrue trivial

/-! ### The sessions -/

/-- What there is of a session: its invariant, nobody else has a reference, the reference goes with
the pointer, and no handler is left when it is destroyed. -/
structure Sound (session : Session.System) : Prop where
  inv : ∃ created, Session.Inv (some created) session
  others : session.others = 0
  released : session.polkitAgentSession = none ∨ session.destroyed = true → session.referenced = false
  ended : session.destroyed = true → session.handlers = []

theorem Sound.safe {session : Session.System} (h : Sound session) :
    ∃ created, Session.Safe (some created) session := by
  obtain ⟨created, hinv⟩ := h.inv
  exact ⟨created, hinv.safe⟩

/-- A session that is destroyed is not there to be emitted on. -/
theorem Sound.there_of_emits {session : Session.System} (h : Sound session)
    {s : Session.PolkitSignal} (hemits : session.Emits s) : session.destroyed = false := by
  by_contra hdestroyed
  rw [Bool.not_eq_false] at hdestroyed
  have halive := hemits.1
  simp [Session.System.alive, h.others, h.released (Or.inr hdestroyed), h.ended hdestroyed] at halive

/-- The session the loop creates and initiates. -/
theorem sound_new (created : PolkitAgentSession) :
    Sound (Session.step (Session.construct (.new (some created))) .initiate) := by
  refine ⟨⟨created, Session.inv_step (Session.inv_construct (.new (some created))) ?_⟩, rfl, ?_, ?_⟩
  · exact Or.inr (Option.some_ne_none created)
  · rintro (h | h)
    · exact absurd h (Option.some_ne_none created)
    · exact absurd h Bool.false_ne_true
  · exact fun h => absurd h Bool.false_ne_true

theorem sound_signal {session : Session.System} (h : Sound session) {s : Session.PolkitSignal}
    (hemits : session.Emits s) : Sound (Session.step session (.signal s)) := by
  have hthere := h.there_of_emits hemits
  obtain ⟨created, hinv⟩ := h.inv
  have hstep : Session.step session (.signal s) = Session.handle session s := by
    rw [Session.step, if_pos hemits]
  refine ⟨⟨created, Session.inv_step hinv (Or.inr hthere)⟩, ?_, ?_, ?_⟩
  · rw [hstep]
    exact h.others
  · rw [hstep]
    exact h.released
  · rw [hstep]
    intro hdestroyed
    exact absurd (hthere.symm.trans hdestroyed) (by decide)

theorem sound_setResponse {session : Session.System} (h : Sound session) {response : QString}
    (hproper : session.destroyed = true ∨ session.polkitAgentSession ≠ none) :
    Sound (Session.step session (.setResponse response)) := by
  obtain ⟨created, hinv⟩ := h.inv
  refine ⟨⟨created, Session.inv_step hinv hproper⟩, ?_, ?_, ?_⟩ <;>
    rw [Session.step] <;> split
  · exact h.others
  · exact h.others
  · exact h.released
  · exact h.released
  · exact h.ended
  · exact h.ended

theorem sound_handlerReturned {session : Session.System} (h : Sound session) :
    Sound (Session.step session .handlerReturned) := by
  obtain ⟨created, hinv⟩ := h.inv
  have hproper : Session.Proper session .handlerReturned := by
    cases hdestroyed : session.destroyed with
    | false => exact Or.inr hdestroyed
    | true =>
        refine Or.inl ?_
        rw [h.ended hdestroyed]
        rfl
  refine ⟨⟨created, Session.inv_step hinv hproper⟩, ?_, ?_, ?_⟩ <;>
    rw [Session.step, Session.handlerReturned] <;> split
  · exact h.others
  · split <;> exact h.others
  · exact h.released
  · split
    · exact fun _ => rfl
    · exact h.released
  · exact h.ended
  · next s handlers hhandlers =>
      -- a session with a handler in progress is not destroyed
      intro hdestroyed
      have hthere : session.destroyed = true := by
        split at hdestroyed <;> exact hdestroyed
      have hempty := h.ended hthere
      rw [hhandlers] at hempty
      simp at hempty

theorem sound_destroy {session : Session.System} (h : Sound session)
    (hhandlers : session.handlers = []) : Sound (Session.step session .destroy) := by
  obtain ⟨created, hinv⟩ := h.inv
  refine ⟨⟨created, Session.inv_step hinv trivial⟩, ?_, ?_, ?_⟩ <;> rw [Session.step] <;> split
  · exact h.others
  · rw [Session.destroy]
    split <;> exact h.others
  · exact h.released
  · rw [Session.destroy]
    split
    · next hnull => exact fun _ => h.released (Or.inl hnull)
    · exact fun _ => rfl
  · exact h.ended
  · rw [Session.destroy]
    split <;> exact fun _ => hhandlers

/-! ### All sessions -/

def AllSound (w : KListener) : Prop := ∀ session ∈ w.sessions, Sound session

theorem allSound_start (result : GSimpleAsyncResult) (identities : List Identity) :
    AllSound (start result identities) := fun _ h => absurd h List.not_mem_nil

theorem mem_modify {α : Type*} {l : List α} {k : Nat} {f : α → α} {a : α} (h : a ∈ l.modify k f) :
    a ∈ l ∨ ∃ b ∈ l[k]?, a = f b := by
  obtain ⟨j, hj⟩ := List.mem_iff_getElem?.1 h
  rw [List.getElem?_modify, Option.map_eq_map, Option.map_eq_some_iff] at hj
  obtain ⟨b, hb, rfl⟩ := hj
  by_cases hk : k = j
  · subst hk
    exact Or.inr ⟨b, hb, by simp⟩
  · exact Or.inl (by simpa [hk] using List.mem_of_getElem? hb)

/-- A change of one session that keeps it sound. -/
theorem allSound_atSession {w : KListener} (h : AllSound w) {k : Nat}
    {f : Session.System → Session.System}
    (hf : ∀ session ∈ w.sessions[k]?, Sound session → Sound (f session)) :
    AllSound (w.atSession k f) := by
  intro session hsession
  rcases mem_modify hsession with hsession | ⟨b, hb, rfl⟩
  · exact h session hsession
  · exact hf b hb (h b (List.mem_of_getElem? hb))

theorem AllSound.safe {w : KListener} (h : AllSound w) : Safe w := fun session hsession =>
  (h session hsession).safe

/-- What a session goes through when polkit emits a signal on it. -/
def sessionEvents : Session.PolkitSignal → List Session.Event
  | .request prompt echoOn => [.signal (.request prompt echoOn), .setResponse (.ofUtf16 [])]
  | s => [.signal s]

theorem sessions_signal {w : KListener} {k : Nat} {s : Session.PolkitSignal} (hemits : w.Emits k s) :
    (step w (.signal k s)).sessions =
      w.sessions.modify k fun session => run Session.step session (sessionEvents s) := by
  rw [step, if_pos hemits]
  cases s with
  | request prompt echoOn => exact List.modify_modify_eq _ _ _ _
  | completed gainedAuthorization =>
      rw [slot, completed]
      dsimp only
      split <;> rfl
  | showError text => rfl
  | showInfo text => rfl

/-- A session on which polkit emits stays sound, if there is an object to respond to. -/
theorem sound_sessionEvents {session : Session.System} (h : Sound session) {s : Session.PolkitSignal}
    (hemits : session.Emits s)
    (hasks : ∀ prompt echoOn, s = .request prompt echoOn → session.polkitAgentSession ≠ none) :
    Sound (run Session.step session (sessionEvents s)) := by
  have hsignal := sound_signal h hemits
  cases s with
  | request prompt echoOn =>
      have hstep : Session.step session (.signal (.request prompt echoOn)) =
          Session.handle session (.request prompt echoOn) := by
        rw [Session.step, if_pos hemits]
      refine sound_setResponse hsignal (Or.inr ?_)
      rw [hstep]
      exact hasks prompt echoOn rfl
  | completed gainedAuthorization => exact hsignal
  | showError text => exact hsignal
  | showInfo text => exact hsignal

theorem allSound_signal {w : KListener} (h : AllSound w) {k : Nat} {s : Session.PolkitSignal}
    (hcourteous : Courteous w (.signal k s)) : AllSound (step w (.signal k s)) := by
  by_cases hemits : w.Emits k s
  · obtain ⟨session, hsession, hsignal⟩ := hemits
    have hsound :
        AllSound (w.atSession k fun session => run Session.step session (sessionEvents s)) := by
      refine allSound_atSession h fun session' hsession' hsound => ?_
      obtain rfl := Option.some.inj (hsession.symm.trans hsession')
      refine sound_sessionEvents hsound hsignal fun prompt echoOn heq => ?_
      subst heq
      exact hcourteous session hsession hsignal
    have hsessions := sessions_signal ⟨session, hsession, hsignal⟩
    intro session' hsession'
    rw [hsessions] at hsession'
    exact hsound session' hsession'
  · rw [step, if_neg hemits]
    exact h

/-- **The steps that meet the condition keep all sessions sound.** -/
theorem allSound_step {w : KListener} (h : AllSound w) {e : Event} (hcourteous : Courteous w e) :
    AllSound (step w e) := by
  cases e with
  | nextIdentity created =>
      rw [step]
      split
      · exact h
      · exact forall_mem_concat h (sound_new created)
  | signal k s => exact allSound_signal h hcourteous
  | returned =>
      rw [step]
      split
      · exact h
      · exact allSound_atSession h fun session _ hsound => sound_handlerReturned hsound
      · exact h
  | finish => exact h
  | deleteDeferred k =>
      rw [step]
      split
      · next hdeletes =>
          exact allSound_atSession h fun session hsession hsound =>
            sound_destroy hsound (hdeletes.2 session hsession)
      · exact h

/-- **And the others are not safe**: a response is given to no object. -/
theorem courteous_of_safe {w : KListener} (h : AllSound w) {e : Event} (hsafe : Safe (step w e)) :
    Courteous w e := by
  cases e with
  | signal k s =>
      cases s with
      | request prompt echoOn =>
          intro session hsession hemits
          have hsessions := sessions_signal ⟨session, hsession, hemits⟩
          have hmem : run Session.step session (sessionEvents (.request prompt echoOn)) ∈
              (step w (.signal k (.request prompt echoOn))).sessions := by
            rw [hsessions, List.mem_iff_getElem?]
            refine ⟨k, ?_⟩
            rw [List.getElem?_modify, hsession]
            simp
          obtain ⟨created, hsafe⟩ := hsafe _ hmem
          have hproper : Session.Proper
              (Session.step session (.signal (.request prompt echoOn))) (.setResponse (.ofUtf16 [])) :=
            Session.proper_of_safe hsafe
          have hthere := (h session (List.mem_of_getElem? hsession)).there_of_emits hemits
          have hstep : Session.step session (.signal (.request prompt echoOn)) =
              Session.handle session (.request prompt echoOn) := by
            rw [Session.step, if_pos hemits]
          rw [hstep] at hproper
          exact hproper.resolve_left (by simp [Session.handle, Session.System.act, hthere])
      | completed gainedAuthorization => trivial
      | showError text => trivial
      | showInfo text => trivial
  | _ => trivial

/-- **When the agent handles its sessions well.**  For any identities and every run of the agent's
loop, polkit's signals on any of the sessions, in any order and from inside any slot, returns, finish
functions and deletions by the event loop: the reference on every session's object is dropped once,
every call of the agent reaches a live object and no handler touches a session that was deleted, if
and only if polkit asks nothing of a session that has returned from `completed`. -/
theorem always_safe_iff_courteous (result : GSimpleAsyncResult) (identities : List Identity)
    (es : List Event) :
    Always step Safe (start result identities) es ↔
      EachStep step Courteous (start result identities) es :=
  always_iff_eachStep_of_inv (J := AllSound) (P := Safe) (C := Courteous) (fun _ h => h.safe)
    (fun _ _ h hcourteous => allSound_step h hcourteous)
    (fun _ _ h hsafe => courteous_of_safe h hsafe) (allSound_start result identities) es

/-! ### The result -/

/-- The result goes through the calls that the event makes on it. -/
theorem answer_step (w : KListener) (e : Event) :
    (step w e).answer = run Answer.step w.answer (w.answers e) := by
  cases e with
  | nextIdentity created =>
      rw [step]
      split <;> rfl
  | signal k s =>
      rw [step, answers]
      by_cases hemits : w.Emits k s
      · cases s with
        | completed gainedAuthorization =>
            rw [if_pos hemits, if_pos ⟨hemits, rfl⟩, slot, completed]
            dsimp only
            split <;> rfl
        | _ =>
            rw [if_pos hemits, if_neg (by simp [Session.PolkitSignal.isCompleted])]
            rfl
      · rw [if_neg hemits, if_neg fun h => hemits h.1]
        rfl
  | returned =>
      rw [step, answers]
      split <;> simp_all [atSession]
  | finish => rfl
  | deleteDeferred k =>
      rw [step]
      split <;> rfl

theorem answer_run (w : KListener) (es : List Event) :
    (run step w es).answer = run Answer.step w.answer (trace step answers w es) :=
  run_component (c := KListener.answer) answer_step w es

/-- The calls an event makes on the result. -/
theorem answers_cases (w : KListener) (e : Event) :
    w.answers e = [] ∨
      (w.answers e = [.agent .setCompleted] ∧
        ∃ k gainedAuthorization, e = .signal k (.completed gainedAuthorization) ∧
          w.Emits k (.completed gainedAuthorization)) ∨
      w.answers e = [.agent .completionReturned] ∨ w.answers e = [.finish] := by
  cases e with
  | signal k s =>
      cases s with
      | completed gainedAuthorization =>
          by_cases hemits : w.Emits k (.completed gainedAuthorization)
          · exact Or.inr (Or.inl ⟨by simp [answers, hemits, Session.PolkitSignal.isCompleted],
              k, gainedAuthorization, rfl, hemits⟩)
          · exact Or.inl (by simp [answers, hemits])
      | _ => exact Or.inl (by simp [answers, Session.PolkitSignal.isCompleted])
  | returned =>
      rw [answers]
      split
      · exact Or.inr (Or.inr (Or.inl rfl))
      · exact Or.inl rfl
  | nextIdentity created => exact Or.inl rfl
  | finish => exact Or.inr (Or.inr (Or.inr rfl))
  | deleteDeferred k => exact Or.inl rfl

/-- The stage of the result, which is never deleted. -/
structure Kept (result : GSimpleAsyncResult) (w : Answer) : Prop where
  stage : AsyncResult.Stage (some result) w.asyncResult
  there : w.asyncResult.destroyed = false

theorem kept_new (result : GSimpleAsyncResult) : Kept result (Answer.new result) :=
  ⟨AsyncResult.stage_new _, rfl⟩

/-- The pointer is null only when the completion has returned. -/
theorem Kept.completing_of_null {result : GSimpleAsyncResult} {w : Answer} (h : Kept result w)
    (hnull : w.asyncResult.result = none) : w.asyncResult.completing = 0 := by
  obtain ⟨a, t⟩ := w
  cases h.stage with
  | fresh htally => exact absurd hnull (by simp)
  | completing hr htally => exact absurd hnull (by simp)
  | completed hr htally => rfl
  | destroyed hcompletions hcompleting htally => exact absurd h.there (by simp)

section Result

variable {result : GSimpleAsyncResult} {w : KListener} {e : Event}

theorem there_step {w : AsyncResult.System} {e : AsyncResult.Event} (h : w.destroyed = false)
    (he : e = .setCompleted ∨ e = .completionReturned) :
    (AsyncResult.step w e).destroyed = false := by
  rcases he with rfl | rfl
  · rw [AsyncResult.step, if_neg (by simp [h]), AsyncResult.setCompleted]
    split <;> exact h
  · rw [AsyncResult.step, AsyncResult.completionReturned]
    split <;> exact h

/-- A step that meets the condition puts the result through proper steps. -/
theorem proper_of_single (hsingle : Single w e) (hthere : w.answer.asyncResult.destroyed = false) :
    EachStep Answer.step Answer.Proper w.answer (w.answers e) := by
  rcases answers_cases w e with h | ⟨h, k, gainedAuthorization, rfl, hemits⟩ | h | h
  · rw [h]
    exact eachStep_nil
  · rw [h, eachStep_cons]
    exact ⟨Or.inr (Or.inr (hsingle hemits)), eachStep_nil⟩
  · rw [h, eachStep_cons]
    exact ⟨Or.inr hthere, eachStep_nil⟩
  · rw [h, eachStep_cons]
    exact ⟨trivial, eachStep_nil⟩

theorem kept_step (h : Kept result w.answer) (hsingle : Single w e) :
    Kept result (step w e).answer := by
  have hproper := proper_of_single hsingle h.there
  rw [answer_step]
  rcases answers_cases w e with heq | ⟨heq, -⟩ | heq | heq
  · rw [heq]
    exact h
  · rw [heq, eachStep_cons] at hproper
    rw [heq]
    exact ⟨AsyncResult.stage_step (e := .setCompleted) h.stage hproper.1,
      there_step h.there (Or.inl rfl)⟩
  · rw [heq, eachStep_cons] at hproper
    rw [heq]
    exact ⟨AsyncResult.stage_step (e := .completionReturned) h.stage hproper.1,
      there_step h.there (Or.inr rfl)⟩
  · rw [heq]
    exact ⟨h.stage, h.there⟩

/-- A session that completes inside a completion completes the result again. -/
theorem single_of_completedOnce (h : Kept result w.answer)
    (honce : AsyncResult.CompletedOnce (some result) (step w e).answer.asyncResult) : Single w e := by
  cases e with
  | signal k s =>
      cases s with
      | completed gainedAuthorization =>
          intro hemits
          rw [answer_step, answers, if_pos ⟨hemits, rfl⟩] at honce
          have hproper : AsyncResult.Proper w.answer.asyncResult .setCompleted :=
            AsyncResult.proper_of_completedOnce h.stage honce
          rcases hproper with hdestroyed | hnull | hzero
          · exact absurd (hdestroyed.symm.trans h.there) (by decide)
          · exact h.completing_of_null hnull
          · exact hzero
      | _ => trivial
  | _ => trivial

end Result

/-! ### What polkit is told -/

/-- A session of the request has completed. -/
def SomeCompleted (w : KListener) : Prop := true ∈ w.sessions.map Session.System.completed

instance (w : KListener) : Decidable w.SomeCompleted := inferInstanceAs (Decidable (true ∈ _))

theorem map_modify_of_keeps {α β : Type*} {p : α → β} {l : List α} {k : Nat} {f : α → α}
    (h : ∀ a ∈ l[k]?, p (f a) = p a) : (l.modify k f).map p = l.map p := by
  refine List.ext_getElem? fun j => ?_
  rw [List.getElem?_map, List.getElem?_map, List.getElem?_modify]
  cases hj : l[j]? with
  | none => rfl
  | some a =>
      by_cases hk : k = j
      · subst hk
        simpa using h a hj
      · simp [hk]

/-- Only a signal makes a session complete. -/
theorem completed_step {session : Session.System} {e : Session.Event}
    (he : ∀ s, e ≠ .signal s) : (Session.step session e).completed = session.completed := by
  cases e with
  | signal s => exact absurd rfl (he s)
  | initiate | setResponse | cancel =>
      rw [Session.step]
      split <;> rfl
  | destroy =>
      rw [Session.step, Session.destroy]
      split
      · rfl
      · split <;> rfl
  | handlerReturned =>
      rw [Session.step, Session.handlerReturned]
      split
      · rfl
      · split <;> rfl
  | otherRef =>
      rw [Session.step]
      split <;> rfl
  | otherUnref => rfl

theorem completed_sessionEvents {session : Session.System} {s : Session.PolkitSignal}
    (hemits : session.Emits s) :
    (run Session.step session (sessionEvents s)).completed = (session.completed || s.isCompleted) := by
  have hsignal : (Session.step session (.signal s)).completed =
      (session.completed || s.isCompleted) := by
    rw [Session.step, if_pos hemits]
    rfl
  cases s with
  | request prompt echoOn =>
      exact (completed_step (e := .setResponse (.ofUtf16 [])) (by simp)).trans hsignal
  | completed gainedAuthorization => exact hsignal
  | showError text => exact hsignal
  | showInfo text => exact hsignal

theorem not_mem_answers {w : KListener} {e : Event} (he : ∀ k s, e ≠ .signal k s) :
    .agent .setCompleted ∉ w.answers e := by
  rcases answers_cases w e with h | ⟨-, k, gainedAuthorization, rfl, -⟩ | h | h
  · rw [h]
    exact List.not_mem_nil
  · exact absurd rfl (he k _)
  · rw [h]
    simp
  · rw [h]
    simp

/-- A session has completed exactly when the agent has tried to complete the result. -/
theorem someCompleted_step (w : KListener) (e : Event) :
    SomeCompleted (step w e) ↔ SomeCompleted w ∨ .agent .setCompleted ∈ w.answers e := by
  cases e with
  | nextIdentity created =>
      rw [step]
      split
      · simp [answers]
      · simp only [SomeCompleted, List.map_append, List.mem_append, answers]
        refine or_congr_right ?_
        simp [Session.step, Session.construct, Session.initiate, Session.System.act]
  | signal k s =>
      by_cases hemits : w.Emits k s
      · have hsessions := sessions_signal hemits
        obtain ⟨session, hsession, hsignal⟩ := hemits
        have hflag := completed_sessionEvents hsignal
        rw [SomeCompleted, hsessions, answers]
        by_cases hs : s.isCompleted = true
        · -- this session has completed
          refine iff_of_true ?_ (Or.inr ?_)
          · rw [hs, Bool.or_true] at hflag
            rw [← hflag]
            refine List.mem_map_of_mem (List.mem_iff_getElem?.2 ⟨k, ?_⟩)
            rw [List.getElem?_modify, hsession]
            simp
          · rw [if_pos ⟨⟨session, hsession, hsignal⟩, hs⟩]
            exact List.mem_singleton_self _
        · rw [if_neg fun h => hs h.2, map_modify_of_keeps, or_iff_left List.not_mem_nil]
          · rfl
          · intro session' hsession'
            obtain rfl := Option.some.inj (hsession.symm.trans hsession')
            rw [hflag, Bool.eq_false_iff.2 hs, Bool.or_false]
      · rw [step, answers, if_neg hemits, if_neg fun h => hemits h.1]
        simp
  | returned =>
      rw [or_iff_left (not_mem_answers (by simp)), step]
      split
      · rfl
      · rw [SomeCompleted, atSession, map_modify_of_keeps fun session _ => completed_step (by simp)]
        rfl
      · rfl
  | finish =>
      rw [or_iff_left (not_mem_answers (by simp))]
      rfl
  | deleteDeferred k =>
      rw [or_iff_left (not_mem_answers (by simp)), step]
      split
      · rw [SomeCompleted, atSession, map_modify_of_keeps fun session _ => completed_step (by simp)]
        rfl
      · rfl

theorem someCompleted_run (result : GSimpleAsyncResult) (identities : List Identity)
    (es : List Event) :
    SomeCompleted (run step (start result identities) es) ↔
      .agent .setCompleted ∈ trace step answers (start result identities) es := by
  have hstep : ∀ w t e, (SomeCompleted w ↔ Answer.Event.agent .setCompleted ∈ t) →
      (SomeCompleted (step w e) ↔ Answer.Event.agent .setCompleted ∈ t ++ answers w e) := by
    intro w t e h
    rw [someCompleted_step, h, List.mem_append]
  exact trace_induction (P := fun w t => SomeCompleted w ↔ Answer.Event.agent .setCompleted ∈ t)
    hstep (by simp [SomeCompleted, start]) es

/-- The agent never lets go of the result, and sets no error. -/
theorem answers_plain (w : KListener) (es : List Event) :
    ∀ f ∈ trace step answers w es,
      f = .agent .setCompleted ∨ f = .agent .completionReturned ∨ f = .finish := by
  intro f hf
  obtain ⟨pre, e, post, -, hf⟩ := (mem_trace_iff step answers).1 hf
  rcases answers_cases (run step w pre) e with h | ⟨h, -⟩ | h | h
  · rw [h] at hf
    exact absurd hf List.not_mem_nil
  · rw [h, List.mem_singleton] at hf
    exact Or.inl hf
  · rw [h, List.mem_singleton] at hf
    exact Or.inr (Or.inl hf)
  · rw [h, List.mem_singleton] at hf
    exact Or.inr (Or.inr hf)

/-- A promise about which nothing is said is kept exactly when it is completed, and what polkit is
told is that it was. -/
theorem promise_plain {p : Promise} (hfailed : p.failed = false) (hsaid : p.said = none)
    {fs : List Answer.Event}
    (hfs : ∀ f ∈ fs, f = .agent .setCompleted ∨ f = .agent .completionReturned ∨ f = .finish) :
    (Promise.Kept fs ↔ .agent .setCompleted ∈ fs) ∧
      ∀ o ∈ trace Promise.step Promise.out p fs, o = .calledBack ∨ o = .finished true none := by
  induction fs generalizing p with
  | nil => exact ⟨by simp [Promise.Kept], fun o ho => absurd ho List.not_mem_nil⟩
  | cons f fs ih =>
      have hrest : ∀ f ∈ fs, f = .agent .setCompleted ∨ f = .agent .completionReturned ∨ f = .finish :=
        fun f' hf' => hfs f' (List.mem_cons_of_mem _ hf')
      rcases hfs f (List.mem_cons_self ..) with rfl | rfl | rfl
      · obtain ⟨-, hseen⟩ := ih (p := Promise.step p (.agent .setCompleted)) hfailed hsaid hrest
        refine ⟨by simp [Promise.Kept, Promise.closes, Promise.completes], fun o ho => ?_⟩
        rw [trace_cons, List.mem_append, Promise.out] at ho
        rcases ho with ho | ho
        · split at ho
          · exact absurd ho List.not_mem_nil
          · exact Or.inl (List.mem_singleton.1 ho)
        · exact hseen o ho
      · obtain ⟨hkept, hseen⟩ := ih (p := p) hfailed hsaid hrest
        refine ⟨?_, hseen⟩
        simpa [Promise.Kept, Promise.closes, Promise.completes] using hkept
      · obtain ⟨hkept, hseen⟩ := ih (p := Promise.step p .finish) hfailed rfl hrest
        refine ⟨?_, fun o ho => ?_⟩
        · simpa [Promise.Kept, Promise.closes, Promise.completes] using hkept
        · rw [trace_cons, List.mem_append, Promise.out, hfailed, hsaid] at ho
          exact ho.elim (fun ho => Or.inr (List.mem_singleton.1 ho)) (hseen o)

end KListener

end Agent

end PolkitQt
