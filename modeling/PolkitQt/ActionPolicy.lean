/-
**A policy that changes, and the actions that follow it.**

An action asks polkit when it is constructed and when its id or its process is set, and keeps the
answer.  When the policy changes, polkit emits `changed`, which the main loop dispatches some time
later; the authority then emits `configChanged`, and the slots of the actions ask anew, one after the
other.  A message of ConsoleKit does the same through `consoleKitDBChanged`.  So an action may be
behind the policy while a notification is on its way to it, and the question is whether it can be at
any other time: the client may change the action and use the authority in between, in a slot too, an
error may keep the action from asking, and polkit may change its mind once more.

Main definitions:

* `PolkitQt.Gui.World` — the desktop, polkit's policy and the notifications on their way;
  `World.step`;
* `PolkitQt.Gui.Agrees` — an action's result is what the policy says;
* `PolkitQt.Gui.World.Settled` — no notification is on its way.

Main results:

* `PolkitQt.Gui.agrees_perform` — a call leaves an action that agrees, if it asks;
* `PolkitQt.Gui.World.coherent_step` — **only an action a notification is on its way to disagrees**;
* `PolkitQt.Gui.settled_agrees` — over every run.
-/

import PolkitQt.ActionFamily
import PolkitQt.ActionDisplay

set_option relaxedAutoImplicit false
set_option autoImplicit false

namespace PolkitQt

namespace Gui

open Runs

variable (applicationPid : Int64)

/-! ### What polkit says of an action -/

/-- What the policy says of the action's id and of the pid it reports. -/
def Backend.verdict (policy : Backend) (a : Action) : Result :=
  Action.verdict (policy.reply applicationPid a)

/-- The result of the action is what the policy says, or there is none where that is allowed. -/
def Agrees (lax : Prop) (policy : Backend) (a : Action) : Prop :=
  a.d.pkResult = policy.verdict applicationPid a ∨ lax ∧ a.d.pkResult = .unknown

/-- The call as polkit answers it: the reply is that of the policy to the id and to the pid that the
action then reports.  Polkit itself is asked about what a `gint` keeps of that pid, which is the same
process exactly if the pid fits. -/
def Backend.answer (policy : Backend) (a : Action) : Action.Call → Action.Call
  | .setPolkitAction actionId _ =>
      .setPolkitAction actionId
        (policy.reply applicationPid { a with d := { a.d with actionId := actionId } })
  | .setTargetPID pid _ =>
      .setTargetPID pid (policy.reply applicationPid { a with d := { a.d with targetPID := pid } })
  | .configChanged _ => .configChanged (policy.reply applicationPid a)
  | call => call

/-! ### The world -/

/-- The desktop, polkit's policy, the signals `changed` and messages of the bus that the main loop has
not dispatched, and the actions whose slots are still to be called, next one first. -/
structure World where
  desktop : Desktop
  policy : Backend
  pending : Nat
  waiting : List Nat

namespace World

/-- What happens: polkit's policy changes; a message comes from the bus; the main loop dispatches a
notification; the next slot is called; the client uses the authority, constructs an action, or calls
one. -/
inductive Event
  | policyChanged (policy : Backend)
  | message
  | dispatch
  | notify
  | authority (e : Authority.Event)
  | construct (pkResult : Result) (actionId : QString)
  | call (i : Nat) (call : Action.Call)

/-- An action as it is before its first check. -/
def unborn (pkResult : Result) (actionId : QString) : Action :=
  let d := Action.Private.new applicationPid pkResult
  ⟨QAction.new, { d with actionId := actionId }⟩

def step (w : World) : Event → World
  | .policyChanged policy => { w with policy := policy, pending := w.pending + 1 }
  | .message => { w with pending := w.pending + 1 }
  | .dispatch =>
      match w.pending with
      | 0 => w
      | n + 1 =>
          { w with
            pending := n
            waiting := List.range w.desktop.actions.length ++ w.waiting }
  | .notify =>
      match w.waiting with
      | [] => w
      | i :: waiting =>
          { w with
            desktop := notifyAction applicationPid w.policy w.desktop i
            waiting := waiting }
  | .authority e => { w with desktop := Desktop.step applicationPid w.desktop (.authority e) }
  | .construct pkResult actionId =>
      { w with
        desktop := Desktop.step applicationPid w.desktop (.construct pkResult actionId
          (w.policy.reply applicationPid (unborn applicationPid pkResult actionId))) }
  | .call i call =>
      match w.desktop.actions[i]? with
      | none => w
      | some a =>
          { w with
            desktop := Desktop.step applicationPid w.desktop
              (.call i (w.policy.answer applicationPid a call)) }

/-- Before any action is constructed. -/
def start (d : Authority.Private) (policy : Backend) : World := ⟨Desktop.start d, policy, 0, []⟩

/-- No notification is on its way. -/
def Settled (w : World) : Prop := w.pending = 0 ∧ w.waiting = []

/-- No error is latched. -/
def Clear (w : World) : Prop := w.desktop.authority.d.hasError = false

instance (w : World) : Decidable w.Clear := inferInstanceAs (Decidable (_ = _))

/-- An action no notification is on its way to agrees with the policy. -/
def Coherent (lax : Prop) (w : World) : Prop :=
  ∀ i a, w.desktop.actions[i]? = some a →
    0 < w.pending ∨ i ∈ w.waiting ∨ Agrees applicationPid lax w.policy a

end World

/-! ### One action -/

section One

variable {applicationPid} {lax : Prop} {policy : Backend} {authority : Authority.System}

/-- What the policy says depends on the id and the process only. -/
theorem verdict_congr {a b : Action} (hid : b.d.actionId = a.d.actionId)
    (hpid : b.d.targetPID = a.d.targetPID) :
    policy.verdict applicationPid b = policy.verdict applicationPid a := by
  rw [Backend.verdict, Backend.verdict, Backend.reply, Backend.reply, Action.targetPID,
    Action.targetPID, hid, hpid]

theorem Agrees.congr {a b : Action} (h : Agrees applicationPid lax policy a)
    (hid : b.d.actionId = a.d.actionId) (hpid : b.d.targetPID = a.d.targetPID)
    (hres : b.d.pkResult = a.d.pkResult) : Agrees applicationPid lax policy b := by
  rw [Agrees, verdict_congr hid hpid, hres]
  exact h

/-- An action that asks agrees, unless an error keeps it from asking. -/
theorem agrees_computePkResult (hclear : lax ∨ authority.d.hasError = false) (a : Action) :
    Agrees applicationPid lax policy
      (Action.computePkResult applicationPid authority a (policy.reply applicationPid a)).action := by
  have hres := Action.computePkResult_pkResult applicationPid authority a
    (policy.reply applicationPid a)
  have hverdict : policy.verdict applicationPid
      (Action.computePkResult applicationPid authority a (policy.reply applicationPid a)).action =
        Action.verdict (policy.reply applicationPid a) := verdict_congr rfl rfl
  rw [Agrees, hverdict, hres]
  cases herr : authority.d.hasError with
  | false => exact Or.inl rfl
  | true => exact Or.inr ⟨hclear.resolve_right (by simp [herr]), rfl⟩

theorem agrees_refresh (hclear : lax ∨ authority.d.hasError = false) (a : Action) :
    Agrees applicationPid lax policy (Action.refresh
      (Action.computePkResult applicationPid authority a (policy.reply applicationPid a))).action :=
  (agrees_computePkResult hclear a).congr (by rw [Action.refresh_d]) (by rw [Action.refresh_d])
    (by rw [Action.refresh_d])

theorem agrees_configChanged (hclear : lax ∨ authority.d.hasError = false) (a : Action) :
    Agrees applicationPid lax policy (Action.configChanged applicationPid authority a
      (policy.reply applicationPid a)).action := by
  rw [Action.configChanged]
  split
  · exact agrees_refresh hclear a
  · exact agrees_computePkResult hclear a

/-- **A call leaves an action that agrees**: because it asks, or because it did before and the call
does not change what it asked for. -/
theorem agrees_perform (hclear : lax ∨ authority.d.hasError = false) (a : Action)
    (call : Action.Call) :
    let o := Action.perform applicationPid authority a (policy.answer applicationPid a call)
    Agrees applicationPid lax policy o.action ∨
      (Agrees applicationPid lax policy a → Agrees applicationPid lax policy o.action) := by
  intro o
  cases call with
  | setPolkitAction actionId reply => exact Or.inl (agrees_refresh hclear _)
  | setTargetPID pid reply => exact Or.inl (agrees_refresh hclear _)
  | configChanged reply => exact Or.inl (agrees_configChanged hclear a)
  | setChecked checked => exact Or.inr fun h => h.congr rfl rfl rfl
  | activate => exact Or.inr fun h => h
  | _ =>
      refine Or.inr fun h => h.congr ?_ ?_ ?_ <;>
        simp [o, Backend.answer, Action.perform, Action.setText, Action.setToolTip,
          Action.setWhatsThis, Action.setIcon, Action.setEnabled, Action.setVisible, Action.set]

end One

/-! ### The desktop -/

namespace Desktop

variable {applicationPid} {w : Desktop}

theorem onlyAt_call {i : Nat} {a : Action} (ha : w.actions[i]? = some a) (call : Action.Call) :
    OnlyAt w (step applicationPid w (.call i call)) i
      (Action.perform applicationPid w.authority a call).action := by
  have hlt : i < w.actions.length := (List.getElem?_eq_some_iff.1 ha).1
  have hactions : (step applicationPid w (.call i call)).actions =
      w.actions.set i (Action.perform applicationPid w.authority a call).action := by
    simp only [step, react, ha]
  refine ⟨?_, fun j hj => ?_⟩
  · rw [hactions, List.getElem?_set_self hlt]
  · rw [hactions, List.getElem?_set_ne (Ne.symm hj)]

theorem getElem?_construct {pkResult : Result} {actionId : QString}
    {reply : Reply .checkAuthorization} {i : Nat} {a : Action}
    (ha : (step applicationPid w (.construct pkResult actionId reply)).actions[i]? = some a) :
    w.actions[i]? = some a ∨
      a = (Action.construct applicationPid w.authority pkResult actionId reply).action := by
  have hactions : (step applicationPid w (.construct pkResult actionId reply)).actions =
      w.actions ++
        [(Action.construct applicationPid w.authority pkResult actionId reply).action] := rfl
  rw [hactions] at ha
  rcases Nat.lt_or_ge i w.actions.length with hlt | hge
  · rw [List.getElem?_append_left hlt] at ha
    exact Or.inl ha
  · rw [List.getElem?_append_right hge] at ha
    exact Or.inr (List.mem_singleton.1 (List.mem_of_getElem? ha))

end Desktop

/-! ### The desktop and the policy -/

namespace World

variable {applicationPid} {lax : Prop} {w : World}

/-- A step that changes one action, and takes at most that off those waiting. -/
theorem Coherent.onlyAt {w' : World} (h : Coherent applicationPid lax w)
    (hpolicy : w'.policy = w.policy) (hpending : w'.pending = w.pending) {j : Nat} {a' : Action}
    (honly : Desktop.OnlyAt w.desktop w'.desktop j a')
    (hwaiting : ∀ i, i ≠ j → i ∈ w.waiting → i ∈ w'.waiting)
    (hself : 0 < w'.pending ∨ j ∈ w'.waiting ∨ Agrees applicationPid lax w'.policy a') :
    Coherent applicationPid lax w' := by
  intro i a ha
  by_cases hij : i = j
  · subst hij
    rw [honly.self] at ha
    obtain rfl := Option.some.inj ha
    exact hself
  · rw [honly.other i hij] at ha
    rw [hpolicy, hpending]
    exact (h i a ha).imp_right (Or.imp_left (hwaiting i hij))

/-- **Only an action a notification is on its way to disagrees**, unless an error kept it from
asking. -/
theorem coherent_step (h : Coherent applicationPid lax w) (hclear : lax ∨ w.Clear) (e : Event) :
    Coherent applicationPid lax (step applicationPid w e) := by
  cases e with
  | policyChanged policy => exact fun i a _ => Or.inl (Nat.succ_pos _)
  | message => exact fun i a _ => Or.inl (Nat.succ_pos _)
  | dispatch =>
      rw [step]
      split
      · exact h
      · -- the slots of all actions are to be called
        intro i a ha
        refine Or.inr (Or.inl (List.mem_append_left _ (List.mem_range.2 ?_)))
        exact (List.getElem?_eq_some_iff.1 ha).1
  | notify =>
      rw [step]
      split
      · exact h
      · next j waiting hwaiting =>
          have hother : ∀ i, i ≠ j → i ∈ w.waiting → i ∈ waiting := by
            intro i hij hi
            rw [hwaiting] at hi
            exact (List.mem_cons.1 hi).resolve_left hij
          cases hj : w.desktop.actions[j]? with
          | none =>
              have hsame : notifyAction applicationPid w.policy w.desktop j = w.desktop := by
                simp only [notifyAction, hj]
              rw [hsame]
              intro i a ha
              refine (h i a ha).imp_right (Or.imp_left (hother i ?_))
              rintro rfl
              rw [hj] at ha
              simp at ha
          | some b =>
              have hnotify : notifyAction applicationPid w.policy w.desktop j =
                  Desktop.step applicationPid w.desktop
                    (.call j (.configChanged (w.policy.reply applicationPid b))) := by
                simp only [notifyAction, hj]
              rw [hnotify]
              exact h.onlyAt rfl rfl (Desktop.onlyAt_call hj _) hother
                (Or.inr (Or.inr (agrees_configChanged hclear b)))
  | authority e => exact h
  | construct pkResult actionId =>
      intro i a ha
      rcases Desktop.getElem?_construct ha with ha | rfl
      · exact h i a ha
      · exact Or.inr (Or.inr (agrees_refresh hclear _))
  | call i call =>
      rw [step]
      split
      · exact h
      · next a ha =>
          refine h.onlyAt rfl rfl (Desktop.onlyAt_call ha _) (fun _ _ hi => hi) ?_
          rcases agrees_perform hclear a call with hagrees | hkeeps
          · exact Or.inr (Or.inr hagrees)
          · exact (h i a ha).imp_right (Or.imp_right hkeeps)

/-! ### What is shown -/

/-- All actions are up to date. -/
def AllUpToDate (w : World) : Prop :=
  ∀ (i : Nat) (a : Action), w.desktop.actions[i]? = some a → a.UpToDate

theorem AllUpToDate.onlyAt {w' : World} (h : AllUpToDate w) {j : Nat} {a' : Action}
    (honly : Desktop.OnlyAt w.desktop w'.desktop j a') (hself : a'.UpToDate) : AllUpToDate w' := by
  intro i a ha
  by_cases hij : i = j
  · subst hij
    rw [honly.self] at ha
    obtain rfl := Option.some.inj ha
    exact hself
  · rw [honly.other i hij] at ha
    exact h i a ha

/-- The authority after a call on an action. -/
theorem authority_call {i : Nat} {a : Action} (ha : w.desktop.actions[i]? = some a)
    (call : Action.Call) :
    (Desktop.step applicationPid w.desktop (.call i call)).authority =
      (Action.perform applicationPid w.desktop.authority a call).authority := by
  simp only [Desktop.step, Desktop.react, ha]

/-- A step after which no error is latched leaves all actions up to date. -/
theorem allUpToDate_step (h : AllUpToDate w) (e : Event) (hclear : Clear (step applicationPid w e)) :
    AllUpToDate (step applicationPid w e) := by
  cases e with
  | policyChanged policy => exact h
  | message => exact h
  | dispatch =>
      rw [step]
      split
      · exact h
      · exact h
  | notify =>
      rw [step] at hclear ⊢
      split at hclear
      · exact h
      · next j waiting hwaiting =>
          cases hj : w.desktop.actions[j]? with
          | none =>
              simp only [notifyAction, hj]
              exact h
          | some b =>
              simp only [notifyAction, hj] at hclear ⊢
              refine h.onlyAt (Desktop.onlyAt_call hj _) (Action.upToDate_perform (h j b hj) _ ?_)
              rw [← authority_call hj]
              exact hclear
  | authority e => exact h
  | construct pkResult actionId =>
      intro i a ha
      rcases Desktop.getElem?_construct ha with ha | rfl
      · exact h i a ha
      · exact Action.upToDate_refresh hclear
  | call i call =>
      rw [step] at hclear ⊢
      split at hclear
      · exact h
      · next a ha =>
          refine h.onlyAt (Desktop.onlyAt_call ha _) (Action.upToDate_perform (h i a ha) _ ?_)
          rw [← authority_call ha]
          exact hclear

end World

/-! ### Over a run -/

namespace Action

def isAllowed (a : Action) : Bool := a.d.pkResult = .yes

end Action

variable {applicationPid} in
/-- What an action that agrees allows is what the policy says. -/
theorem Agrees.allowed {policy : Backend} {a : Action} (h : Agrees applicationPid True policy a) :
    (a.isAllowed = true → policy.verdict applicationPid a = .yes) ∧
      (a.isEnabled .no = false → a.activates = true →
        policy.verdict applicationPid a = .yes ∨ policy.verdict applicationPid a = .challenge) := by
  refine ⟨fun hallowed => ?_, fun hno hactivates => ?_⟩
  · have hyes : a.d.pkResult = .yes := by simpa [Action.isAllowed] using hallowed
    rcases h with h | ⟨-, h⟩
    · rw [← h, hyes]
    · rw [hyes] at h
      simp at h
  · rcases h with h | ⟨-, h⟩
    · rw [← h]
      exact result_of_authorized hno hactivates
    · rcases result_of_authorized hno hactivates with hres | hres <;>
        · rw [hres] at h
          simp at h

/-- **A settled desktop agrees with polkit.**  Over every run of changes of the policy, messages,
dispatches, slots, uses of the authority, constructions and calls of actions, in any order and in the
slots too: when no notification is on its way, every action has the result that the present policy
gives for its present id and the pid it reports, or none; so `isAllowed()` and, while `noEnabled` is
false, `authorized()` stand for a policy that says so now.  If no error was latched at any time, every
action has exactly that result and shows it.  What polkit decides by is the id and the narrowed pid, a
function of the two; the policy speaks of the process reported if that pid fits a `gint`. -/
theorem settled_agrees (d : Authority.Private) (policy : Backend) (es : List World.Event) :
    let w := run (World.step applicationPid) (World.start d policy) es
    w.Settled →
      (∀ a ∈ w.desktop.actions, Agrees applicationPid True w.policy a ∧
        (a.isAllowed = true → w.policy.verdict applicationPid a = .yes) ∧
        (a.isEnabled .no = false → a.activates = true →
          w.policy.verdict applicationPid a = .yes ∨
            w.policy.verdict applicationPid a = .challenge)) ∧
      (Always (World.step applicationPid) World.Clear (World.start d policy) es →
        ∀ a ∈ w.desktop.actions, a.d.pkResult = w.policy.verdict applicationPid a ∧
          a.base.shown = (a.d.row (w.policy.verdict applicationPid a)).shown) := by
  rintro w ⟨hpending, hwaiting⟩
  have hsettled : ∀ lax, World.Coherent applicationPid lax w →
      ∀ a ∈ w.desktop.actions, Agrees applicationPid lax w.policy a := by
    intro lax hcoherent a ha
    obtain ⟨i, hi⟩ := List.mem_iff_getElem?.1 ha
    rcases hcoherent i a hi with h | h | h
    · exact absurd (hpending ▸ h) (Nat.lt_irrefl 0)
    · rw [hwaiting] at h
      exact absurd h List.not_mem_nil
    · exact h
  have hnone : ∀ lax, World.Coherent applicationPid lax (World.start d policy) :=
    fun lax i a ha => by simp [World.start, Desktop.start] at ha
  refine ⟨fun a ha => ?_, fun hclear a ha => ?_⟩
  · have hagrees := hsettled True (run_inv (I := World.Coherent applicationPid True)
      (fun w e h => World.coherent_step h (Or.inl trivial) e) (hnone True) es) a ha
    exact ⟨hagrees, hagrees.allowed⟩
  · have hcoherent := Always.induct (P := World.Coherent applicationPid False) (Q := World.Clear)
      (fun w e hclear _ h => World.coherent_step h (Or.inr hclear) e) (hnone False) hclear
    have hshown := Always.induct (P := World.AllUpToDate) (Q := World.Clear)
      (fun w e _ hclear h => World.allUpToDate_step h e hclear)
      (fun i a ha => by simp [World.start, Desktop.start] at ha) hclear
    have hres : a.d.pkResult = w.policy.verdict applicationPid a :=
      (hsettled False hcoherent.last a ha).resolve_right fun h => h.1
    obtain ⟨i, hi⟩ := List.mem_iff_getElem?.1 ha
    refine ⟨hres, ?_⟩
    rw [← hres]
    exact hshown.last i a hi

/-- polkit allows an action and then no longer does.  Until the notification is delivered the action
still activates; after that it is settled on the new policy. -/
theorem settled_agrees_revoked :
    let allowed : Backend := fun _ _ => .ok (some ⟨true, false⟩)
    let refused : Backend := fun _ _ => .ok (some ⟨false, false⟩)
    let d := Authority.Private.construct .none (some 1) (.ok none)
    let before : List World.Event :=
      [.construct .unknown (.ofUtf16 [0x61]), .policyChanged refused]
    let w := run (World.step 42) (World.start d allowed) (before ++ [.dispatch, .notify])
    (run (World.step 42) (World.start d allowed) before).desktop.actions.map Action.activates =
        [true] ∧
      w.Settled ∧ w.desktop.actions.map Action.activates = [false] ∧
      ∀ a ∈ w.desktop.actions, a.d.pkResult = w.policy.verdict 42 a ∧
        a.base.shown = (a.d.row (w.policy.verdict 42 a)).shown := by
  intro allowed refused d before w
  have hsettled : w.Settled := ⟨by decide, by decide⟩
  have hclear : Always (World.step 42) World.Clear (World.start d allowed)
      (before ++ [.dispatch, .notify]) := by decide
  exact ⟨by decide, hsettled, by decide,
    (settled_agrees 42 d allowed (before ++ [.dispatch, .notify]) hsettled).2 hclear⟩

end Gui

end PolkitQt
