/-
**The list of buttons and the connections.**

An action button keeps a list of buttons and, for each, two connections.  The three should tell
the same story: a button is listed at most once, a listed button is connected once each way, and
no other button is connected.  `addButton` does not ask whether the button is there already, and
the constructor of `ActionButtons` lists its buttons before it adds them; from then on every button
is listed twice, and removing one leaves an entry behind that is connected to nothing and still
updated.

Main definitions:

* `PolkitQt.Gui.ActionButton.RepInv` — the representation invariant;
* `PolkitQt.Gui.RemovedStayQuiet` — a button that was removed is neither updated nor forwarded
  until it is added again;
* `PolkitQt.Gui.AddsNew`, `PolkitQt.Gui.Panel.Ctor.ListsOnce` — the conditions.

Main results:

* `PolkitQt.Gui.repInv_step_iff` — what one event does to the invariant;
* `PolkitQt.Gui.buttonList_iff` — a run keeps list and connections in step exactly when its
  constructor lists every button once and it never adds a button that is there.
-/

import PolkitQt.ActionButton

set_option relaxedAutoImplicit false
set_option autoImplicit false

namespace PolkitQt

namespace Gui

open Runs Subscriptions

namespace ActionButton

variable {β : Type}

/-! ### A button that is gone -/

/-- The button is not listed and not connected. -/
structure Detached (s : ActionButton β) (b : β) : Prop where
  buttons : b ∉ s.buttons
  clicked : b ∉ s.clicked
  toggled : b ∉ s.toggled

/-- From `s` to `s'` a detached button stays detached and keeps its state. -/
def LeavesAlone (b : β) (s s' : ActionButton β) : Prop :=
  Detached s b → Detached s' b ∧ s'.widget b = s.widget b

theorem LeavesAlone.refl (b : β) (s : ActionButton β) : LeavesAlone b s s := fun h => ⟨h, rfl⟩

theorem LeavesAlone.trans {b : β} {s t u : ActionButton β} (h : LeavesAlone b s t)
    (h' : LeavesAlone b t u) : LeavesAlone b s u := by
  intro hs
  obtain ⟨ht, hst⟩ := h hs
  obtain ⟨hu, htu⟩ := h' ht
  exact ⟨hu, htu.trans hst⟩

variable [DecidableEq β]

/-! ### The invariant -/

/-- Each button occurs at most once in the list; a button in the list has exactly one connection
of each kind, and a button not in the list has none. -/
structure RepInv (s : ActionButton β) : Prop where
  nodup : s.buttons.Nodup
  clicked : Exact s.buttons s.clicked
  toggled : Exact s.buttons s.toggled

/-- It depends on the lists only. -/
theorem SameLists.repInv_iff {s s' : ActionButton β} (h : SameLists s s') :
    RepInv s' ↔ RepInv s := by
  obtain ⟨hbuttons, hclicked, htoggled⟩ := h
  constructor
  · rintro ⟨h₁, h₂, h₃⟩
    exact ⟨hbuttons ▸ h₁, hbuttons ▸ hclicked ▸ h₂, hbuttons ▸ htoggled ▸ h₃⟩
  · rintro ⟨h₁, h₂, h₃⟩
    exact ⟨hbuttons ▸ h₁, by rw [hbuttons, hclicked]; exact h₂,
      by rw [hbuttons, htoggled]; exact h₃⟩

/-! ### Adding -/

/-- What adding a list of buttons does to the three lists. -/
theorem setButtons_lists (s : ActionButton β) (bs : List β) :
    (s.setButtons bs).buttons = s.buttons ++ bs ∧ (s.setButtons bs).clicked = s.clicked ++ bs ∧
      (s.setButtons bs).toggled = s.toggled ++ bs := by
  induction bs generalizing s with
  | nil => simp [setButtons]
  | cons b bs ih =>
      have hadd : (s.addButton b).buttons = s.buttons ++ [b] ∧
          (s.addButton b).clicked = s.clicked ++ [b] ∧
          (s.addButton b).toggled = s.toggled ++ [b] := by
        -- the branches differ in what becomes checkable, not in the lists
        rw [addButton, updateButton]
        split
        · exact ⟨rfl, rfl, rfl⟩
        · split <;> exact ⟨rfl, rfl, rfl⟩
      obtain ⟨hbuttons, hclicked, htoggled⟩ := ih (s.addButton b)
      obtain ⟨hb, hc, ht⟩ := hadd
      have hcons : s.setButtons (b :: bs) = (s.addButton b).setButtons bs := rfl
      rw [hcons, hbuttons, hclicked, htoggled, hb, hc, ht]
      simp

/-- Adding buttons keeps the invariant exactly when they are distinct and new. -/
theorem repInv_setButtons_iff {s : ActionButton β} (h : RepInv s) (bs : List β) :
    RepInv (s.setButtons bs) ↔ bs.Nodup ∧ ∀ b ∈ bs, b ∉ s.buttons := by
  obtain ⟨hbuttons, hclicked, htoggled⟩ := setButtons_lists s bs
  have hnodup : (s.buttons ++ bs).Nodup ↔ bs.Nodup ∧ ∀ b ∈ bs, b ∉ s.buttons := by
    rw [List.nodup_append']
    constructor
    · rintro ⟨-, hbs, hdisj⟩
      exact ⟨hbs, fun b hb hmem => hdisj hmem hb⟩
    · rintro ⟨hbs, hnew⟩
      exact ⟨h.nodup, hbs, fun b hmem hb => hnew b hb hmem⟩
  rw [← hnodup]
  constructor
  · intro hrep
    rw [← hbuttons]
    exact hrep.nodup
  · intro hall
    refine ⟨?_, ?_, ?_⟩
    · rw [hbuttons]
      exact hall
    · rw [hbuttons, hclicked]
      exact h.clicked.connect hall
    · rw [hbuttons, htoggled]
      exact h.toggled.connect hall

theorem repInv_addButton_iff {s : ActionButton β} (h : RepInv s) (b : β) :
    RepInv (s.addButton b) ↔ b ∉ s.buttons := by
  have hone : s.addButton b = s.setButtons [b] := rfl
  rw [hone, repInv_setButtons_iff h]
  simp

/-! ### Removing -/

theorem RepInv.removeButton {s : ActionButton β} (h : RepInv s) (b : β) :
    RepInv (s.removeButton b) := by
  rw [ActionButton.removeButton]
  split
  · exact ⟨h.nodup.erase b, h.clicked.disconnect h.nodup b, h.toggled.disconnect h.nodup b⟩
  · exact h

theorem removeButton_buttons (s : ActionButton β) (b : β) :
    (s.removeButton b).buttons = s.buttons.erase b := by
  rw [ActionButton.removeButton]
  split
  · rfl
  · next hb => exact (List.erase_of_not_mem hb).symm

/-- Removing buttons one after the other. -/
theorem removeButtons_buttons (s : ActionButton β) (bs : List β) :
    (bs.foldl removeButton s).buttons = s.buttons.diff bs := by
  induction bs generalizing s with
  | nil => rfl
  | cons b bs ih => rw [List.foldl_cons, ih, removeButton_buttons, List.diff_cons]

/-- What every removal keeps, `setButton` keeps until it adds the button. -/
theorem removeButtons_inv {I : ActionButton β → Prop}
    (h : ∀ s : ActionButton β, I s → ∀ b, I (s.removeButton b)) {s : ActionButton β} (hs : I s)
    (bs : List β) : I (bs.foldl ActionButton.removeButton s) := by
  induction bs generalizing s with
  | nil => exact hs
  | cons b bs ih => exact ih (h s hs b)

/-- The list is iterated in a copy, so that all of it goes. -/
theorem removeButtons_self (s : ActionButton β) :
    (s.buttons.foldl removeButton s).buttons = [] := by
  have hdiff : ∀ l : List β, l.diff l = [] := by
    intro l
    induction l with
    | nil => rfl
    | cons b l ih => rw [List.diff_cons, List.erase_cons_head, ih]
  rw [removeButtons_buttons, hdiff]

/-- Setting a button clears the list first, so nothing is left to clash with. -/
theorem RepInv.setButton {s : ActionButton β} (h : RepInv s) (b : β) : RepInv (s.setButton b) := by
  have hrep := removeButtons_inv (I := RepInv) (fun _ hs => hs.removeButton) h s.buttons
  refine (repInv_addButton_iff hrep b).2 ?_
  rw [removeButtons_self]
  exact List.not_mem_nil

/-! ### What leaves it alone -/

/-- Where the lists match, a button that is not listed is detached. -/
theorem RepInv.detached {s : ActionButton β} (h : RepInv s) {b : β} (hb : b ∉ s.buttons) :
    Detached s b := ⟨hb, h.clicked.not_mem hb, h.toggled.not_mem hb⟩

theorem leavesAlone_updateButton (b : β) (s : ActionButton β) :
    LeavesAlone b s s.updateButton := fun h =>
  ⟨⟨h.buttons, h.clicked, h.toggled⟩, notify_of_not_mem h.buttons _ _⟩

/-- Changing other buttons, and the action. -/
theorem leavesAlone_notify {b : β} {s : ActionButton β} {l : List β} (hl : Detached s b → b ∉ l)
    (f : QAbstractButton → QAbstractButton) (a : Action) :
    LeavesAlone b s { s with action := a, widget := notify f l s.widget } := by
  intro h
  refine ⟨⟨h.buttons, h.clicked, h.toggled⟩, ?_⟩
  exact notify_of_not_mem (hl h) f s.widget

theorem leavesAlone_deliver (b : β) (s : ActionButton β) (signals : List Signal) :
    LeavesAlone b s (s.deliver signals) := by
  induction signals generalizing s with
  | nil => exact LeavesAlone.refl b s
  | cons signal signals ih =>
      refine LeavesAlone.trans ?_ (ih (s.deliverOne signal))
      cases signal with
      | toggled checked => exact leavesAlone_notify Detached.toggled _ _
      | dataChanged => exact leavesAlone_updateButton b s
      | authorized => exact LeavesAlone.refl b s

theorem leavesAlone_prepare (b : β) (s : ActionButton β) (call : Action.Call) :
    LeavesAlone b s (s.prepare call) := by
  cases call with
  | activate =>
      simp only [prepare, resync]
      split
      · refine LeavesAlone.trans ?_ (leavesAlone_deliver b _ _)
        exact leavesAlone_notify Detached.buttons _ _
      · exact leavesAlone_notify Detached.buttons _ _
  | _ => exact LeavesAlone.refl b s

theorem leavesAlone_addButton {b c : β} (hne : b ≠ c) (s : ActionButton β) :
    LeavesAlone b s (s.addButton c) := by
  have grown : ∀ {l : List β}, b ∉ l → b ∉ l ++ [c] := by
    intro l hl hmem
    rcases List.mem_append.1 hmem with hmem | hmem
    · exact hl hmem
    · exact hne (List.mem_singleton.1 hmem)
  rw [addButton]
  refine LeavesAlone.trans ?_ (leavesAlone_updateButton b _)
  intro h
  split
  · exact ⟨⟨grown h.buttons, grown h.clicked, grown h.toggled⟩, Function.update_of_ne hne _ _⟩
  · split
    · refine ⟨⟨grown h.buttons, grown h.clicked, grown h.toggled⟩, ?_⟩
      exact notify_of_not_mem (grown h.buttons) (fun ent => ent.setCheckable true) s.widget
    · exact ⟨⟨grown h.buttons, grown h.clicked, grown h.toggled⟩, rfl⟩

theorem leavesAlone_setButtons {b : β} {cs : List β} (hb : b ∉ cs) (s : ActionButton β) :
    LeavesAlone b s (s.setButtons cs) := by
  induction cs generalizing s with
  | nil => exact LeavesAlone.refl b s
  | cons c cs ih =>
      obtain ⟨hne, hrest⟩ := not_or.1 (List.mem_cons.not.1 hb)
      exact (leavesAlone_addButton hne s).trans (ih hrest (s.addButton c))

theorem leavesAlone_removeButton (b c : β) (s : ActionButton β) :
    LeavesAlone b s (s.removeButton c) := by
  intro h
  rw [removeButton]
  split
  · refine ⟨⟨?_, ?_, ?_⟩, rfl⟩
    · exact fun hb => h.buttons (List.mem_of_mem_erase hb)
    · exact fun hb => h.clicked (List.mem_of_mem_filter hb)
    · exact fun hb => h.toggled (List.mem_of_mem_filter hb)
  · exact ⟨h, rfl⟩

theorem leavesAlone_setButton {b c : β} (hne : b ≠ c) (s : ActionButton β) :
    LeavesAlone b s (s.setButton c) := by
  have hremoved := removeButtons_inv (I := LeavesAlone b s)
    (fun t ht d => ht.trans (leavesAlone_removeButton b d t)) (LeavesAlone.refl b s) s.buttons
  exact hremoved.trans (leavesAlone_addButton hne _)

end ActionButton

/-! ### One event -/

namespace Panel

variable {β : Type} [DecidableEq β]

/-- The event adds the button. -/
def Event.Adds : Event β → β → Prop
  | .setButton button, b => button = b
  | .setButtons buttons, b => b ∈ buttons
  | .addButton button, b => button = b
  | .authority _, _ | .call _, _ | .removeButton _, _ | .click .., _ => False

/-- A call on the action leaves the lists as they are. -/
theorem sameLists_perform (applicationPid : Int64) (p : Panel β) (call : Action.Call) :
    ActionButton.SameLists p.s (p.perform applicationPid call).1.s := by
  obtain ⟨⟨hbuttons, hclicked, htoggled⟩, -⟩ := ActionButton.prepare_spec p.s call
  have hprepared : ∀ a : Action, ActionButton.SameLists p.s { p.s.prepare call with action := a } :=
    fun a => ⟨hbuttons, hclicked, htoggled⟩
  exact (hprepared _).trans (ActionButton.deliver_spec _ _).1

/-- An event that does not add a button leaves it alone if it is detached, and does not forward a
click on it. -/
theorem detached_step (applicationPid : Int64) {p : Panel β} {b : β} (h : p.s.Detached b)
    {e : Event β} (he : ¬ e.Adds b) :
    ((step applicationPid p e).s.Detached b ∧
        (step applicationPid p e).s.widget b = p.s.widget b) ∧
      ∀ checked, Obs.clicked b checked ∉ out applicationPid p e := by
  cases e with
  | authority e => exact ⟨⟨h, rfl⟩, fun checked hmem => List.not_mem_nil hmem⟩
  | call call =>
      refine ⟨?_, ?_⟩
      · obtain ⟨⟨h₁, h₂, h₃⟩, hwidget⟩ := ActionButton.leavesAlone_prepare b p.s call h
        obtain ⟨hdetached, hdelivered⟩ := ActionButton.leavesAlone_deliver b
          { p.s.prepare call with action := (Action.perform applicationPid p.authority
            (p.s.prepare call).action call).action }
          (Action.perform applicationPid p.authority (p.s.prepare call).action call).signals
          ⟨h₁, h₂, h₃⟩
        exact ⟨hdetached, hdelivered.trans hwidget⟩
      · intro checked hmem
        -- the one thing a call lets out is `authorized()`
        simp only [out, react] at hmem
        split at hmem
        · simp at hmem
        · simp at hmem
  | setButton button =>
      exact ⟨ActionButton.leavesAlone_setButton (Ne.symm he) p.s h,
        fun checked hmem => List.not_mem_nil hmem⟩
  | setButtons buttons =>
      exact ⟨ActionButton.leavesAlone_setButtons he p.s h,
        fun checked hmem => List.not_mem_nil hmem⟩
  | addButton button =>
      exact ⟨ActionButton.leavesAlone_addButton (Ne.symm he) p.s h,
        fun checked hmem => List.not_mem_nil hmem⟩
  | removeButton button =>
      exact ⟨ActionButton.leavesAlone_removeButton b button p.s h,
        fun checked hmem => List.not_mem_nil hmem⟩
  | click button checked =>
      refine ⟨⟨h, rfl⟩, ?_⟩
      intro checked' hmem
      obtain ⟨hcount, heq⟩ := List.mem_replicate.1 hmem
      obtain ⟨rfl, -⟩ := Obs.clicked.inj heq
      exact hcount (List.count_eq_zero_of_not_mem h.clicked)

end Panel

/-! ### Over a run -/

section Runs

variable {β : Type} [DecidableEq β]

/-- The buttons an event adds are distinct and not listed yet.  `setButton` clears the list
before. -/
def AddsNew (p : Panel β) : Panel.Event β → Prop
  | .setButtons buttons => buttons.Nodup ∧ ∀ b ∈ buttons, b ∉ p.s.buttons
  | .addButton button => button ∉ p.s.buttons
  | .authority _ | .call _ | .setButton _ | .removeButton _ | .click .. => True

/-- The constructor lists every button once: `ActionButtons` lists its buttons twice. -/
def Panel.Ctor.ListsOnce : Panel.Ctor β → Prop
  | .actionButton _ => True
  | .actionButtons buttons => buttons = []

/-- After a button is removed, and until it is added again, no update changes it and no click on
it is forwarded. -/
def RemovedStayQuiet (applicationPid : Int64) (p₀ : Panel β) (es : List (Panel.Event β)) : Prop :=
  ∀ pre mid post b, es = pre ++ .removeButton b :: (mid ++ post) → (∀ e ∈ mid, ¬ e.Adds b) →
    let p := run (Panel.step applicationPid) p₀ (pre ++ [.removeButton b])
    (run (Panel.step applicationPid) p mid).s.widget b = p.s.widget b ∧
      ∀ checked, Panel.Obs.clicked b checked ∉
        trace (Panel.step applicationPid) (Panel.out applicationPid) p mid

/-- **One event keeps the invariant exactly when it adds new buttons only.** -/
theorem repInv_step_iff (applicationPid : Int64) {p : Panel β} (h : p.s.RepInv)
    (e : Panel.Event β) : (Panel.step applicationPid p e).s.RepInv ↔ AddsNew p e := by
  cases e with
  | authority e => exact ⟨fun _ => trivial, fun _ => h⟩
  | call call =>
      have hlists := Panel.sameLists_perform applicationPid p call
      exact ⟨fun _ => trivial, fun _ => hlists.repInv_iff.2 h⟩
  | setButton button => exact ⟨fun _ => trivial, fun _ => h.setButton button⟩
  | setButtons buttons => exact ActionButton.repInv_setButtons_iff h buttons
  | addButton button => exact ActionButton.repInv_addButton_iff h button
  | removeButton button => exact ⟨fun _ => trivial, fun _ => h.removeButton button⟩
  | click button checked => exact ⟨fun _ => trivial, fun _ => h⟩

/-- The constructors. -/
theorem repInv_start_iff (applicationPid : Int64) (authority : Authority.System)
    (pkResult : Result) (actionId : QString) (reply : Reply .checkAuthorization)
    (widget : β → QAbstractButton) (ctor : Panel.Ctor β) :
    (Panel.start applicationPid authority pkResult actionId reply widget ctor).s.RepInv ↔
      ctor.ListsOnce := by
  cases ctor with
  | actionButton button =>
      refine ⟨fun _ => trivial, fun _ => ?_⟩
      -- the prefilled entry is removed before the button is added
      have hempty : ∀ a : Action, ActionButton.RepInv
          (ActionButton.removeButton ⟨a, [button], [], [], widget⟩ button) := by
        intro a
        rw [ActionButton.removeButton, if_pos (List.mem_singleton.2 rfl)]
        refine ⟨?_, ?_, ?_⟩
        · simp
        · simpa using exact_nil
        · simpa using exact_nil
      refine (ActionButton.repInv_addButton_iff (hempty _) button).2 ?_
      rw [ActionButton.removeButton_buttons]
      simp
  | actionButtons buttons =>
      let s : ActionButton β := ⟨(Action.construct applicationPid authority pkResult actionId
        reply).action, buttons, [], [], widget⟩
      obtain ⟨hbuttons, -, -⟩ := ActionButton.setButtons_lists s buttons
      constructor
      · intro hrep
        -- the list was prefilled with the very buttons that are then added
        have htwice : (buttons ++ buttons).Nodup := hbuttons ▸ hrep.nodup
        cases buttons with
        | nil => rfl
        | cons b bs =>
            have hdisj := (List.nodup_append'.1 htwice).2.2
            exact absurd (List.mem_cons_self ..) (hdisj (List.mem_cons_self ..))
      · intro hnil
        have hnil' : buttons = [] := hnil
        subst hnil'
        exact ⟨List.nodup_nil, exact_nil, exact_nil⟩

/-- Where the lists match before a removal, the removed button stays quiet. -/
theorem removedStayQuiet_of_always {applicationPid : Int64} {p₀ : Panel β}
    {es : List (Panel.Event β)}
    (h : Always (Panel.step applicationPid) (fun p => p.s.RepInv) p₀ es) :
    RemovedStayQuiet applicationPid p₀ es := by
  intro pre mid post b heq hmid p
  have hbefore := h pre ⟨_, heq.symm⟩
  have hp : p.s = (run (Panel.step applicationPid) p₀ pre).s.removeButton b := by
    show (run (Panel.step applicationPid) p₀ (pre ++ [.removeButton b])).s = _
    rw [run_append]
    rfl
  have hgone : b ∉ p.s.buttons := by
    rw [hp, ActionButton.removeButton_buttons]
    exact hbefore.nodup.not_mem_erase
  have hrep : p.s.RepInv := hp ▸ hbefore.removeButton b
  have hkeep : ∀ fs : List (Panel.Event β), (∀ e ∈ fs, ¬ e.Adds b) →
      (run (Panel.step applicationPid) p fs).s.Detached b ∧
        (run (Panel.step applicationPid) p fs).s.widget b = p.s.widget b := by
    intro fs hfs
    refine run_inv_of_forall (I := fun q : Panel β => q.s.Detached b ∧
      q.s.widget b = p.s.widget b) (C := fun e => ¬ e.Adds b) ?_ ⟨hrep.detached hgone, rfl⟩ hfs
    rintro q e he ⟨hdetached, hwidget⟩
    obtain ⟨⟨hdetached', hwidget'⟩, -⟩ := Panel.detached_step applicationPid hdetached he
    exact ⟨hdetached', hwidget'.trans hwidget⟩
  refine ⟨(hkeep mid hmid).2, ?_⟩
  intro checked hmem
  obtain ⟨fs, e, rest, rfl, ho⟩ := (mem_trace_iff _ _).1 hmem
  have hfs : ∀ e' ∈ fs, ¬ e'.Adds b := fun e' he' => hmid e' (List.mem_append_left _ he')
  have he : ¬ e.Adds b := hmid e (List.mem_append_right _ (List.mem_cons_self ..))
  exact (Panel.detached_step applicationPid (hkeep fs hfs).1 he).2 checked ho

/-- **List and connections stay in step exactly when no button is listed twice to begin with and
none is added that is there.**  Over every run of an action button or action buttons, from the
constructor on: the representation invariant holds in every state reached, and a removed button
stays quiet until it is added again, if and only if the constructor is that of `ActionButton`, or
that of `ActionButtons` with no buttons, and `setButtons` and `addButton` are called with distinct
buttons that are not in the list. -/
theorem buttonList_iff (applicationPid : Int64) (authority : Authority.System)
    (pkResult : Result) (actionId : QString) (reply : Reply .checkAuthorization)
    (widget : β → QAbstractButton) (ctor : Panel.Ctor β) (es : List (Panel.Event β)) :
    let p := Panel.start applicationPid authority pkResult actionId reply widget ctor
    (Always (Panel.step applicationPid) (fun p => p.s.RepInv) p es ∧
        RemovedStayQuiet applicationPid p es) ↔
      ctor.ListsOnce ∧ EachStep (Panel.step applicationPid) AddsNew p es := by
  intro p
  have hstart := repInv_start_iff applicationPid authority pkResult actionId reply widget ctor
  have hsteps : p.s.RepInv → (Always (Panel.step applicationPid) (fun p => p.s.RepInv) p es ↔
      EachStep (Panel.step applicationPid) AddsNew p es) := fun hp =>
    always_iff_eachStep (I := fun _ => True) (P := fun p : Panel β => p.s.RepInv) (C := AddsNew)
      (fun _ _ _ => trivial) (fun q e _ hq => repInv_step_iff applicationPid hq e) trivial hp es
  constructor
  · rintro ⟨halways, -⟩
    exact ⟨hstart.1 halways.head, (hsteps halways.head).1 halways⟩
  · rintro ⟨hctor, hadds⟩
    have halways := (hsteps (hstart.2 hctor)).2 hadds
    exact ⟨halways, removedStayQuiet_of_always halways⟩

end Runs

/-- Two action buttons are constructed, one of them is removed, and a text is set: the removed
button is still listed, and it is updated. -/
theorem removed_button_updated :
    let p := Panel.start 42 (Authority.System.start Authority.freshAuthority) .unknown .null
      (.ok (some ⟨true, false⟩))
      (fun _ : Bool => ⟨true, true, .null, .null, .null, ⟨0⟩, false, false⟩)
      (.actionButtons [false, true])
    let es : List (Panel.Event Bool) :=
      [.removeButton true, .call (.setText (.ofUtf16 [0x4F, 0x4B]) State.all.flag)]
    ¬ Always (Panel.step 42) (fun p => p.s.RepInv) p es ∧ ¬ RemovedStayQuiet 42 p es := by
  intro p es
  refine ⟨?_, ?_⟩
  · intro h
    exact absurd h.head.nodup (by decide)
  · intro h
    have hsame := (h [] [.call (.setText (.ofUtf16 [0x4F, 0x4B]) State.all.flag)] [] true rfl
      (by simp [Panel.Event.Adds])).1
    exact absurd hsame (by decide)

end Gui

end PolkitQt
