/-
**Setting one button, and setting several.**

`setButton` clears the list before it adds the button, and does so whatever the list was: it walks
over a copy and takes off one entry at a time, each time with all the connections of that button.
`setButtons` is documented alike but clears nothing, so that it replaces the buttons only if there
are none.

Main definitions:

* `PolkitQt.Gui.ActionButton.button`;
* `PolkitQt.Gui.ActionButton.ConnectionsListed` — whoever is connected is listed;
* `PolkitQt.Gui.ActionButton.Only` — a button is all there is;
* `PolkitQt.Gui.ReplacedBy` — what setting a list of buttons should leave.

Main results:

* `PolkitQt.Gui.setButton_only` — **`setButton` leaves the button and nothing else**, from any state;
* `PolkitQt.Gui.setButtons_replaces_iff` — `setButtons` replaces the list exactly if it is empty.
-/

import PolkitQt.ButtonList
import PolkitQt.ButtonChecks

set_option relaxedAutoImplicit false
set_option autoImplicit false

namespace PolkitQt

namespace Gui

open Runs Subscriptions

/-! ### One button -/

namespace ActionButton

variable {β : Type}

/-- `button()`: the first of the list, if there is one. -/
def button (s : ActionButton β) : Option β := s.buttons.head?

/-- Whoever is connected is listed. -/
structure ConnectionsListed (s : ActionButton β) : Prop where
  clicked : s.clicked ⊆ s.buttons
  toggled : s.toggled ⊆ s.buttons

theorem SameLists.connectionsListed {s s' : ActionButton β} (h : SameLists s s')
    (hs : ConnectionsListed s) : ConnectionsListed s' := by
  obtain ⟨hbuttons, hclicked, htoggled⟩ := h
  refine ⟨?_, ?_⟩
  · rw [hbuttons, hclicked]
    exact hs.clicked
  · rw [hbuttons, htoggled]
    exact hs.toggled

variable [DecidableEq β]

/-- The button is the only one listed, it is connected once each way and nobody else is, and it is
the one `button()` returns. -/
structure Only (s : ActionButton β) (b : β) : Prop where
  buttons : s.buttons = [b]
  clicked : Exact [b] s.clicked
  toggled : Exact [b] s.toggled
  button : s.button = some b

theorem ConnectionsListed.setButtons {s : ActionButton β} (h : ConnectionsListed s)
    (bs : List β) : ConnectionsListed (s.setButtons bs) := by
  obtain ⟨hbuttons, hclicked, htoggled⟩ := setButtons_lists s bs
  have hgrown : ∀ {conns : List β}, conns ⊆ s.buttons → conns ++ bs ⊆ s.buttons ++ bs := by
    intro conns hconns
    exact List.append_subset.2
      ⟨List.subset_append_of_subset_left bs hconns, List.subset_append_right s.buttons bs⟩
  refine ⟨?_, ?_⟩
  · rw [hbuttons, hclicked]
    exact hgrown h.clicked
  · rw [hbuttons, htoggled]
    exact hgrown h.toggled

/-- All connections of the button go, and only one entry of the list. -/
theorem ConnectionsListed.removeButton {s : ActionButton β} (h : ConnectionsListed s) (b : β) :
    ConnectionsListed (s.removeButton b) := by
  have hrest : ∀ {conns : List β}, conns ⊆ s.buttons →
      (conns.filter fun c => c ≠ b) ⊆ s.buttons.erase b := by
    intro conns hconns c hc
    obtain ⟨hmem, hne⟩ := List.mem_filter.1 hc
    exact (List.mem_erase_of_ne (of_decide_eq_true hne)).2 (hconns hmem)
  rw [ActionButton.removeButton]
  split
  · exact ⟨hrest h.clicked, hrest h.toggled⟩
  · exact h

theorem ConnectionsListed.setButton {s : ActionButton β} (h : ConnectionsListed s) (b : β) :
    ConnectionsListed (s.setButton b) :=
  (removeButtons_inv (I := ConnectionsListed) (fun _ hs => hs.removeButton) h s.buttons).setButtons
    [b]

/-- **After `setButton` there is the button and nothing else.** -/
theorem only_setButton {s : ActionButton β} (h : ConnectionsListed s) (b : β) :
    Only (s.setButton b) b := by
  have hcleared := removeButtons_self s
  obtain ⟨hclicked, htoggled⟩ :=
    removeButtons_inv (I := ConnectionsListed) (fun _ hs => hs.removeButton) h s.buttons
  -- with the list empty, nobody is connected
  rw [hcleared] at hclicked htoggled
  obtain ⟨hbuttons', hclicked', htoggled'⟩ := setButtons_lists (s.buttons.foldl removeButton s) [b]
  rw [hcleared, List.nil_append] at hbuttons'
  rw [List.subset_nil.1 hclicked, List.nil_append] at hclicked'
  rw [List.subset_nil.1 htoggled, List.nil_append] at htoggled'
  have hone : Exact [b] [b] := exact_nil.connect (List.nodup_singleton b)
  refine ⟨hbuttons', ?_, ?_, ?_⟩
  · exact hclicked'.symm ▸ hone
  · exact htoggled'.symm ▸ hone
  · exact congrArg List.head? hbuttons'

end ActionButton

namespace Panel

variable {β : Type} [DecidableEq β]

theorem connectionsListed_move (applicationPid : Int64) {p : Panel β}
    (h : p.s.ConnectionsListed) (m : Move β) : (move applicationPid p m).s.ConnectionsListed := by
  cases m with
  | outside base widget => exact ⟨h.clicked, h.toggled⟩
  | event e =>
      cases e with
      | authority e => exact h
      | call call => exact (sameLists_perform applicationPid p call).connectionsListed h
      | setButton button => exact h.setButton button
      | setButtons buttons => exact h.setButtons buttons
      | addButton button => exact h.setButtons [button]
      | removeButton button => exact h.removeButton button
      | click button checked => exact h

/-- The state the constructor has prepared when it sets its buttons: they are listed, and nobody is
connected. -/
def prepared (applicationPid : Int64) (authority : Authority.System) (pkResult : Result)
    (actionId : QString) (reply : Reply .checkAuthorization) (widget : β → QAbstractButton)
    (buttons : List β) : Panel β :=
  let o := Action.construct applicationPid authority pkResult actionId reply
  ⟨o.authority, ⟨o.action, buttons, [], [], widget⟩⟩

theorem connectionsListed_start (applicationPid : Int64) (authority : Authority.System)
    (pkResult : Result) (actionId : QString) (reply : Reply .checkAuthorization)
    (widget : β → QAbstractButton) (ctor : Ctor β) :
    (start applicationPid authority pkResult actionId reply widget ctor).s.ConnectionsListed := by
  have hprepared : ∀ bs : List β, (prepared applicationPid authority pkResult actionId reply widget
      bs).s.ConnectionsListed := fun bs => ⟨List.nil_subset bs, List.nil_subset bs⟩
  cases ctor with
  | actionButton button => exact (hprepared [button]).setButton button
  | actionButtons buttons => exact (hprepared buttons).setButtons buttons

end Panel

section Runs

variable {β : Type} [DecidableEq β] (applicationPid : Int64) (authority : Authority.System)
  (pkResult : Result) (actionId : QString) (reply : Reply .checkAuthorization)
  (widget : β → QAbstractButton)

/-- **`setButton` replaces the whole list.**  After `setButton(b)`, called in any state an action
button or action buttons can reach (and by the constructor of `ActionButton`), the list is `[b]`,
`b` is connected once each way, no other button is connected, and `button()` returns `b`. -/
theorem setButton_only :
    (∀ b, (Panel.start applicationPid authority pkResult actionId reply widget
      (.actionButton b)).s.Only b) ∧
    ∀ (ctor : Panel.Ctor β) (ms : List (Panel.Move β)) (b : β),
      let p := run (Panel.move applicationPid)
        (Panel.start applicationPid authority pkResult actionId reply widget ctor) ms
      (Panel.step applicationPid p (.setButton b)).s.Only b := by
  refine ⟨?_, ?_⟩
  · intro b
    have hprepared : (Panel.prepared applicationPid authority pkResult actionId reply widget
        [b]).s.ConnectionsListed := ⟨List.nil_subset _, List.nil_subset _⟩
    exact ActionButton.only_setButton hprepared b
  · intro ctor ms b p
    have hlisted : p.s.ConnectionsListed :=
      run_inv (I := fun p : Panel β => p.s.ConnectionsListed)
        (fun _ m h => Panel.connectionsListed_move applicationPid h m)
        (Panel.connectionsListed_start applicationPid authority pkResult actionId reply widget ctor)
        ms
    exact ActionButton.only_setButton hlisted b

/-! ### Several buttons -/

/-- Setting the buttons `bs` leaves exactly them: `buttons()` returns `bs`, each of them is
connected, and a button that was listed before and is not among them is no longer connected and is
not changed until it is added again. -/
structure ReplacedBy (p : Panel β) (bs : List β) : Prop where
  buttons : (Panel.step applicationPid p (.setButtons bs)).s.buttons = bs
  connected : ∀ b ∈ bs, b ∈ (Panel.step applicationPid p (.setButtons bs)).s.clicked ∧
    b ∈ (Panel.step applicationPid p (.setButtons bs)).s.toggled
  disconnected : ∀ b ∈ p.s.buttons, b ∉ bs →
    b ∉ (Panel.step applicationPid p (.setButtons bs)).s.clicked ∧
      b ∉ (Panel.step applicationPid p (.setButtons bs)).s.toggled
  quiet : ∀ b ∈ p.s.buttons, b ∉ bs → ∀ es : List (Panel.Event β), (∀ e ∈ es, ¬ e.Adds b) →
    (run (Panel.step applicationPid) (Panel.step applicationPid p (.setButtons bs)) es).s.widget b =
      (Panel.step applicationPid p (.setButtons bs)).s.widget b

/-- **`setButtons` replaces the buttons exactly if there are none.** -/
theorem replacedBy_iff (p : Panel β) (bs : List β) :
    ReplacedBy applicationPid p bs ↔ p.s.buttons = [] := by
  obtain ⟨hbuttons, hclicked, htoggled⟩ := ActionButton.setButtons_lists p.s bs
  constructor
  · intro h
    have hall : p.s.buttons ++ bs = bs := hbuttons.symm.trans h.buttons
    exact List.append_left_eq_self.1 hall
  · intro hempty
    have hnobody : ∀ b, b ∉ p.s.buttons := by simp [hempty]
    refine ⟨?_, ?_, ?_, ?_⟩
    · show (p.s.setButtons bs).buttons = bs
      rw [hbuttons, hempty, List.nil_append]
    · intro b hb
      refine ⟨?_, ?_⟩
      · show b ∈ (p.s.setButtons bs).clicked
        rw [hclicked]
        exact List.mem_append_right _ hb
      · show b ∈ (p.s.setButtons bs).toggled
        rw [htoggled]
        exact List.mem_append_right _ hb
    · exact fun b hb => absurd hb (hnobody b)
    · exact fun b hb => absurd hb (hnobody b)

/-- **`setButtons` replaces the buttons exactly as long as it finds none.**  Over every run of
action buttons, from the constructor on: every call of `setButtons`, the constructor's own
included, leaves exactly the buttons it is given if and only if the constructor is given none and
every call finds the list empty. -/
theorem setButtons_replaces_iff (bs₀ : List β) (ms : List (Panel.Move β)) :
    let before := Panel.prepared applicationPid authority pkResult actionId reply widget bs₀
    let p₀ := Panel.start applicationPid authority pkResult actionId reply widget
      (.actionButtons bs₀)
    p₀ = Panel.step applicationPid before (.setButtons bs₀) ∧
      (ReplacedBy applicationPid before bs₀ ∧
          EachStep (Panel.move applicationPid) (fun p m => ∀ bs, m = .event (.setButtons bs) →
            ReplacedBy applicationPid p bs) p₀ ms ↔
        bs₀ = [] ∧
          EachStep (Panel.move applicationPid) (fun p m => ∀ bs, m = .event (.setButtons bs) →
            p.s.buttons = []) p₀ ms) := by
  intro before p₀
  refine ⟨rfl, ?_⟩
  refine and_congr (replacedBy_iff applicationPid before bs₀) (eachStep_congr ?_ p₀ ms)
  intro p m
  exact forall₂_congr fun bs _ => replacedBy_iff applicationPid p bs

end Runs

/-- The constructor lists its button twice; and of two buttons set one after the other both stay. -/
theorem setButtons_appends :
    let authority := Authority.System.start Authority.freshAuthority
    let widget : Bool → QAbstractButton :=
      fun _ => ⟨true, true, .null, .null, .null, ⟨0⟩, false, false⟩
    let start := Panel.start 42 authority .unknown .null (.ok (some ⟨true, false⟩)) widget
    ¬ ReplacedBy 42 (Panel.prepared 42 authority .unknown .null (.ok (some ⟨true, false⟩)) widget
        [true]) [true] ∧
      ¬ ReplacedBy 42 (Panel.step 42 (start (.actionButtons [])) (.setButtons [true])) [false] := by
  intro authority widget start
  refine ⟨?_, ?_⟩
  · intro h
    exact absurd h.buttons (by decide)
  · intro h
    exact absurd h.buttons (by decide)

end Gui

end PolkitQt
