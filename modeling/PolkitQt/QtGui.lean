/-
**The Qt classes the GUI side drives: icons, actions and buttons.**

`Action` *is* a `QAction` and an `ActionButton` keeps any number of `QAbstractButton`s in line with
it.  Of both classes only the properties that are written or read there are modelled.  A setter
stores the value it is given; the checked state follows Qt 5, where it can change on a checkable
object only and is reset when the object becomes checkable or ceases to be.

Main definitions:

* `PolkitQt.QIcon`;
* `PolkitQt.QAction`, `PolkitQt.QAbstractButton`, with `setChecked`, `setCheckable` and `toggle`;
* `PolkitQt.QAction.toolTip` — the tool tip shown, which falls back to the text;
* `PolkitQt.Shown` — what a user sees first: visible, enabled, text and icon.
-/

import PolkitQt.QtString

set_option relaxedAutoImplicit false
set_option autoImplicit false

namespace PolkitQt

/-! ### Icons and texts -/

/-- A `QIcon`, known by its cache key; the null icon has the key 0. -/
structure QIcon where
  cacheKey : Nat
  deriving DecidableEq, Repr, Inhabited

namespace QString

/-- `QString::remove("...")`. -/
def removeDots : List UInt16 → List UInt16
  | 0x2E :: 0x2E :: 0x2E :: rest => removeDots rest
  | c :: rest => c :: removeDots rest
  | [] => []

/-- Drops each ampersand and keeps the character after it, whatever it is. -/
def dropMnemonics : List UInt16 → List UInt16
  | 0x26 :: c :: rest => c :: dropMnemonics rest
  | [0x26] => []
  | c :: rest => c :: dropMnemonics rest
  | [] => []

/-- `QChar::isSpace`. -/
def isSpace (u : UInt16) : Bool :=
  u == 0x20 || (0x09 ≤ u && u ≤ 0x0D) || u == 0x85 || u == 0xA0 || u == 0x1680 ||
    (0x2000 ≤ u && u ≤ 0x200A) || u == 0x2028 || u == 0x2029 || u == 0x202F || u == 0x205F ||
    u == 0x3000

/-- `QString::trimmed`. -/
def trimUnits (l : List UInt16) : List UInt16 :=
  ((l.dropWhile isSpace).reverse.dropWhile isSpace).reverse

/-- `qt_strippedText`: a menu text without dots and mnemonics. -/
def qtStrippedText : QString → QString
  | null => null
  | ofUtf16 u => ofUtf16 (trimUnits (dropMnemonics (removeDots u)))

end QString

/-! ### What is shown -/

/-- The four properties of an action or a button that are in plain sight. -/
structure Shown where
  visible : Bool
  enabled : Bool
  text : QString
  icon : QIcon
  deriving DecidableEq, Repr

/-! ### Actions -/

/-- `QAction`; `tooltip` is the text set with `setToolTip`. -/
structure QAction where
  visible : Bool
  enabled : Bool
  text : QString
  whatsThis : QString
  tooltip : QString
  icon : QIcon
  checkable : Bool
  checked : Bool
  deriving DecidableEq, Repr

namespace QAction

/-- `QAction(parent)`. -/
def new : QAction where
  visible := true
  enabled := true
  text := .null
  whatsThis := .null
  tooltip := .null
  icon := ⟨0⟩
  checkable := false
  checked := false

def shown (q : QAction) : Shown := ⟨q.visible, q.enabled, q.text, q.icon⟩

/-- `QAction::toolTip`.  The icon text, to which an empty text falls back, is never set. -/
def toolTip (q : QAction) : QString :=
  if q.tooltip.isEmpty then
    if q.text.isEmpty then QString.null.qtStrippedText else q.text.qtStrippedText
  else q.tooltip

/-- `QAction::setChecked`, with the argument of the `toggled` signal if it is emitted. -/
def setChecked (q : QAction) (checked : Bool) : QAction × Option Bool :=
  if !q.checkable || q.checked == checked then (q, none)
  else ({ q with checked := checked }, some checked)

/-- `QAction::toggle`. -/
def toggle (q : QAction) : QAction × Option Bool := q.setChecked (!q.checked)

/-- `QAction::setCheckable`. -/
def setCheckable (q : QAction) (checkable : Bool) : QAction :=
  if q.checkable == checkable then q
  else { q with checkable := checkable, checked := false }

@[simp] theorem shown_setChecked (q : QAction) (checked : Bool) :
    (q.setChecked checked).1.shown = q.shown := by
  rw [setChecked]
  split <;> rfl

@[simp] theorem shown_setCheckable (q : QAction) (checkable : Bool) :
    (q.setCheckable checkable).shown = q.shown := by
  rw [setCheckable]
  split <;> rfl

@[simp] theorem checkable_setChecked (q : QAction) (checked : Bool) :
    (q.setChecked checked).1.checkable = q.checkable := by
  rw [setChecked]
  split <;> rfl

theorem toggle_of_checkable {q : QAction} (h : q.checkable = true) :
    q.toggle = ({ q with checked := !q.checked }, some (!q.checked)) := by
  rw [toggle, setChecked, h]
  cases q.checked <;> rfl

theorem toggle_of_not_checkable {q : QAction} (h : q.checkable = false) : q.toggle = (q, none) := by
  rw [toggle, setChecked, h]
  rfl

@[simp] theorem checkable_setCheckable (q : QAction) (checkable : Bool) :
    (q.setCheckable checkable).checkable = checkable := by
  rw [setCheckable]
  split
  · next h => exact beq_iff_eq.1 h
  · rfl

/-- The checked state is set on a checkable action only. -/
theorem checked_setChecked (q : QAction) (checked : Bool) :
    (q.setChecked checked).1.checked = if q.checkable then checked else q.checked := by
  rw [setChecked]
  cases hcheckable : q.checkable with
  | false => rfl
  | true =>
      cases hsame : (q.checked == checked) with
      | true => simpa using hsame
      | false => simp

/-- The signal is emitted when the checked state changes. -/
theorem setChecked_eq_none_iff (q : QAction) (checked : Bool) :
    (q.setChecked checked).2 = none ↔ (q.setChecked checked).1.checked = q.checked := by
  rw [checked_setChecked, setChecked]
  cases q.checkable with
  | false => simp
  | true =>
      cases hsame : (q.checked == checked) with
      | true => simpa using (beq_iff_eq.1 hsame).symm
      | false =>
          have hne : checked ≠ q.checked := fun h => beq_eq_false_iff_ne.1 hsame h.symm
          simp [hne]

end QAction

/-! ### Buttons -/

/-- `QAbstractButton`. -/
structure QAbstractButton where
  visible : Bool
  enabled : Bool
  text : QString
  toolTip : QString
  whatsThis : QString
  icon : QIcon
  checkable : Bool
  checked : Bool
  deriving DecidableEq, Repr

namespace QAbstractButton

def shown (w : QAbstractButton) : Shown := ⟨w.visible, w.enabled, w.text, w.icon⟩

/-- `QAbstractButton::setChecked`, for a button that is not in an exclusive group. -/
def setChecked (w : QAbstractButton) (checked : Bool) : QAbstractButton :=
  if w.checkable then { w with checked := checked } else w

/-- `QAbstractButton::toggle`. -/
def toggle (w : QAbstractButton) : QAbstractButton := w.setChecked (!w.checked)

/-- `QAbstractButton::setCheckable`. -/
def setCheckable (w : QAbstractButton) (checkable : Bool) : QAbstractButton :=
  if w.checkable == checkable then w
  else { w with checkable := checkable, checked := false }

@[simp] theorem shown_setChecked (w : QAbstractButton) (checked : Bool) :
    (w.setChecked checked).shown = w.shown := by
  rw [setChecked]
  split <;> rfl

@[simp] theorem shown_toggle (w : QAbstractButton) : w.toggle.shown = w.shown :=
  shown_setChecked w _

@[simp] theorem shown_setCheckable (w : QAbstractButton) (checkable : Bool) :
    (w.setCheckable checkable).shown = w.shown := by
  rw [setCheckable]
  split <;> rfl

@[simp] theorem checkable_setChecked (w : QAbstractButton) (checked : Bool) :
    (w.setChecked checked).checkable = w.checkable := by
  rw [setChecked]
  split <;> rfl

@[simp] theorem checkable_toggle (w : QAbstractButton) : w.toggle.checkable = w.checkable :=
  checkable_setChecked w _

@[simp] theorem checkable_setCheckable (w : QAbstractButton) (checkable : Bool) :
    (w.setCheckable checkable).checkable = checkable := by
  rw [setCheckable]
  split
  · next h => exact beq_iff_eq.1 h
  · rfl

/-- The checked state is set on a checkable button only. -/
theorem checked_setChecked (w : QAbstractButton) (checked : Bool) :
    (w.setChecked checked).checked = if w.checkable then checked else w.checked := by
  rw [setChecked]
  split <;> rfl

end QAbstractButton

end PolkitQt
