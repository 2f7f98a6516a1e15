/-
**The mechanism of the example: a privileged edit behind a check.**

`PkExampleHelper` runs as root and offers one method on the system bus, `set`, to whoever calls it.
It asks polkit about the caller, through the synchronous check of this library, and if the answer is
`Yes` it edits the policy file: the implicit authorization of the action *shout* becomes the text
the caller sent.  The file is read into a tree, the entry is looked for by steps from element to
element, the text of one node is replaced and the tree is written back.

Between two calls the file may be edited by others, and the process keeps its one `Authority` with the
error latch, so what a call does depends on all calls before it.

Main definitions:

* `PolkitQt.Example.PkExampleHelper.set`, `PolkitQt.Example.PkExampleHelper.setValue` — the two slots;
* `PolkitQt.Example.Entry` — where the document has the entry, without the loop that looks for it;
* `PolkitQt.Example.TextReplaced` — what an edit changes and what it keeps, node by node;
* `PolkitQt.Example.Answered`, `PolkitQt.Example.Authorizes` — polkit gave an answer, and it was yes.

Main results:

* `PolkitQt.Example.allowActive_eq_some_iff` — the steps find the entry and nothing else;
* `PolkitQt.Example.entry_setText` — an edit leaves the entry where it was;
* `PolkitQt.Example.set_mediated` — **exactly when a call succeeds**, after any calls and edits, and
  that the file changes then only, and in one place.
-/

import PolkitQt.AuthoritySystem
import PolkitQt.LabelledTrees
import PolkitQt.Wrappers

set_option relaxedAutoImplicit false
set_option autoImplicit false

namespace PolkitQt

namespace Example

open LabelledTrees Runs

/-- A string literal of the source; all of them are ASCII. -/
def literal (s : String) : QString := .ofUtf16 (s.toList.map fun c => UInt16.ofNat c.toNat)

/-! ### The document -/

/-- A `QDomNode` without its children.  A section of character data counts as a text; comments,
processing instructions and the document type are not looked into. -/
inductive QDomNode
  | document
  | element (tagName : QString) (attributes : List (QString × QString))
  | text (cdata : Bool) (data : QString)
  | other (nodeType : Nat) (content : QString)
  deriving DecidableEq, Repr

abbrev QDomDocument := LabelTree QDomNode

/-- A `QDomElement`: the address of its parent and its index there, or null. -/
abbrev QDomElement := Option (Address × Nat)

namespace QDomNode

def isElement (tagName : QString) : QDomNode → Bool
  | element name _ => name.utf16 = tagName.utf16
  | _ => false

/-- `QDomElement::attribute`. -/
def attributeOf (name defaultValue : QString) : QDomNode → QString
  | element _ attributes =>
      ((attributes.find? fun a => a.1.utf16 = name.utf16).map Prod.snd).getD defaultValue
  | _ => defaultValue

/-- `toText().setData`: what is no text has a null `QDomText`, which ignores the call. -/
def setData (data : QString) : QDomNode → QDomNode
  | text cdata _ => text cdata data
  | node => node

@[simp] theorem isElement_setData (tagName data : QString) (node : QDomNode) :
    (node.setData data).isElement tagName = node.isElement tagName := by
  cases node <;> rfl

@[simp] theorem attributeOf_setData (name defaultValue data : QString) (node : QDomNode) :
    (node.setData data).attributeOf name defaultValue = node.attributeOf name defaultValue := by
  cases node <;> rfl

end QDomNode

section Walk

variable (doc : QDomDocument)

/-- The first child element of that name, of the node at the address, from an index on. -/
def elementFrom (p : Address) (n : Nat) (tagName : QString) : QDomElement :=
  (findFrom (QDomNode.isElement tagName) n (doc.childLabels p)).map fun i => (p, i)

/-- `firstChildElement`. -/
def firstChildElement (el : QDomElement) (tagName : QString) : QDomElement :=
  el.bind fun e => elementFrom doc (e.1 ++ [e.2]) 0 tagName

/-- `nextSiblingElement`. -/
def nextSiblingElement (el : QDomElement) (tagName : QString) : QDomElement :=
  el.bind fun e => elementFrom doc e.1 (e.2 + 1) tagName

/-- `attribute`: the default for the null element, too. -/
def attributeOf (el : QDomElement) (name defaultValue : QString) : QString :=
  ((el.bind fun e => doc.label? (e.1 ++ [e.2])).map (QDomNode.attributeOf name defaultValue)).getD
    defaultValue

/-- `firstChild().toText().setData`. -/
def setText (el : QDomElement) (data : QString) : QDomDocument :=
  el.elim doc fun e => doc.relabel (QDomNode.setData data) (e.1 ++ [e.2, 0])

end Walk

/-! ### The slots -/

/-- The id of the action that is edited. -/
def shout : QString := literal "org.qt.policykit.examples.shout"

/-- The loop of `setValue`, with a bound on the number of rounds. -/
def findShout (doc : QDomDocument) : Nat → QDomElement → QDomElement
  | 0, el => el
  | rounds + 1, el =>
      if el.isSome ∧ (attributeOf doc el (literal "id") .null).utf16 ≠ shout.utf16 then
        findShout doc rounds (nextSiblingElement doc el (literal "action"))
      else el

/-- The element whose text `setValue` replaces: `allow_active` of the action.  There are as many
rounds as the element of the policy has children. -/
def allowActive (doc : QDomDocument) : QDomElement :=
  let el := firstChildElement doc (elementFrom doc [] 0 (literal "policyconfig")) (literal "action")
  let el := findShout doc (el.elim 0 fun e => (doc.childLabels e.1).length) el
  let el := firstChildElement doc el (literal "defaults")
  firstChildElement doc el (literal "allow_active")

/-- Qt's reader and writer of XML. -/
structure Xml where
  setContent : Bytes → QDomDocument
  save : QDomDocument → Bytes

/-- What the outside answers during a call: polkit's reply when it is asked for the authority, which
happens once in a process, and to the check; whether `polkit_system_bus_name_new` takes the name;
and whether the file can be opened.  `lastError` is what the constructor of `Authority` leaves
unset. -/
structure Surroundings where
  lastError : Authority.ErrorCode
  connection : Except GError (Option PolkitAuthority)
  accepted : Bool
  reply : Reply .checkAuthorization
  readable : Bool
  writable : Bool

/-- The process: its `Authority`, once somebody has asked for it, and the policy file. -/
structure PkExampleHelper where
  authority : Option Authority.Private
  file : Bytes

/-- `SystemBusNameSubject(name)`. -/
def systemBusNameSubject (name : QString) (accepted : Bool) : Subject :=
  ⟨Wrappers.accept accepted (.systemBusName (cString name.toUtf8))⟩

/-- What `set` leaves: its return value, the process, and the request sent to polkit. -/
structure SetOut where
  value : Bool
  helper : PkExampleHelper
  request : Option Request

namespace PkExampleHelper

/-- `Authority::instance()`: made at the first call. -/
def authorityInstance (h : PkExampleHelper) (w : Surroundings) : Authority.Private :=
  h.authority.getD (Authority.Private.construct w.lastError none w.connection)

/-- `setValue`: the return value and the file. -/
def setValue (xml : Xml) (file : Bytes) (action : QString) (w : Surroundings) : Bool × Bytes :=
  if !w.readable then (false, file)
  else
    let doc := xml.setContent file
    let el := allowActive doc
    if el.isNone then (false, file)
    else
      let doc := setText doc el action
      if !w.writable then (false, file) else (true, xml.save doc)

/-- `set`, called by the owner of the name `caller`. -/
def set (xml : Xml) (h : PkExampleHelper) (caller action : QString) (w : Surroundings) : SetOut :=
  let o := Authority.checkAuthorizationSync (h.authorityInstance w)
    (literal "org.qt.policykit.examples.set") (systemBusNameSubject caller w.accepted) 1 w.reply
  if o.value = .yes then
    let (value, file) := setValue xml h.file action w
    ⟨value, ⟨some o.priv, file⟩, o.request⟩
  else ⟨false, ⟨some o.priv, h.file⟩, o.request⟩

/-- A process that has just been started. -/
def start (file : Bytes) : PkExampleHelper := ⟨none, file⟩

end PkExampleHelper

/-- What happens to the process and to the file: a call, or somebody else writes the file. -/
inductive Event
  | set (caller action : QString) (w : Surroundings)
  | edited (file : Bytes)

def step (xml : Xml) (h : PkExampleHelper) : Event → PkExampleHelper
  | .set caller action w => (h.set xml caller action w).helper
  | .edited file => { h with file := file }

/-- The calls made so far, by what the outside answered. -/
def surroundings (es : List Event) : List Surroundings :=
  es.filterMap fun e =>
    match e with
    | .set _ _ w => some w
    | .edited _ => none

/-! ### The entry -/

/-- The element has the id of the action that is edited. -/
def hasShoutId (node : QDomNode) : Bool :=
  (node.attributeOf (literal "id") .null).utf16 = shout.utf16

/-- The indices that lead to the element whose text is replaced: in the first `policyconfig`, the first
`action` with the id, in that the first `defaults`, in that the first `allow_active`. -/
structure Entry (doc : QDomDocument) (i j k l : Nat) : Prop where
  policyconfig : IsFirst (QDomNode.isElement (literal "policyconfig")) 0 (doc.childLabels []) i
  action : IsFirst (fun node => node.isElement (literal "action") && hasShoutId node) 0
    (doc.childLabels [i]) j
  defaults : IsFirst (QDomNode.isElement (literal "defaults")) 0 (doc.childLabels [i, j]) k
  allowActive : IsFirst (QDomNode.isElement (literal "allow_active")) 0 (doc.childLabels [i, j, k]) l

section Steps

variable {doc : QDomDocument}

theorem elementFrom_eq_some_iff {p : Address} {n : Nat} {tagName : QString} {e : Address × Nat} :
    elementFrom doc p n tagName = some e ↔
      e.1 = p ∧ IsFirst (QDomNode.isElement tagName) n (doc.childLabels p) e.2 := by
  rw [elementFrom, Option.map_eq_some_iff]
  constructor
  · rintro ⟨i, hi, rfl⟩
    exact ⟨rfl, findFrom_eq_some_iff.1 hi⟩
  · rintro ⟨rfl, hi⟩
    exact ⟨e.2, findFrom_eq_some_iff.2 hi, rfl⟩

theorem firstChildElement_eq_some_iff {el : QDomElement} {tagName : QString} {e : Address × Nat} :
    firstChildElement doc el tagName = some e ↔
      ∃ d, el = some d ∧ e.1 = d.1 ++ [d.2] ∧
        IsFirst (QDomNode.isElement tagName) 0 (doc.childLabels (d.1 ++ [d.2])) e.2 := by
  rw [firstChildElement, Option.bind_eq_some_iff]
  constructor
  · rintro ⟨d, hd, he⟩
    exact ⟨d, hd, elementFrom_eq_some_iff.1 he⟩
  · rintro ⟨d, hd, he⟩
    exact ⟨d, hd, elementFrom_eq_some_iff.2 he⟩

@[simp] theorem findShout_none (rounds : Nat) : findShout doc rounds none = none := by
  cases rounds with
  | zero => rfl
  | succ rounds => rw [findShout, if_neg (by simp)]

/-- What the loop compares at an element that was found. -/
theorem hasShoutId_iff {p : Address} {i : Nat} {node : QDomNode}
    (h : (doc.childLabels p)[i]? = some node) :
    hasShoutId node = true ↔
      (attributeOf doc (some (p, i)) (literal "id") .null).utf16 = shout.utf16 := by
  rw [attributeOf, Option.bind_some, LabelTree.label?_child, h, Option.map_some, Option.getD_some,
    hasShoutId, decide_eq_true_iff]

/-- Enough rounds given, the loop stops at the first action with the id. -/
theorem findShout_elementFrom (p : Address) (rounds n : Nat)
    (h : (doc.childLabels p).length ≤ n + rounds) :
    findShout doc rounds (elementFrom doc p n (literal "action")) =
      (findFrom (fun node => node.isElement (literal "action") && hasShoutId node) n
        (doc.childLabels p)).map fun i => (p, i) := by
  induction rounds generalizing n with
  | zero =>
      have hend : (doc.childLabels p).length ≤ n := h
      rw [findShout, elementFrom, findFrom_of_length_le hend, findFrom_of_length_le hend]
  | succ rounds ih =>
      rw [findFrom_and]
      cases hfind : findFrom (QDomNode.isElement (literal "action")) n (doc.childLabels p) with
      | none => rw [elementFrom, hfind, Option.map_none, findShout_none]; rfl
      | some i =>
          obtain ⟨hle, ⟨node, hnode, -⟩, -⟩ := findFrom_eq_some_iff.1 hfind
          rw [elementFrom, hfind, Option.map_some, findShout, Option.bind_some, hnode,
            Option.any_some]
          by_cases hid : hasShoutId node = true
          · rw [if_neg fun hcond => hcond.2 ((hasShoutId_iff hnode).1 hid), if_pos hid]
            rfl
          · rw [if_pos ⟨rfl, fun heq => hid ((hasShoutId_iff hnode).2 heq)⟩, if_neg hid]
            exact ih (i + 1) (by omega)

/-- The loop as it is called. -/
theorem findShout_first (p : Address) :
    findShout doc ((elementFrom doc p 0 (literal "action")).elim 0 fun e =>
        (doc.childLabels e.1).length) (elementFrom doc p 0 (literal "action")) =
      (findFrom (fun node => node.isElement (literal "action") && hasShoutId node) 0
        (doc.childLabels p)).map fun i => (p, i) := by
  cases hel : elementFrom doc p 0 (literal "action") with
  | none =>
      rw [findShout_none, findFrom_and, Option.map_eq_none_iff.1 hel]
      rfl
  | some e =>
      obtain ⟨he, -⟩ := elementFrom_eq_some_iff.1 hel
      have hloop := @findShout_elementFrom doc p (doc.childLabels p).length 0 (by omega)
      rw [hel] at hloop
      rw [Option.elim_some, he]
      exact hloop

/-- **The steps find the entry**, and find nothing if there is none. -/
theorem allowActive_eq_some_iff {e : Address × Nat} :
    allowActive doc = some e ↔ ∃ i j k l, e = ([i, j, k], l) ∧ Entry doc i j k l := by
  rw [allowActive]
  cases hpolicy : elementFrom doc [] 0 (literal "policyconfig") with
  | none =>
      constructor
      · intro h
        simp [firstChildElement] at h
      · rintro ⟨i, j, k, l, -, hentry⟩
        have hfound : elementFrom doc [] 0 (literal "policyconfig") = some ([], i) :=
          elementFrom_eq_some_iff.2 ⟨rfl, hentry.policyconfig⟩
        rw [hpolicy] at hfound
        cases hfound
  | some d =>
      obtain ⟨hd, hi⟩ := elementFrom_eq_some_iff.1 hpolicy
      obtain ⟨p, i⟩ := d
      obtain rfl : p = [] := hd
      change firstChildElement doc (firstChildElement doc (findShout doc
        ((elementFrom doc [i] 0 (literal "action")).elim 0 fun e => (doc.childLabels e.1).length)
        (elementFrom doc [i] 0 (literal "action"))) (literal "defaults")) (literal "allow_active") = _
        ↔ _
      rw [findShout_first, firstChildElement_eq_some_iff]
      constructor
      · rintro ⟨d, hdefaults, he, hl⟩
        obtain ⟨c, hc, hdc, hk⟩ := firstChildElement_eq_some_iff.1 hdefaults
        obtain ⟨j, hj, rfl⟩ := Option.map_eq_some_iff.1 hc
        obtain ⟨q, k⟩ := d
        obtain rfl : q = [i, j] := hdc
        exact ⟨i, j, k, e.2, Prod.ext he rfl, hi, findFrom_eq_some_iff.1 hj, hk, hl⟩
      · rintro ⟨i', j, k, l, rfl, hentry⟩
        obtain rfl : i' = i := by
          have := findFrom_eq_some_iff.2 hentry.policyconfig
          rw [findFrom_eq_some_iff.2 hi] at this
          exact (Option.some.inj this).symm
        refine ⟨([i', j], k), ?_, rfl, hentry.allowActive⟩
        refine firstChildElement_eq_some_iff.2 ⟨([i'], j), ?_, rfl, hentry.defaults⟩
        rw [findFrom_eq_some_iff.2 hentry.action]
        rfl

end Steps

/-! ### The edit -/

@[simp] theorem hasShoutId_setData (data : QString) (node : QDomNode) :
    hasShoutId (node.setData data) = hasShoutId node := by
  rw [hasShoutId, QDomNode.attributeOf_setData, ← hasShoutId]

/-- What a search looks at is kept by an edit. -/
theorem isFirst_relabel (doc : QDomDocument) (data : QString) (p q : Address) (kind : QDomNode → Bool)
    (h : ∀ node, kind (node.setData data) = kind node) (n i : Nat) :
    IsFirst kind n ((doc.relabel (QDomNode.setData data) p).childLabels q) i ↔
      IsFirst kind n (doc.childLabels q) i := by
  rw [← findFrom_eq_some_iff, ← findFrom_eq_some_iff,
    findFrom_eq_of_map_eq (LabelTree.map_childLabels_relabel h p q doc)]

/-- **The entry stays where it was**, whatever the new text and wherever it is set. -/
theorem entry_setText (doc : QDomDocument) (data : QString) (p : Address) (i j k l : Nat) :
    Entry (doc.relabel (QDomNode.setData data) p) i j k l ↔ Entry doc i j k l := by
  have helement (tagName : QString) (q : Address) (n : Nat) :=
    isFirst_relabel doc data p q _ (QDomNode.isElement_setData tagName data) 0 n
  have haction (q : Address) (n : Nat) :=
    isFirst_relabel doc data p q (fun node => node.isElement (literal "action") && hasShoutId node)
      (fun node => by rw [QDomNode.isElement_setData, hasShoutId_setData]) 0 n
  constructor
  · rintro ⟨h₁, h₂, h₃, h₄⟩
    exact ⟨(helement _ _ _).1 h₁, (haction _ _).1 h₂, (helement _ _ _).1 h₃, (helement _ _ _).1 h₄⟩
  · rintro ⟨h₁, h₂, h₃, h₄⟩
    exact ⟨(helement _ _ _).2 h₁, (haction _ _).2 h₂, (helement _ _ _).2 h₃, (helement _ _ _).2 h₄⟩

/-- The second document is the first one with the text at the address replaced; a node that is no
text is kept, there as elsewhere. -/
structure TextReplaced (doc doc' : QDomDocument) (p : Address) (data : QString) : Prop where
  other : ∀ q, q ≠ p → doc'.label? q = doc.label? q
  text : ∀ cdata old, doc.label? p = some (.text cdata old) →
    doc'.label? p = some (.text cdata data)
  noText : (∀ cdata old, doc.label? p ≠ some (.text cdata old)) → doc'.label? p = doc.label? p

theorem textReplaced_relabel (doc : QDomDocument) (data : QString) (p : Address) :
    TextReplaced doc (doc.relabel (QDomNode.setData data) p) p data := by
  have hself : (doc.relabel (QDomNode.setData data) p).label? p =
      (doc.label? p).map (QDomNode.setData data) := by
    rw [LabelTree.label?_relabel, if_pos rfl]
  refine ⟨fun q hq => ?_, fun cdata old h => ?_, fun h => ?_⟩
  · rw [LabelTree.label?_relabel, if_neg hq]
  · rw [hself, h]
    rfl
  · rw [hself]
    cases hnode : doc.label? p with
    | none => rfl
    | some node =>
        cases node with
        | text cdata old => exact absurd hnode (h cdata old)
        | document => rfl
        | element _ _ => rfl
        | other _ _ => rfl

/-- What `setValue` does. -/
theorem setValue_spec (xml : Xml) (file : Bytes) (action : QString) (w : Surroundings) :
    let o := PkExampleHelper.setValue xml file action w
    let doc := xml.setContent file
    (o.1 = true ↔ w.readable = true ∧ w.writable = true ∧ ∃ i j k l, Entry doc i j k l) ∧
      (o.1 = false → o.2 = file) ∧
      (o.1 = true → ∃ i j k l, Entry doc i j k l ∧
        o.2 = xml.save (doc.relabel (QDomNode.setData action) [i, j, k, l, 0])) := by
  simp only [PkExampleHelper.setValue]
  cases hreadable : w.readable with
  | false => simp
  | true =>
      cases hel : allowActive (xml.setContent file) with
      | none =>
          have hno : ¬ ∃ i j k l, Entry (xml.setContent file) i j k l := by
            rintro ⟨i, j, k, l, hentry⟩
            rw [allowActive_eq_some_iff.2 ⟨i, j, k, l, rfl, hentry⟩] at hel
            cases hel
          simp [hno]
      | some e =>
          obtain ⟨i, j, k, l, rfl, hentry⟩ := allowActive_eq_some_iff.1 hel
          cases hwritable : w.writable with
          | false => simp
          | true =>
              refine ⟨⟨fun _ => ⟨rfl, rfl, i, j, k, l, hentry⟩, fun _ => rfl⟩, ?_, fun _ => ?_⟩
              · intro h
                cases h
              · exact ⟨i, j, k, l, hentry, rfl⟩

/-! ### The check -/

/-- polkit took the name of the caller and gave an answer. -/
def Answered (w : Surroundings) : Prop := w.accepted = true ∧ ∃ r, w.reply = .ok (some r)

/-- polkit says that the caller is authorized, without a challenge. -/
def Authorizes (w : Surroundings) : Prop :=
  ∃ r, w.reply = .ok (some r) ∧ r.isAuthorized = true ∧ r.isChallenge = false

/-- The first call found polkit. -/
def Connected (ws : List Surroundings) : Prop := ∀ w ∈ ws.head?, ∃ a, w.connection = .ok a

theorem subject_systemBusNameSubject {name : QString} {accepted : Bool} (h : accepted = true) :
    (systemBusNameSubject name accepted).subject = some (.systemBusName (cString name.toUtf8)) := by
  rw [h]
  rfl

@[simp] theorem isValid_systemBusNameSubject (name : QString) (accepted : Bool) :
    (systemBusNameSubject name accepted).isValid = accepted := by
  cases accepted <;> rfl

section Check

variable (d : Authority.Private) (actionId : QString) (subject : Subject) (flags : Int)
  (reply : Reply .checkAuthorization)

/-- A synchronous check with everything it leaves: polkit's answer, or an error. -/
theorem checkAuthorizationSync_cases :
    let o := Authority.checkAuthorizationSync d actionId subject flags reply
    (d.hasError = false ∧ subject.isValid = true ∧
        ∃ r, reply = .ok (some r) ∧ o.priv = d ∧ o.value = polkitResultToResult r ∧
          o.request = some (.checkAuthorization d.pkAuthority subject.subject
            (cString actionId.toLatin1) none flags)) ∨
      (¬(d.hasError = false ∧ subject.isValid = true ∧ ∃ r, reply = .ok (some r)) ∧
        o.priv.hasError = true ∧ o.value = .unknown ∧
        ∀ request, o.request = some request → subject.isValid = true ∧
          request = .checkAuthorization d.pkAuthority subject.subject
            (cString actionId.toLatin1) none flags) := by
  simp only [Authority.checkAuthorizationSync, Authority.checkAuthorizationSyncWithDetails]
  cases hguard : d.refuse (!subject.isValid) .wrongSubject with
  | some d' =>
      refine Or.inr ⟨?_, Authority.Private.hasError_of_refuse hguard, rfl, fun _ h => by cases h⟩
      rintro ⟨herr, hvalid, -⟩
      have hnone : d.refuse (!subject.isValid) .wrongSubject = none :=
        Authority.Private.refuse_eq_none.2 ⟨herr, by rw [hvalid]; rfl⟩
      rw [hguard] at hnone
      cases hnone
  | none =>
      obtain ⟨herr, hvalid⟩ := Authority.Private.refuse_eq_none.1 hguard
      have hvalid' : subject.isValid = true := by simpa using hvalid
      rcases reply with e | _ | r
      · refine Or.inr ⟨?_, rfl, rfl, fun _ h => ⟨hvalid', (Option.some.inj h).symm⟩⟩
        rintro ⟨-, -, r, hr⟩
        cases hr
      · refine Or.inr ⟨?_, rfl, rfl, fun _ h => ⟨hvalid', (Option.some.inj h).symm⟩⟩
        rintro ⟨-, -, r, hr⟩
        cases hr
      · exact Or.inl ⟨herr, hvalid', r, rfl, rfl, rfl, rfl⟩

end Check

/-- The request that a call makes. -/
def setRequest (h : PkExampleHelper) (caller : QString) (w : Surroundings) : Request :=
  .checkAuthorization (h.authorityInstance w).pkAuthority
    (some (.systemBusName (cString caller.toUtf8)))
    (cString (literal "org.qt.policykit.examples.set").toLatin1) none 1

/-- What a call does, the state of the authority given. -/
theorem set_cases (xml : Xml) (h : PkExampleHelper) (caller action : QString) (w : Surroundings) :
    let o := h.set xml caller action w
    let v := PkExampleHelper.setValue xml h.file action w
    (∀ request, o.request = some request → request = setRequest h caller w) ∧
    (∃ d, o.helper.authority = some d ∧
      (d.hasError = false ↔ (h.authorityInstance w).hasError = false ∧ Answered w)) ∧
    (((h.authorityInstance w).hasError = false ∧ w.accepted = true ∧ Authorizes w ∧
        o.value = v.1 ∧ o.helper.file = v.2 ∧ o.request = some (setRequest h caller w)) ∨
      (¬((h.authorityInstance w).hasError = false ∧ w.accepted = true ∧ Authorizes w) ∧
        o.value = false ∧ o.helper.file = h.file)) := by
  simp only [PkExampleHelper.set]
  obtain ⟨herr, hvalid, r, hreply, hpriv, hvalue, hrequest⟩ | ⟨hnot, herr, hvalue, hrequest⟩ :=
    checkAuthorizationSync_cases (h.authorityInstance w) (literal "org.qt.policykit.examples.set")
      (systemBusNameSubject caller w.accepted) 1 w.reply
  · rw [isValid_systemBusNameSubject] at hvalid
    rw [subject_systemBusNameSubject hvalid] at hrequest
    have hanswered : Answered w := ⟨hvalid, r, hreply⟩
    by_cases hyes : polkitResultToResult r = .yes
    · rw [hvalue, if_pos hyes, hpriv, hrequest]
      have hauthorizes : Authorizes w := ⟨r, hreply, polkitResultToResult_eq_yes.1 hyes⟩
      refine ⟨fun _ h => (Option.some.inj h).symm, ⟨_, rfl, ?_⟩,
        Or.inl ⟨herr, hvalid, hauthorizes, ?_⟩⟩
      · exact ⟨fun _ => ⟨herr, hanswered⟩, fun _ => herr⟩
      · exact ⟨rfl, rfl, rfl⟩
    · rw [hvalue, if_neg hyes, hpriv, hrequest]
      refine ⟨fun _ h => (Option.some.inj h).symm, ⟨_, rfl, ?_⟩, Or.inr ⟨?_, rfl, rfl⟩⟩
      · exact ⟨fun _ => ⟨herr, hanswered⟩, fun _ => herr⟩
      · rintro ⟨-, -, r', hreply', hflags⟩
        obtain rfl : r' = r := by
          rw [hreply] at hreply'
          exact (Option.some.inj (Except.ok.inj hreply')).symm
        exact hyes (polkitResultToResult_eq_yes.2 hflags)
  · rw [isValid_systemBusNameSubject] at hnot
    rw [hvalue, if_neg (by decide)]
    refine ⟨fun request h => ?_, ⟨_, rfl, ?_⟩, Or.inr ⟨?_, rfl, rfl⟩⟩
    · obtain ⟨hvalid, hsent⟩ := hrequest request h
      rw [isValid_systemBusNameSubject] at hvalid
      rw [hsent, subject_systemBusNameSubject hvalid]
      rfl
    · rw [herr]
      constructor
      · intro hfalse
        cases hfalse
      · rintro ⟨hbefore, haccepted, hreply⟩
        exact absurd ⟨hbefore, haccepted, hreply⟩ hnot
    · rintro ⟨hbefore, haccepted, r, hreply, -⟩
      exact hnot ⟨hbefore, haccepted, r, hreply⟩

/-! ### Runs -/

theorem surroundings_append (es fs : List Event) :
    surroundings (es ++ fs) = surroundings es ++ surroundings fs := List.filterMap_append

theorem hasError_construct (lastError : Authority.ErrorCode)
    (reply : Except GError (Option PolkitAuthority)) :
    (Authority.Private.construct lastError none reply).hasError = false ↔ ∃ a, reply = .ok a := by
  cases reply with
  | error gerror =>
      constructor
      · intro h
        cases h
      · rintro ⟨a, ha⟩
        cases ha
  | ok a => exact ⟨fun _ => ⟨a, rfl⟩, fun _ => rfl⟩

/-- Who called after the first call does not matter for the connection. -/
theorem connected_append (ws : List Surroundings) (v w : Surroundings) :
    Connected (ws ++ [v] ++ [w]) ↔ Connected (ws ++ [v]) := by
  cases ws <;> rfl

/-- The authority that the next call uses has no error exactly if polkit was found and all calls so far
got an answer. -/
theorem hasError_run (xml : Xml) (file : Bytes) (es : List Event) (w : Surroundings) :
    ((run (step xml) (PkExampleHelper.start file) es).authorityInstance w).hasError = false ↔
      Connected (surroundings es ++ [w]) ∧ ∀ v ∈ surroundings es, Answered v := by
  induction es using List.reverseRecOn generalizing w with
  | nil =>
      have hconnected : Connected [w] ↔ ∃ a, w.connection = .ok a := by simp [Connected]
      rw [run_nil, surroundings, List.filterMap_nil, List.nil_append, hconnected]
      constructor
      · intro h
        exact ⟨(hasError_construct _ _).1 h, fun v hv => absurd hv List.not_mem_nil⟩
      · rintro ⟨h, -⟩
        exact (hasError_construct _ _).2 h
  | append_singleton es e ih =>
      rw [run_append, surroundings_append]
      cases e with
      | edited contents =>
          have hnone : surroundings [Event.edited contents] = [] := rfl
          rw [hnone, List.append_nil]
          exact ih w
      | set caller action v =>
          have hone : surroundings [Event.set caller action v] = [v] := rfl
          obtain ⟨-, ⟨d, hd, herr⟩, -⟩ :=
            set_cases xml (run (step xml) (PkExampleHelper.start file) es) caller action v
          have hinstance : (run (step xml) (run (step xml) (PkExampleHelper.start file) es)
              [Event.set caller action v]).authorityInstance w = d := by
            rw [PkExampleHelper.authorityInstance, run_cons, run_nil, step, hd, Option.getD_some]
          rw [hinstance, herr, ih v, hone, connected_append]
          constructor
          · rintro ⟨⟨hconnected, hbefore⟩, hv⟩
            refine ⟨hconnected, fun u hu => ?_⟩
            rcases List.mem_append.1 hu with hu | hu
            · exact hbefore u hu
            · rw [List.mem_singleton.1 hu]
              exact hv
          · rintro ⟨hconnected, hall⟩
            exact ⟨⟨hconnected, fun u hu => hall u (List.mem_append_left _ hu)⟩,
              hall v (List.mem_append_right _ (List.mem_singleton.2 rfl))⟩

/-- **Complete mediation.**  After any calls and edits, a call is answered with true exactly if polkit
was found at the first call, has answered every call since, and says of this caller that he is
authorized, and if the file can be read and written and has the entry.  Polkit is asked about the
caller and about nobody else.  A call that is answered with false leaves the file as it was; one that
is answered with true saves the document with the first child of the entry replaced, if it is a text,
and every other node as it was. -/
theorem set_mediated (xml : Xml) (file : Bytes) (es : List Event) (caller action : QString)
    (w : Surroundings) :
    let h := run (step xml) (PkExampleHelper.start file) es
    let doc := xml.setContent h.file
    let o := h.set xml caller action w
    (o.value = true ↔
      (Connected (surroundings es ++ [w]) ∧ (∀ v ∈ surroundings es, Answered v) ∧
        w.accepted = true ∧ Authorizes w) ∧
      w.readable = true ∧ w.writable = true ∧ ∃ i j k l, Entry doc i j k l) ∧
    (∀ request, o.request = some request → request = setRequest h caller w) ∧
    (o.value = true → o.request.isSome = true) ∧
    (o.value = false → o.helper.file = h.file) ∧
    (o.value = true → ∃ i j k l doc', Entry doc i j k l ∧ o.helper.file = xml.save doc' ∧
      Entry doc' i j k l ∧ TextReplaced doc doc' [i, j, k, l, 0] action) := by
  intro h doc o
  obtain ⟨hrequest, -, hcases⟩ := set_cases xml h caller action w
  obtain ⟨hvalue, hkept, hsaved⟩ := setValue_spec xml h.file action w
  have herr := hasError_run xml file es w
  obtain ⟨hnone, haccepted, hauthorizes, hv, hfile, hsent⟩ | ⟨hnot, hv, hfile⟩ := hcases
  · have hv' : o.value = (PkExampleHelper.setValue xml h.file action w).1 := hv
    have hfile' : o.helper.file = (PkExampleHelper.setValue xml h.file action w).2 := hfile
    obtain ⟨hconnected, hanswered⟩ := herr.1 hnone
    refine ⟨?_, hrequest, fun _ => by rw [hsent]; rfl, ?_, ?_⟩
    · rw [hv', hvalue]
      exact ⟨fun hrest => ⟨⟨hconnected, hanswered, haccepted, hauthorizes⟩, hrest⟩, And.right⟩
    · intro hfalse
      rw [hfile', hkept (hv'.symm.trans hfalse)]
    · intro htrue
      obtain ⟨i, j, k, l, hentry, hsave⟩ := hsaved (hv'.symm.trans htrue)
      exact ⟨i, j, k, l, _, hentry, hfile'.trans hsave, (entry_setText ..).2 hentry,
        textReplaced_relabel ..⟩
  · have hv' : o.value = false := hv
    refine ⟨?_, hrequest, ?_, fun _ => hfile, ?_⟩
    · rw [hv']
      constructor
      · intro hfalse
        cases hfalse
      · rintro ⟨⟨hconnected, hanswered, haccepted, hauthorizes⟩, -⟩
        exact absurd ⟨herr.2 ⟨hconnected, hanswered⟩, haccepted, hauthorizes⟩ hnot
    · intro htrue
      rw [hv'] at htrue
      cases htrue
    · intro htrue
      rw [hv'] at htrue
      cases htrue

/-- A policy with another action in front, and this text in the entry. -/
def policy (text : QString) : QDomDocument :=
  .node .document [.node (.element (literal "policyconfig") [])
    [.node (.element (literal "action") [(literal "id", literal "cry")]) [],
      .node (.element (literal "action") [(literal "id", shout)])
        [.node (.element (literal "defaults") [])
          [.node (.element (literal "allow_active") []) [.node (.text false text) []]]]]]

/-- Of the policy only the text is in the file. -/
def policyXml : Xml where
  setContent file := policy (.ofUtf16 (file.map fun b => UInt16.ofNat b.toNat))
  save doc :=
    match doc.label? [0, 1, 0, 0, 0] with
    | some (.text _ data) => data.toLatin1
    | _ => []

def grants : Surroundings := ⟨.none, .ok (some 1), true, .ok (some ⟨true, false⟩), true, true⟩

/-- polkit ends the check with an error. -/
def fails : Surroundings := { grants with reply := .error ⟨.polkitError, 0, []⟩ }

/-- After a call that was granted the next one is, too; after a check that failed the process turns
everybody away. -/
theorem set_mediated_grants_fails :
    let caller := literal ":1.5"
    let h (w : Surroundings) :=
      run (step policyXml) (.start (literal "no").toLatin1) [.set caller (literal "auth_self") w]
    let o (w : Surroundings) := (h w).set policyXml caller (literal "yes") grants
    ((h grants).file = (literal "auth_self").toLatin1 ∧ (o grants).value = true ∧
      (o grants).helper.file = (literal "yes").toLatin1) ∧
    (h fails).file = (literal "no").toLatin1 ∧ (o fails).value = false ∧
      (o fails).helper.file = (h fails).file := by
  intro caller h o
  have hentry : ∃ i j k l, Entry (policyXml.setContent (h grants).file) i j k l := by
    have hfound : allowActive (policyXml.setContent (h grants).file) = some ([0, 1, 0], 0) := by rfl
    obtain ⟨i, j, k, l, -, hentry⟩ := allowActive_eq_some_iff.1 hfound
    exact ⟨i, j, k, l, hentry⟩
  have hanswered : Answered grants := ⟨rfl, _, rfl⟩
  have hauthorizes : Authorizes grants := ⟨_, rfl, rfl, rfl⟩
  obtain ⟨hgrants, -⟩ := set_mediated policyXml (literal "no").toLatin1
    [.set caller (literal "auth_self") grants] caller (literal "yes") grants
  obtain ⟨hfails, -, -, hkept, -⟩ := set_mediated policyXml (literal "no").toLatin1
    [.set caller (literal "auth_self") fails] caller (literal "yes") grants
  have hfalse : (o fails).value = false := by
    refine eq_false_of_ne_true fun htrue => ?_
    obtain ⟨⟨-, hall, -⟩, -⟩ := hfails.1 htrue
    obtain ⟨-, r, hr⟩ := hall fails (List.mem_singleton.2 rfl)
    cases hr
  have htrue : (o grants).value = true := by
    refine hgrants.2 ⟨⟨fun v hv => ?_, fun v hv => ?_, rfl, hauthorizes⟩, rfl, rfl, hentry⟩
    · obtain rfl : grants = v := Option.some.inj hv
      exact ⟨_, rfl⟩
    · obtain rfl : v = grants := List.mem_singleton.1 hv
      exact hanswered
  exact ⟨⟨by rfl, htrue, by rfl⟩, by rfl, hfalse, hkept hfalse⟩

end Example

end PolkitQt
