/-
**The texts polkit gets back.**

`TextsSent` follows a text of the client to polkit.  The texts that matter most go the other way first:
polkit hands over the id of a temporary authorization, the cookie of a request or the id of an action
as a C string, a `QString` is read of it, and the client hands that back to name the same thing.

`QString::fromUtf8` accepts any bytes.  What it makes of them is always a sequence of characters, so
nothing is lost on the way back to UTF-8; but bytes that are not UTF-8, and a byte order mark, were
lost before.  An action id goes back in Latin-1.

Main definitions:

* `PolkitQt.QString.unitsOf` — a text in UTF-16;
* `PolkitQt.QString.IsUtf8`, `PolkitQt.QString.HasMark` — bytes that are a text in UTF-8, and bytes
  that start with a byte order mark.

Main results:

* `PolkitQt.QString.utf8DecodeBytes_eq_unitsOf` — **the decoder makes characters**, of any bytes;
* `PolkitQt.QString.toUtf8_fromUtf8_iff` — what comes back as it was;
* `PolkitQt.Authority.handed_back_iff` — the ids and cookies that do.
-/

import PolkitQt.TextsSent
import PolkitQt.AuthoritySuccess
import PolkitQt.AgentDispatch

set_option relaxedAutoImplicit false
set_option autoImplicit false

namespace PolkitQt

open QString

namespace QString

/-! ### Characters -/

/-- A text in UTF-16. -/
def unitsOf (cs : List Char) : List UInt16 := cs.flatMap fun c => utf16Encode c.toNat

/-- The bytes are a text in UTF-8. -/
def IsUtf8 (b : Bytes) : Prop := ∃ cs : List Char, b = cs.flatMap String.utf8EncodeChar

/-- The bytes start with a byte order mark. -/
def HasMark (b : Bytes) : Prop := [0xEF, 0xBB, 0xBF] <+: b

instance (b : Bytes) : Decidable (HasMark b) :=
  inferInstanceAs (Decidable ([0xEF, 0xBB, 0xBF] <+: b))

theorem toNat_char (c : Char) : ¬(0xD800 ≤ c.toNat ∧ c.toNat < 0xE000) ∧ c.toNat ≤ 0x10FFFF := by
  have hvalid : c.toNat.isValidChar := c.valid
  unfold Nat.isValidChar at hvalid
  omega

theorem exists_char {n : Nat} (hsurrogate : ¬(0xD800 ≤ n ∧ n < 0xE000)) (hmax : n ≤ 0x10FFFF) :
    ∃ c : Char, c.toNat = n := by
  have hvalid : n.isValidChar := by
    unfold Nat.isValidChar
    omega
  exact ⟨Char.ofNatAux n hvalid, rfl⟩

/-- The encoder of one character is that of the library. -/
theorem utf8Encode_eq_utf8EncodeChar (c : Char) : utf8Encode c.toNat = String.utf8EncodeChar c := by
  have hmax := (toNat_char c).2
  unfold utf8Encode String.utf8EncodeChar
  rw [← Char.toNat]
  dsimp only
  by_cases hone : c.toNat < 0x80
  · rw [if_pos hone, if_pos (show c.toNat ≤ 0x7f by omega)]
  rw [if_neg hone, if_neg (show ¬ c.toNat ≤ 0x7f by omega)]
  by_cases htwo : c.toNat < 0x800
  · have hlead : c.toNat / 64 % 0x20 = c.toNat / 64 := by omega
    rw [if_pos htwo, if_pos (show c.toNat ≤ 0x7ff by omega), hlead]
    simp only [Nat.add_comm]
  rw [if_neg htwo, if_neg (show ¬ c.toNat ≤ 0x7ff by omega)]
  by_cases hthree : c.toNat < 0x10000
  · have hlead : c.toNat / 4096 % 0x10 = c.toNat / 4096 := by omega
    rw [if_pos hthree, if_pos (show c.toNat ≤ 0xffff by omega), hlead]
    simp only [Nat.add_comm]
  · have hlead : c.toNat / 262144 % 0x08 = c.toNat / 262144 := by omega
    rw [if_neg hthree, if_neg (show ¬ c.toNat ≤ 0xffff by omega), hlead]
    simp only [Nat.add_comm]

theorem toNat_unit {n : Nat} (h : n < 0x10000) : (UInt16.ofNat n).toNat = n :=
  UInt16.toNat_ofNat_of_lt' h

/-- Units with the values of the two halves are a pair. -/
theorem surrogates_of_values {hi lo : UInt16} {n : Nat} (hmin : 0x10000 ≤ n) (hmax : n ≤ 0x10FFFF)
    (hhi : hi.toNat = 0xD800 + (n - 0x10000) / 0x400)
    (hlo : lo.toNat = 0xDC00 + (n - 0x10000) % 0x400) :
    (isHighSurrogate hi && isLowSurrogate lo) = true ∧ surrogateToUcs4 hi lo = n := by
  refine ⟨?_, ?_⟩
  · simp only [isHighSurrogate, isLowSurrogate, Bool.and_eq_true, decide_eq_true_eq]
    omega
  · unfold surrogateToUcs4
    omega

/-- A character is a unit of its own or a pair. -/
theorem utf16Encode_cases (c : Char) :
    (∃ u, utf16Encode c.toNat = [u] ∧ isSurrogate u = false ∧ u.toNat = c.toNat) ∨
      ∃ hi lo, utf16Encode c.toNat = [hi, lo] ∧
        (isHighSurrogate hi && isLowSurrogate lo) = true ∧ surrogateToUcs4 hi lo = c.toNat := by
  obtain ⟨hsurrogate, hmax⟩ := toNat_char c
  by_cases hlt : c.toNat < 0x10000
  · refine Or.inl ⟨UInt16.ofNat c.toNat, utf16Encode_of_lt hlt, ?_, toNat_unit hlt⟩
    rw [isSurrogate_eq_false_iff, toNat_unit hlt]
    exact hsurrogate
  · have hhi := toNat_unit (n := 0xD800 + (c.toNat - 0x10000) / 0x400) (by omega)
    have hlo := toNat_unit (n := 0xDC00 + (c.toNat - 0x10000) % 0x400) (by omega)
    exact Or.inr ⟨_, _, by rw [utf16Encode, if_neg hlt],
      surrogates_of_values (by omega) hmax hhi hlo⟩

theorem isWellFormed_cons {u : UInt16} (h : isSurrogate u = false) (rest : List UInt16) :
    isWellFormed (u :: rest) = isWellFormed rest := by
  have hhigh : isHighSurrogate u = false := by
    rw [isSurrogate, Bool.or_eq_false_iff] at h
    exact h.1
  cases rest with
  | nil => simp [isWellFormed, h]
  | cons v rest =>
      rw [isWellFormed, if_neg (by simp [hhigh]), h]
      rfl

theorem isWellFormed_unitsOf (cs : List Char) : isWellFormed (unitsOf cs) = true := by
  induction cs with
  | nil => rfl
  | cons c cs ih =>
      rw [unitsOf, List.flatMap_cons, ← unitsOf]
      rcases utf16Encode_cases c with ⟨u, hunits, hu, -⟩ | ⟨hi, lo, hunits, hpair, -⟩
      · rw [hunits, List.singleton_append, isWellFormed_cons hu, ih]
      · rw [hunits]
        exact (if_pos hpair).trans ih

/-- The encoders of the two sides agree. -/
theorem utf8EncodeUnits_unitsOf (cs : List Char) :
    utf8EncodeUnits (unitsOf cs) = cs.flatMap String.utf8EncodeChar := by
  induction cs with
  | nil => rfl
  | cons c cs ih =>
      rw [unitsOf, List.flatMap_cons, ← unitsOf, List.flatMap_cons, ← ih,
        ← utf8Encode_eq_utf8EncodeChar]
      rcases utf16Encode_cases c with ⟨u, hunits, hu, hvalue⟩ | ⟨hi, lo, hunits, hpair, hvalue⟩
      · have hhigh : isHighSurrogate u = false := by
          rw [isSurrogate, Bool.or_eq_false_iff] at hu
          exact hu.1
        rw [hunits, List.singleton_append, utf8EncodeUnits_cons hhigh, utf8EncodeUnit, hu,
          if_neg Bool.false_ne_true, hvalue]
      · rw [hunits, ← hvalue]
        exact if_pos hpair

theorem zero_mem_unitsOf {cs : List Char} (h : (0 : UInt16) ∈ unitsOf cs) :
    ∃ c ∈ cs, c.toNat = 0 := by
  obtain ⟨c, hc, hmem⟩ := List.mem_flatMap.1 h
  refine ⟨c, hc, ?_⟩
  rcases utf16Encode_cases c with ⟨u, hunits, -, hvalue⟩ | ⟨hi, lo, hunits, hpair, -⟩
  · rw [hunits, List.mem_singleton] at hmem
    rw [← hvalue, ← hmem]
    rfl
  · -- neither half of a pair is NUL
    rw [hunits] at hmem
    simp only [isHighSurrogate, isLowSurrogate, Bool.and_eq_true, decide_eq_true_eq] at hpair
    simp only [List.mem_cons, List.not_mem_nil, or_false] at hmem
    rcases hmem with rfl | rfl
    · exact absurd hpair.1.1 (by decide)
    · exact absurd hpair.2.1 (by decide)

/-! ### The decoder -/

/-- What the decoder makes of these bytes starts with a character, which is a NUL only if the first
byte is. -/
def ReadsChar (b : UInt8) (rest : Bytes) (units : List UInt16) : Prop :=
  ∃ (c : Char) (rest' : Bytes), rest' <:+ rest ∧
    units = utf16Encode c.toNat ++ utf8DecodeBytes rest' ∧ (c.toNat = 0 → b = 0)

theorem readsChar_replaced (b : UInt8) (rest : Bytes) :
    ReadsChar b rest (0xFFFD :: utf8DecodeBytes rest) :=
  ⟨Char.ofNat 0xFFFD, rest, List.suffix_refl rest, rfl, fun h => absurd h (by decide)⟩

theorem readsChar_of_le {b : UInt8} {rest rest' : Bytes} {n : Nat} (hsuffix : rest' <:+ rest)
    (hpos : 0 < n) (hsurrogate : ¬(0xD800 ≤ n ∧ n < 0xE000)) (hmax : n ≤ 0x10FFFF) :
    ReadsChar b rest (utf16Encode n ++ utf8DecodeBytes rest') := by
  obtain ⟨c, rfl⟩ := exists_char hsurrogate hmax
  exact ⟨c, rest', hsuffix, rfl, fun h => absurd h (by omega)⟩

theorem readsChar_of_allowed {b : UInt8} {rest rest' : Bytes} {least n : Nat}
    (hsuffix : rest' <:+ rest) (hleast : 0 < least) (h : ucs4Allowed least n = true) :
    ReadsChar b rest (utf16Encode n ++ utf8DecodeBytes rest') := by
  obtain ⟨hn, hsurrogate, hmax⟩ := (ucs4Allowed_iff least n).1 h
  exact readsChar_of_le hsuffix (by omega) hsurrogate hmax

/-- **One step of the decoder.** -/
theorem readsChar_utf8DecodeBytes (b : UInt8) (rest : Bytes) :
    ReadsChar b rest (utf8DecodeBytes (b :: rest)) := by
  by_cases hone : b.toNat < 0x80
  · obtain ⟨c, hc⟩ := exists_char (n := b.toNat) (by omega) (by omega)
    refine ⟨c, rest, List.suffix_refl rest, ?_, fun h => UInt8.toNat_inj.1 (hc.symm.trans h)⟩
    rw [utf8DecodeBytes_one rest hone, hc, utf16Encode_of_lt (by omega)]
    rfl
  rw [utf8DecodeBytes.eq_def]
  dsimp only
  rw [if_neg hone]
  split
  · exact readsChar_replaced b rest
  split
  · -- two bytes reach no surrogate
    cases rest with
    | nil => exact readsChar_replaced b []
    | cons b₁ rest₁ =>
        dsimp only
        split
        · have hpayload : payload b₁ < 0x40 := Nat.mod_lt _ (by decide)
          exact readsChar_of_le (List.suffix_cons b₁ rest₁) (by omega) (by omega) (by omega)
        · exact readsChar_replaced b _
  split
  · rcases rest with _ | ⟨b₁, _ | ⟨b₂, rest₂⟩⟩
    · exact readsChar_replaced b []
    · exact readsChar_replaced b [b₁]
    · dsimp only
      split
      · next h =>
          simp only [Bool.and_eq_true] at h
          exact readsChar_of_allowed ⟨[b₁, b₂], rfl⟩ (by decide) h.2
      · exact readsChar_replaced b _
  split
  · rcases rest with _ | ⟨b₁, _ | ⟨b₂, _ | ⟨b₃, rest₃⟩⟩⟩
    · exact readsChar_replaced b []
    · exact readsChar_replaced b [b₁]
    · exact readsChar_replaced b [b₁, b₂]
    · dsimp only
      split
      · next h =>
          simp only [Bool.and_eq_true] at h
          exact readsChar_of_allowed ⟨[b₁, b₂, b₃], rfl⟩ (by decide) h.2
      · exact readsChar_replaced b _
  · exact readsChar_replaced b rest

/-- **The decoder makes characters**, and a NUL of a NUL only. -/
theorem utf8DecodeBytes_eq_unitsOf (b : Bytes) :
    ∃ cs : List Char, utf8DecodeBytes b = unitsOf cs ∧ ((∃ c ∈ cs, c.toNat = 0) → 0 ∈ b) := by
  induction hn : b.length using Nat.strong_induction_on generalizing b with
  | _ n ih =>
      cases b with
      | nil => exact ⟨[], rfl, by simp⟩
      | cons x rest =>
          obtain ⟨c, rest', hsuffix, hread, hzero⟩ := readsChar_utf8DecodeBytes x rest
          have hle := hsuffix.length_le
          rw [List.length_cons] at hn
          obtain ⟨cs, hcs, hrest⟩ := ih rest'.length (by omega) rest' rfl
          refine ⟨c :: cs, ?_, ?_⟩
          · rw [hread, hcs, unitsOf, unitsOf, List.flatMap_cons]
          · rintro ⟨c', hc', hnul⟩
            rcases List.mem_cons.1 hc' with rfl | hc'
            · exact List.mem_cons.2 (Or.inl (hzero hnul).symm)
            · exact List.mem_cons_of_mem x (hsuffix.subset (hrest ⟨c', hc', hnul⟩))

/-- **What is read of a C string is a plain string**, whatever its bytes. -/
theorem plain_fromUtf8 {b : Bytes} (h : (0 : UInt8) ∉ b) : (fromUtf8 b).Plain := by
  have key : ∀ rest : Bytes, (0 : UInt8) ∉ rest → (ofUtf16 (utf8DecodeBytes rest)).Plain := by
    intro rest hrest
    obtain ⟨cs, hcs, hzero⟩ := utf8DecodeBytes_eq_unitsOf rest
    refine ⟨?_, fun hmem => hrest (hzero ?_)⟩
    · rw [utf16, hcs]
      exact isWellFormed_unitsOf cs
    · rw [utf16, hcs] at hmem
      exact zero_mem_unitsOf hmem
  rcases fromUtf8_cases b with ⟨rest, rfl, hread⟩ | ⟨-, hread⟩
  · rw [hread]
    exact key rest fun hmem => h (by simp [hmem])
  · rw [hread]
    exact key b h

/-! ### There and back -/

/-- Bytes are UTF-8 exactly if decoding and encoding leaves them as they are. -/
theorem isUtf8_iff (b : Bytes) : IsUtf8 b ↔ utf8EncodeUnits (utf8DecodeBytes b) = b := by
  constructor
  · rintro ⟨cs, rfl⟩
    have hdecode := utf8DecodeBytes_encodeUnits (isWellFormed_unitsOf cs) []
    have hnil : utf8DecodeBytes [] = [] := rfl
    rw [List.append_nil, hnil, List.append_nil] at hdecode
    rw [← utf8EncodeUnits_unitsOf, hdecode]
  · intro h
    obtain ⟨cs, hcs, -⟩ := utf8DecodeBytes_eq_unitsOf b
    rw [hcs, utf8EncodeUnits_unitsOf] at h
    exact ⟨cs, h.symm⟩

instance (b : Bytes) : Decidable (IsUtf8 b) := decidable_of_iff _ (isUtf8_iff b).symm

/-- **What comes back as it was**: the UTF-8 without a byte order mark. -/
theorem toUtf8_fromUtf8_iff {b : Bytes} (h : (0 : UInt8) ∉ b) :
    cString (fromUtf8 b).toUtf8 = b ↔ IsUtf8 b ∧ ¬ HasMark b := by
  have hplain := plain_fromUtf8 h
  rw [hplain.cString_toUtf8, isUtf8_iff, toUtf8]
  rcases fromUtf8_cases b with ⟨rest, rfl, hread⟩ | ⟨hno, hread⟩
  · -- a mark that was skipped would be decoded, had it come back
    refine iff_of_false (fun heq => ?_) fun hmark => hmark.2 ⟨rest, rfl⟩
    have hdecode := hplain.utf8DecodeBytes_toUtf8
    have hfirst := utf8DecodeBytes_encode rest (c := 0xFEFF) (by omega) (by omega)
    have hmark : utf8Encode 0xFEFF = [0xEF, 0xBB, 0xBF] := by decide
    rw [hmark] at hfirst
    rw [toUtf8, heq, hread] at hdecode
    have hlength := congrArg List.length (hfirst.symm.trans hdecode)
    rw [utf16, List.length_append, utf16Encode_of_lt (by omega), List.length_singleton] at hlength
    omega
  · rw [hread, utf16]
    refine (and_iff_left ?_).symm
    rintro ⟨rest, rfl⟩
    exact hno rest rfl

/-- In Latin-1 only ASCII comes back as it was. -/
theorem latin1_utf8DecodeBytes_iff (b : Bytes) :
    (utf8DecodeBytes b).map latin1Byte = b ↔ ∀ x ∈ b, x.toNat < 0x80 := by
  induction b with
  | nil => simp [utf8DecodeBytes]
  | cons x rest ih =>
      rw [List.forall_mem_cons, ← ih]
      by_cases hx : x.toNat < 0x80
      · have hunit := toNat_unit (n := x.toNat) (by omega)
        have hbyte : latin1Byte (UInt16.ofNat x.toNat) = x := by
          rw [latin1Byte, hunit, if_pos (by omega), UInt8.ofNat_toNat]
        rw [utf8DecodeBytes_one rest hx, List.map_cons, hbyte, List.cons.injEq]
        exact and_congr (iff_of_true rfl hx) Iff.rfl
      · refine iff_of_false (fun heq => ?_) fun h => hx h.1
        rcases utf8DecodeBytes_high (b := x) (by omega) rest with
          hbad | ⟨eaten, rest', out, rfl, hout, hread⟩
        · -- the replacement character goes back as a question mark
          rw [hbad, List.map_cons] at heq
          rw [← (List.cons.inj heq).1] at hx
          exact hx (by decide)
        · have hshort := length_utf8DecodeBytes_le rest'
          have hlength := congrArg List.length heq
          rw [hread] at hlength
          simp only [List.length_map, List.length_append, List.length_cons] at hlength
          omega

theorem toLatin1_fromUtf8_iff {b : Bytes} (h : (0 : UInt8) ∉ b) :
    cString (fromUtf8 b).toLatin1 = b ↔ ∀ x ∈ b, x.toNat < 0x80 := by
  rw [cString_toLatin1 (plain_fromUtf8 h).nulFree, toLatin1_eq]
  rcases fromUtf8_cases b with ⟨rest, rfl, hread⟩ | ⟨-, hread⟩
  · refine iff_of_false (fun heq => ?_) fun hascii => ?_
    · have hshort := length_utf8DecodeBytes_le rest
      have hlength := congrArg List.length heq
      rw [hread, utf16] at hlength
      simp only [List.length_map, List.length_cons] at hlength
      omega
    · exact absurd (hascii 0xEF (List.mem_cons_self ..)) (by decide)
  · rw [hread, utf16]
    exact latin1_utf8DecodeBytes_iff b

end QString

/-- The cookie `Session(identity, cookie, result, parent)` gives to `polkit_agent_session_new`. -/
def Agent.sessionCookie (cookie : QString) : Bytes := cString cookie.toUtf8

namespace Authority

/-- The text of the request that an operation with one text sends. -/
theorem texts_of_sends {d : Private} {op : Operation} {request : Request} (h : Sends d op request) :
    request.texts = (op.request d.pkAuthority).texts := by
  rw [h.eq_request]

/-- **The ids and cookies that come back to polkit.**  Whatever bytes polkit hands over, a plain
string is made of them.  The id of a temporary authorization names the same authorization when it is
revoked, and the cookie of a request the same request when the agent opens a session for it or responds
to it, if and only if it is UTF-8 without a byte order mark at its start; and an authorization is
checked for the id of an action that polkit has listed if and only if the id is ASCII. -/
theorem handed_back_iff {b : Bytes} (hb : (0 : UInt8) ∉ b) (d : Private) :
    (fromUtf8 b).Plain ∧
      (∀ t : PolkitTemporaryAuthorization, t.id = b → ∀ request,
        ((TemporaryAuthorization.ofPolkit t).revoke d).request = some request →
          (request.texts = [t.id] ↔ IsUtf8 b ∧ ¬ HasMark b)) ∧
      (∀ (i : Agent.Initiation) (polkitIdentityHash : PolkitIdentity → UInt32), i.cookie = some b →
        let cookie := (i.arguments polkitIdentityHash).cookie
        (Agent.sessionCookie cookie = b ↔ IsUtf8 b ∧ ¬ HasMark b) ∧
          ∀ identity request, Sends d (.authenticationAgentResponse cookie identity) request →
            (request.texts = [b] ↔ IsUtf8 b ∧ ¬ HasMark b)) ∧
      ∀ a : PolkitActionDescription, a.actionId = b → ∀ subject flags details request,
        Sends d (.checkAuthorization (ActionDescription.ofPolkit a).actionId subject flags details)
          request → (request.texts = [a.actionId] ↔ ∀ x ∈ b, x.toNat < 0x80) := by
  have hutf8 : [cString (fromUtf8 b).toUtf8] = [b] ↔ IsUtf8 b ∧ ¬ HasMark b := by
    rw [List.singleton_inj]
    exact toUtf8_fromUtf8_iff hb
  refine ⟨plain_fromUtf8 hb, ?_, ?_, ?_⟩
  · rintro t rfl request hrequest
    rw [request_revoke] at hrequest
    split at hrequest
    · simp at hrequest
    · obtain rfl := Option.some.inj hrequest
      exact hutf8
  · rintro i polkitIdentityHash hcookie cookie
    have heq : cookie = fromUtf8 b := congrArg ListenerAdapter.fromUtf8OrNull hcookie
    rw [heq]
    refine ⟨toUtf8_fromUtf8_iff hb, fun identity request hsends => ?_⟩
    rw [texts_of_sends hsends]
    exact hutf8
  · rintro a rfl subject flags details request hsends
    have hlatin1 : [cString (fromUtf8 a.actionId).toLatin1] = [a.actionId] ↔
        ∀ x ∈ a.actionId, x.toNat < 0x80 := by
      rw [List.singleton_inj]
      exact toLatin1_fromUtf8_iff hb
    rw [texts_of_sends hsends]
    exact hlatin1

/-- An id with an accented letter in UTF-8 comes back when it is revoked, and not when it is checked
as that of an action; in Latin-1 it does not come back at all. -/
theorem handed_back_iff_accent :
    let subject : Subject := ⟨some (.unixSession [0x31])⟩
    let t : PolkitTemporaryAuthorization := ⟨[0xC3, 0xA9], [], .unixSession [], 0, 0⟩
    let a : PolkitActionDescription := ⟨[0xC3, 0xA9], [], [], [], [], [], 0, 0, 0⟩
    (∀ request, ((TemporaryAuthorization.ofPolkit t).revoke freshAuthority).request = some request →
        request.texts = [t.id]) ∧
      (∀ request, Sends freshAuthority
        (.checkAuthorization (ActionDescription.ofPolkit a).actionId subject 0 .empty) request →
          request.texts ≠ [a.actionId]) ∧
      ∀ request, ((TemporaryAuthorization.ofPolkit { t with id := [0xE9] }).revoke
        freshAuthority).request = some request → request.texts ≠ [[0xE9]] := by
  intro subject t a
  obtain ⟨-, hrevoke, -, hcheck⟩ :=
    handed_back_iff (b := [0xC3, 0xA9]) (by decide) freshAuthority
  obtain ⟨-, hrevoke', -⟩ := handed_back_iff (b := [0xE9]) (by decide) freshAuthority
  refine ⟨fun request h => (hrevoke t rfl request h).2 (by decide), fun request h heq => ?_,
    fun request h heq => ?_⟩
  · have hascii := (hcheck a rfl subject 0 .empty request h).1 heq 0xC3 (List.mem_cons_self ..)
    exact absurd hascii (by decide)
  · exact absurd ((hrevoke' { t with id := [0xE9] } rfl request h).1 heq) (by decide)

end Authority

end PolkitQt
