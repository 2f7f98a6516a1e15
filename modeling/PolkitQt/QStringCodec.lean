/-
**Which strings come back from C as they went.**

A text that is handed over in UTF-8 and read back with `QString::fromUtf8` is the same text, if its
surrogates are paired and it has no NUL in it, but for one thing: a byte order mark at its start is
taken for a signature and skipped.  A text that is handed over in Latin-1 comes back only if it is
ASCII, because every other byte is either malformed UTF-8 or eats the bytes after it.

Main definitions:

* `PolkitQt.QString.isWellFormed` — every surrogate is half of a pair;
* `PolkitQt.QString.Plain` — well-formed and without a NUL;
* `PolkitQt.QString.dropBom`, `PolkitQt.QString.IsAscii`.

Main results:

* `PolkitQt.QString.utf8DecodeBytes_encodeUnits` — decoding undoes encoding;
* `PolkitQt.QString.fromUtf8_toUtf8`, `PolkitQt.QString.toUtf8_injective`;
* `PolkitQt.QString.fromUtf8_toLatin1_iff` — **Latin-1 survives exactly when it is ASCII**.
-/

import PolkitQt.QtString
import Mathlib.Data.List.TakeWhile

set_option relaxedAutoImplicit false
set_option autoImplicit false

namespace PolkitQt

namespace QString

/-! ### Well-formed strings -/

/-- Every surrogate is half of a pair. -/
def isWellFormed : List UInt16 → Bool
  | [] => true
  | [u] => !isSurrogate u
  | u :: v :: rest =>
      if isHighSurrogate u && isLowSurrogate v then isWellFormed rest
      else !isSurrogate u && isWellFormed (v :: rest)

/-- The string is well-formed UTF-16 without a NUL. -/
structure Plain (s : QString) : Prop where
  wellFormed : isWellFormed s.utf16 = true
  nulFree : 0 ∉ s.utf16

/-- Only the code units matter. -/
theorem plain_ofUtf16_iff {s : QString} : (ofUtf16 s.utf16).Plain ↔ s.Plain :=
  ⟨fun h => ⟨h.wellFormed, h.nulFree⟩, fun h => ⟨h.wellFormed, h.nulFree⟩⟩

/-- Only ASCII characters. -/
def IsAscii (s : QString) : Prop := ∀ u ∈ s.utf16, u.toNat < 0x80

/-- Without the byte order mark at the start, if there is one. -/
def dropBom : List UInt16 → List UInt16
  | 0xFEFF :: rest => rest
  | units => units

instance (s : QString) : Decidable s.Plain :=
  decidable_of_iff (isWellFormed s.utf16 = true ∧ 0 ∉ s.utf16)
    ⟨fun h => ⟨h.1, h.2⟩, fun h => ⟨h.wellFormed, h.nulFree⟩⟩

instance (s : QString) : Decidable s.IsAscii :=
  List.decidableBAll (fun u : UInt16 => u.toNat < 0x80) s.utf16

theorem dropBom_cons {u : UInt16} (h : u ≠ 0xFEFF) (rest : List UInt16) :
    dropBom (u :: rest) = u :: rest := by
  rw [dropBom]
  intro rest' heq
  exact h (List.cons.inj heq).1

/-- A string keeps its start exactly if that is no byte order mark. -/
theorem dropBom_eq_self_iff (units : List UInt16) :
    dropBom units = units ↔ units.head? ≠ some 0xFEFF := by
  cases units with
  | nil => simp [dropBom]
  | cons u rest =>
      by_cases hu : u = 0xFEFF
      · subst hu
        simp [dropBom]
      · simpa [dropBom_cons hu] using hu

/-! ### Bytes of a character -/

theorem toNat_byte {n : Nat} (h : n < 0x100) : (UInt8.ofNat n).toNat = n :=
  UInt8.toNat_ofNat_of_lt' h

theorem isContinuationByte_iff (b : UInt8) :
    isContinuationByte b = true ↔ 0x80 ≤ b.toNat ∧ b.toNat < 0xC0 := by
  simp [isContinuationByte]

/-- A continuation byte carries six bits. -/
theorem continuation_byte (n : Nat) :
    isContinuationByte (UInt8.ofNat (0x80 + n % 0x40)) = true ∧
      payload (UInt8.ofNat (0x80 + n % 0x40)) = n % 0x40 := by
  have hbyte : (UInt8.ofNat (0x80 + n % 0x40)).toNat = 0x80 + n % 0x40 := toNat_byte (by omega)
  refine ⟨?_, ?_⟩
  · rw [isContinuationByte_iff, hbyte]
    omega
  · rw [payload, hbyte]
    omega

/-- The code points a decoder lets pass. -/
theorem ucs4Allowed_iff (least c : Nat) : ucs4Allowed least c = true ↔
    least ≤ c ∧ ¬(0xD800 ≤ c ∧ c < 0xE000) ∧ c ≤ 0x10FFFF := by
  simp [ucs4Allowed, and_assoc]
  omega

theorem length_utf16Encode_le (c : Nat) : (utf16Encode c).length ≤ 2 := by
  rw [utf16Encode]
  split <;> simp

theorem utf16Encode_of_lt {c : Nat} (h : c < 0x10000) : utf16Encode c = [UInt16.ofNat c] :=
  if_pos h

/-! ### Reading one character -/

section Reading

variable (rest : Bytes)

theorem utf8DecodeBytes_one {b : UInt8} (h : b.toNat < 0x80) :
    utf8DecodeBytes (b :: rest) = UInt16.ofNat b.toNat :: utf8DecodeBytes rest := by
  rw [utf8DecodeBytes.eq_def]
  simp only [h, if_true]

theorem utf8DecodeBytes_two {b b₁ : UInt8} (h : 0xC2 ≤ b.toNat) (h' : b.toNat < 0xE0)
    (h₁ : isContinuationByte b₁ = true) :
    utf8DecodeBytes (b :: b₁ :: rest) =
      utf16Encode (b.toNat % 0x20 * 0x40 + payload b₁) ++ utf8DecodeBytes rest := by
  have hone : ¬ b.toNat < 0x80 := by omega
  have hbad : ¬ b.toNat < 0xC2 := by omega
  rw [utf8DecodeBytes.eq_def]
  simp only [hone, hbad, h', h₁, if_true, if_false]

theorem utf8DecodeBytes_three {b b₁ b₂ : UInt8} (h : 0xE0 ≤ b.toNat) (h' : b.toNat < 0xF0)
    (h₁ : isContinuationByte b₁ = true) (h₂ : isContinuationByte b₂ = true)
    (hc : ucs4Allowed 0x800
      (b.toNat % 0x10 * 0x1000 + payload b₁ * 0x40 + payload b₂) = true) :
    utf8DecodeBytes (b :: b₁ :: b₂ :: rest) =
      utf16Encode (b.toNat % 0x10 * 0x1000 + payload b₁ * 0x40 + payload b₂) ++
        utf8DecodeBytes rest := by
  have hone : ¬ b.toNat < 0x80 := by omega
  have hbad : ¬ b.toNat < 0xC2 := by omega
  have htwo : ¬ b.toNat < 0xE0 := by omega
  rw [utf8DecodeBytes.eq_def]
  simp only [hone, hbad, htwo, h', h₁, h₂, hc, Bool.and_self, if_true, if_false]

theorem utf8DecodeBytes_four {b b₁ b₂ b₃ : UInt8} (h : 0xF0 ≤ b.toNat) (h' : b.toNat < 0xF5)
    (h₁ : isContinuationByte b₁ = true) (h₂ : isContinuationByte b₂ = true)
    (h₃ : isContinuationByte b₃ = true)
    (hc : ucs4Allowed 0x10000 (b.toNat % 0x08 * 0x40000 + payload b₁ * 0x1000 +
      payload b₂ * 0x40 + payload b₃) = true) :
    utf8DecodeBytes (b :: b₁ :: b₂ :: b₃ :: rest) =
      utf16Encode (b.toNat % 0x08 * 0x40000 + payload b₁ * 0x1000 + payload b₂ * 0x40 +
        payload b₃) ++ utf8DecodeBytes rest := by
  have hone : ¬ b.toNat < 0x80 := by omega
  have hbad : ¬ b.toNat < 0xC2 := by omega
  have htwo : ¬ b.toNat < 0xE0 := by omega
  have hthree : ¬ b.toNat < 0xF0 := by omega
  rw [utf8DecodeBytes.eq_def]
  simp only [hone, hbad, htwo, hthree, h', h₁, h₂, h₃, hc, Bool.and_self, if_true, if_false]

/-- **A code point that is written is read back**, whatever comes after it. -/
theorem utf8DecodeBytes_encode {c : Nat} (hc : c ≤ 0x10FFFF)
    (hsurrogate : ¬(0xD800 ≤ c ∧ c < 0xE000)) :
    utf8DecodeBytes (utf8Encode c ++ rest) = utf16Encode c ++ utf8DecodeBytes rest := by
  unfold utf8Encode
  split
  · next hone =>
      have hbyte : (UInt8.ofNat c).toNat = c := toNat_byte (by omega)
      rw [List.singleton_append, utf8DecodeBytes_one rest (by omega), hbyte,
        utf16Encode_of_lt (by omega)]
      rfl
  split
  · next htwo =>
      have hbyte : (UInt8.ofNat (0xC0 + c / 0x40)).toNat = 0xC0 + c / 0x40 :=
        toNat_byte (by omega)
      obtain ⟨hcont, hpayload⟩ := continuation_byte c
      have hvalue : (0xC0 + c / 0x40) % 0x20 * 0x40 + c % 0x40 = c := by omega
      have hread := utf8DecodeBytes_two rest (b := UInt8.ofNat (0xC0 + c / 0x40))
        (by omega) (by omega) hcont
      rw [hbyte, hpayload, hvalue] at hread
      exact hread
  split
  · next hthree =>
      have hbyte : (UInt8.ofNat (0xE0 + c / 0x1000)).toNat = 0xE0 + c / 0x1000 :=
        toNat_byte (by omega)
      obtain ⟨hcont₁, hpayload₁⟩ := continuation_byte (c / 0x40)
      obtain ⟨hcont₂, hpayload₂⟩ := continuation_byte c
      have hvalue : (0xE0 + c / 0x1000) % 0x10 * 0x1000 + c / 0x40 % 0x40 * 0x40 + c % 0x40 = c := by
        omega
      have hread := utf8DecodeBytes_three rest (b := UInt8.ofNat (0xE0 + c / 0x1000))
        (by omega) (by omega) hcont₁ hcont₂
      rw [hbyte, hpayload₁, hpayload₂, hvalue] at hread
      exact hread ((ucs4Allowed_iff _ _).2 ⟨by omega, hsurrogate, hc⟩)
  · have hbyte : (UInt8.ofNat (0xF0 + c / 0x40000)).toNat = 0xF0 + c / 0x40000 :=
      toNat_byte (by omega)
    obtain ⟨hcont₁, hpayload₁⟩ := continuation_byte (c / 0x1000)
    obtain ⟨hcont₂, hpayload₂⟩ := continuation_byte (c / 0x40)
    obtain ⟨hcont₃, hpayload₃⟩ := continuation_byte c
    have hvalue : (0xF0 + c / 0x40000) % 0x08 * 0x40000 + c / 0x1000 % 0x40 * 0x1000 +
        c / 0x40 % 0x40 * 0x40 + c % 0x40 = c := by
      omega
    have hread := utf8DecodeBytes_four rest (b := UInt8.ofNat (0xF0 + c / 0x40000))
      (by omega) (by omega) hcont₁ hcont₂ hcont₃
    rw [hbyte, hpayload₁, hpayload₂, hpayload₃, hvalue] at hread
    exact hread ((ucs4Allowed_iff _ _).2 ⟨by omega, hsurrogate, hc⟩)

end Reading

/-! ### Whole strings -/

theorem isSurrogate_eq_false_iff (u : UInt16) :
    isSurrogate u = false ↔ ¬(0xD800 ≤ u.toNat ∧ u.toNat < 0xE000) := by
  simp [isSurrogate, isHighSurrogate, isLowSurrogate]
  omega

theorem toNat_lt_unit (u : UInt16) : u.toNat < 0x10000 := UInt16.toNat_lt u

/-- A unit that is a character of its own. -/
theorem utf8DecodeBytes_encodeUnit {u : UInt16} (h : isSurrogate u = false) (rest : Bytes) :
    utf8DecodeBytes (utf8EncodeUnit u ++ rest) = u :: utf8DecodeBytes rest := by
  have hlt := toNat_lt_unit u
  rw [utf8EncodeUnit, h, if_neg Bool.false_ne_true,
    utf8DecodeBytes_encode rest (by omega) ((isSurrogate_eq_false_iff u).1 h),
    utf16Encode_of_lt hlt, UInt16.ofNat_toNat]
  rfl

/-- The two halves of a pair. -/
theorem utf16Encode_surrogateToUcs4 {hi lo : UInt16} (hhi : isHighSurrogate hi = true)
    (hlo : isLowSurrogate lo = true) :
    utf16Encode (surrogateToUcs4 hi lo) = [hi, lo] ∧ surrogateToUcs4 hi lo ≤ 0x10FFFF ∧
      0x10000 ≤ surrogateToUcs4 hi lo := by
  simp only [isHighSurrogate, isLowSurrogate, Bool.and_eq_true, decide_eq_true_eq] at hhi hlo
  unfold surrogateToUcs4
  refine ⟨?_, by omega, by omega⟩
  have hhigh : 0xD800 + (0x10000 + (hi.toNat - 0xD800) * 0x400 + (lo.toNat - 0xDC00) - 0x10000) /
      0x400 = hi.toNat := by
    omega
  have hlow : 0xDC00 + (0x10000 + (hi.toNat - 0xD800) * 0x400 + (lo.toNat - 0xDC00) - 0x10000) %
      0x400 = lo.toNat := by
    omega
  rw [utf16Encode, if_neg (by omega), hhigh, hlow, UInt16.ofNat_toNat, UInt16.ofNat_toNat]

/-- **Decoding undoes encoding** on well-formed strings. -/
theorem utf8DecodeBytes_encodeUnits {units : List UInt16} (h : isWellFormed units = true)
    (rest : Bytes) :
    utf8DecodeBytes (utf8EncodeUnits units ++ rest) = units ++ utf8DecodeBytes rest := by
  induction units using utf8EncodeUnits.induct with
  | case1 => rfl
  | case2 u =>
      have hu : isSurrogate u = false := by simpa [isWellFormed] using h
      exact utf8DecodeBytes_encodeUnit hu rest
  | case3 u v tail hpair ih =>
      obtain ⟨hhi, hlo⟩ := (Bool.and_eq_true _ _).mp hpair
      obtain ⟨hencode, hmax, hmin⟩ := utf16Encode_surrogateToUcs4 hhi hlo
      rw [isWellFormed, if_pos hpair] at h
      rw [utf8EncodeUnits, if_pos hpair, List.append_assoc,
        utf8DecodeBytes_encode _ hmax (by omega), ih h, hencode]
      rfl
  | case4 u v tail hpair ih =>
      rw [isWellFormed, if_neg hpair, Bool.and_eq_true] at h
      obtain ⟨hu, htail⟩ := h
      have hu' : isSurrogate u = false := by simpa using hu
      rw [utf8EncodeUnits, if_neg hpair, List.append_assoc, utf8DecodeBytes_encodeUnit hu', ih htail]
      rfl

/-- Only NUL is written as NUL. -/
theorem zero_not_mem_utf8Encode {c : Nat} (hc : c ≤ 0x10FFFF) (h : c ≠ 0) :
    (0 : UInt8) ∉ utf8Encode c := by
  have hbyte : ∀ n, n < 0x100 → n ≠ 0 → (0 : UInt8) ≠ UInt8.ofNat n := by
    intro n hn hne heq
    have hzero := congrArg UInt8.toNat heq
    rw [toNat_byte hn] at hzero
    exact hne hzero.symm
  intro hmem
  unfold utf8Encode at hmem
  split at hmem
  · exact hbyte c (by omega) h (List.mem_singleton.1 hmem)
  split at hmem
  · simp only [List.mem_cons, List.not_mem_nil, or_false] at hmem
    rcases hmem with heq | heq
    · exact hbyte _ (by omega) (by omega) heq
    · exact hbyte _ (by omega) (by omega) heq
  split at hmem
  · simp only [List.mem_cons, List.not_mem_nil, or_false] at hmem
    rcases hmem with heq | heq | heq
    · exact hbyte _ (by omega) (by omega) heq
    · exact hbyte _ (by omega) (by omega) heq
    · exact hbyte _ (by omega) (by omega) heq
  · simp only [List.mem_cons, List.not_mem_nil, or_false] at hmem
    rcases hmem with heq | heq | heq | heq
    · exact hbyte _ (by omega) (by omega) heq
    · exact hbyte _ (by omega) (by omega) heq
    · exact hbyte _ (by omega) (by omega) heq
    · exact hbyte _ (by omega) (by omega) heq

theorem zero_not_mem_utf8EncodeUnit {u : UInt16} (h : u ≠ 0) : (0 : UInt8) ∉ utf8EncodeUnit u := by
  have hlt := toNat_lt_unit u
  have hne : u.toNat ≠ 0 := fun hzero => h (UInt16.toNat_inj.1 hzero)
  rw [utf8EncodeUnit]
  split
  · decide
  · exact zero_not_mem_utf8Encode (by omega) hne

theorem zero_not_mem_utf8EncodeUnits {units : List UInt16} (h : (0 : UInt16) ∉ units) :
    (0 : UInt8) ∉ utf8EncodeUnits units := by
  induction units using utf8EncodeUnits.induct with
  | case1 => exact List.not_mem_nil
  | case2 u => exact zero_not_mem_utf8EncodeUnit fun hu => h (by simp [hu])
  | case3 u v tail hpair ih =>
      obtain ⟨hhi, hlo⟩ := (Bool.and_eq_true _ _).mp hpair
      obtain ⟨-, hmax, hmin⟩ := utf16Encode_surrogateToUcs4 hhi hlo
      rw [utf8EncodeUnits, if_pos hpair]
      intro hmem
      rcases List.mem_append.1 hmem with hfirst | hrest
      · exact zero_not_mem_utf8Encode hmax (by omega) hfirst
      · exact ih (fun htail => h (by simp [htail])) hrest
  | case4 u v tail hpair ih =>
      rw [utf8EncodeUnits, if_neg hpair]
      intro hmem
      rcases List.mem_append.1 hmem with hfirst | hrest
      · exact zero_not_mem_utf8EncodeUnit (fun hu => h (by simp [hu])) hfirst
      · exact ih (fun htail => h (List.mem_cons_of_mem u htail)) hrest

theorem cString_of_not_mem {b : Bytes} (h : (0 : UInt8) ∉ b) : cString b = b := by
  rw [cString, List.takeWhile_eq_self_iff]
  intro x hx
  exact decide_eq_true fun heq => h (heq ▸ hx)

/-- The C side reads all of a plain string. -/
theorem Plain.cString_toUtf8 {s : QString} (h : s.Plain) : cString s.toUtf8 = s.toUtf8 :=
  cString_of_not_mem (zero_not_mem_utf8EncodeUnits h.nulFree)

theorem Plain.utf8DecodeBytes_toUtf8 {s : QString} (h : s.Plain) :
    utf8DecodeBytes s.toUtf8 = s.utf16 := by
  have hdecode := utf8DecodeBytes_encodeUnits h.wellFormed []
  rw [List.append_nil] at hdecode
  rw [toUtf8, hdecode]
  exact List.append_nil _

/-- **Different strings are handed over as different bytes.** -/
theorem toUtf8_injective {s t : QString} (hs : s.Plain) (ht : t.Plain)
    (h : cString s.toUtf8 = cString t.toUtf8) : s.utf16 = t.utf16 := by
  rw [hs.cString_toUtf8, ht.cString_toUtf8] at h
  rw [← hs.utf8DecodeBytes_toUtf8, ← ht.utf8DecodeBytes_toUtf8, h]

/-! ### The byte order mark -/

/-- `fromUtf8` skips the three bytes of a byte order mark. -/
theorem fromUtf8_cases (b : Bytes) :
    (∃ rest, b = 0xEF :: 0xBB :: 0xBF :: rest ∧ fromUtf8 b = ofUtf16 (utf8DecodeBytes rest)) ∨
      ((∀ rest, b ≠ 0xEF :: 0xBB :: 0xBF :: rest) ∧ fromUtf8 b = ofUtf16 (utf8DecodeBytes b)) := by
  unfold fromUtf8
  split
  · next rest => exact Or.inl ⟨rest, rfl, rfl⟩
  · next hno => exact Or.inr ⟨fun rest heq => hno rest heq, rfl⟩

theorem utf8EncodeUnits_cons {u : UInt16} (h : isHighSurrogate u = false)
    (rest : List UInt16) :
    utf8EncodeUnits (u :: rest) = utf8EncodeUnit u ++ utf8EncodeUnits rest := by
  cases rest with
  | nil => simp [utf8EncodeUnits]
  | cons v rest =>
      rw [utf8EncodeUnits, if_neg]
      simp [h]

/-- **What is read back of a plain string** is the string, without a byte order mark at its
start. -/
theorem fromUtf8_toUtf8 {s : QString} (h : s.Plain) :
    fromUtf8 (cString s.toUtf8) = ofUtf16 (dropBom s.utf16) := by
  have hdecode := h.utf8DecodeBytes_toUtf8
  have hmark : utf8Encode 0xFEFF = [0xEF, 0xBB, 0xBF] := by decide
  rw [h.cString_toUtf8]
  rcases fromUtf8_cases s.toUtf8 with ⟨rest, hbytes, hread⟩ | ⟨hno, hread⟩
  · -- the bytes of the mark decode to the mark
    have hfirst := utf8DecodeBytes_encode rest (c := 0xFEFF) (by omega) (by omega)
    rw [hmark] at hfirst
    rw [hbytes] at hdecode
    have hunits : s.utf16 = 0xFEFF :: utf8DecodeBytes rest := hdecode.symm.trans hfirst
    rw [hread, hunits]
    rfl
  · rw [hread, hdecode, (dropBom_eq_self_iff s.utf16).2]
    intro hhead
    cases hunits : s.utf16 with
    | nil => simp [hunits] at hhead
    | cons u tail =>
        rw [hunits] at hhead
        obtain rfl := Option.some.inj hhead
        have hbytes : s.toUtf8 = 0xEF :: 0xBB :: 0xBF :: utf8EncodeUnits tail := by
          rw [toUtf8, hunits, utf8EncodeUnits_cons (by decide)]
          rfl
        exact hno _ hbytes

/-! ### Latin-1 -/

/-- A byte beyond ASCII is malformed, or eats at least as many bytes after it as it makes units. -/
theorem utf8DecodeBytes_high {b : UInt8} (h : 0x80 ≤ b.toNat) (rest : Bytes) :
    utf8DecodeBytes (b :: rest) = 0xFFFD :: utf8DecodeBytes rest ∨
      ∃ eaten rest' out, rest = eaten ++ rest' ∧ out.length ≤ eaten.length ∧
        utf8DecodeBytes (b :: rest) = out ++ utf8DecodeBytes rest' := by
  rw [utf8DecodeBytes.eq_def]
  dsimp only
  rw [if_neg (by omega)]
  split
  · exact Or.inl rfl
  split
  · -- two bytes make one unit
    cases rest with
    | nil => exact Or.inl rfl
    | cons b₁ rest₁ =>
        dsimp only
        split
        · refine Or.inr ⟨[b₁], rest₁, _, rfl, ?_, rfl⟩
          have hpayload : payload b₁ < 0x40 := Nat.mod_lt _ (by decide)
          rw [utf16Encode_of_lt (by omega)]
          rfl
        · exact Or.inl rfl
  split
  · match rest with
    | [] | [_] => exact Or.inl rfl
    | b₁ :: b₂ :: rest₂ =>
        dsimp only
        split
        · exact Or.inr ⟨[b₁, b₂], rest₂, _, rfl, length_utf16Encode_le _, rfl⟩
        · exact Or.inl rfl
  split
  · match rest with
    | [] | [_] | [_, _] => exact Or.inl rfl
    | b₁ :: b₂ :: b₃ :: rest₃ =>
        dsimp only
        split
        · refine Or.inr ⟨[b₁, b₂, b₃], rest₃, _, rfl, ?_, rfl⟩
          exact (length_utf16Encode_le _).trans (by simp)
        · exact Or.inl rfl
  · exact Or.inl rfl

/-- A decoder never makes more units than it reads bytes. -/
theorem length_utf8DecodeBytes_le (b : Bytes) : (utf8DecodeBytes b).length ≤ b.length := by
  induction hn : b.length using Nat.strong_induction_on generalizing b with
  | _ n ih =>
      cases b with
      | nil => simp [utf8DecodeBytes]
      | cons c rest =>
          rw [List.length_cons] at hn
          by_cases hc : c.toNat < 0x80
          · have hrest := ih rest.length (by omega) rest rfl
            rw [utf8DecodeBytes_one rest hc, List.length_cons]
            omega
          · rcases utf8DecodeBytes_high (b := c) (by omega) rest with
              hbad | ⟨eaten, rest', out, rfl, hout, hread⟩
            · have hrest := ih rest.length (by omega) rest rfl
              rw [hbad, List.length_cons]
              omega
            · rw [List.length_append] at hn
              have hrest := ih rest'.length (by omega) rest' rfl
              rw [hread, List.length_append]
              omega

/-- The byte of a unit in Latin-1. -/
def latin1Byte (u : UInt16) : UInt8 := if u.toNat < 0x100 then UInt8.ofNat u.toNat else 0x3F

theorem toLatin1_eq (s : QString) : s.toLatin1 = s.utf16.map latin1Byte := rfl

theorem toNat_latin1Byte (u : UInt16) :
    (latin1Byte u).toNat = if u.toNat < 0x100 then u.toNat else 0x3F := by
  rw [latin1Byte]
  split
  · next h => exact toNat_byte h
  · rfl

/-- A plain string has no NUL in Latin-1 either. -/
theorem cString_toLatin1 {s : QString} (h : 0 ∉ s.utf16) : cString s.toLatin1 = s.toLatin1 := by
  refine cString_of_not_mem ?_
  rw [toLatin1_eq, List.mem_map]
  rintro ⟨u, hu, hzero⟩
  have hbyte := toNat_latin1Byte u
  rw [hzero] at hbyte
  have hne : u.toNat ≠ 0 := fun heq => h ((UInt16.toNat_inj (b := 0)).1 heq ▸ hu)
  split at hbyte
  · exact hne hbyte.symm
  · exact absurd hbyte (by decide)

/-- **The bytes of a string in Latin-1 decode to its units only if all of them are ASCII.** -/
theorem utf8DecodeBytes_latin1_iff (units : List UInt16) :
    utf8DecodeBytes (units.map latin1Byte) = units ↔ ∀ u ∈ units, u.toNat < 0x80 := by
  induction units with
  | nil => simp [utf8DecodeBytes]
  | cons u rest ih =>
      have hbyte := toNat_latin1Byte u
      rw [List.map_cons, List.forall_mem_cons, ← ih]
      by_cases hascii : u.toNat < 0x80
      · rw [if_pos (by omega)] at hbyte
        rw [utf8DecodeBytes_one _ (by omega), hbyte, UInt16.ofNat_toNat, List.cons.injEq]
        exact and_congr (iff_of_true rfl hascii) Iff.rfl
      · refine iff_of_false ?_ (fun h => hascii h.1)
        intro heq
        by_cases hlatin : u.toNat < 0x100
        · rw [if_pos hlatin] at hbyte
          have hlength := congrArg List.length heq
          rcases utf8DecodeBytes_high (b := latin1Byte u) (by omega) (rest.map latin1Byte) with
            hbad | ⟨eaten, rest', out, heaten, hout, hread⟩
          · rw [hbad] at heq
            -- the replacement character is not Latin-1
            rw [← (List.cons.inj heq).1] at hlatin
            exact absurd hlatin (by decide)
          · -- some units are missing
            have hmap := congrArg List.length heaten
            have hrest' := length_utf8DecodeBytes_le rest'
            rw [hread] at hlength
            simp only [List.length_append, List.length_map, List.length_cons] at hlength hmap
            omega
        · rw [if_neg hlatin] at hbyte
          rw [utf8DecodeBytes_one _ (by omega), hbyte] at heq
          rw [← (List.cons.inj heq).1] at hascii
          exact hascii (by decide)

/-- **A text handed over in Latin-1 is read back as it was exactly if it is ASCII.** -/
theorem fromUtf8_toLatin1_iff {s : QString} (h : 0 ∉ s.utf16) :
    (fromUtf8 (cString s.toLatin1)).utf16 = s.utf16 ↔ s.IsAscii := by
  rw [cString_toLatin1 h, IsAscii, ← utf8DecodeBytes_latin1_iff, ← toLatin1_eq]
  rcases fromUtf8_cases s.toLatin1 with ⟨rest, hbytes, hread⟩ | ⟨-, hread⟩
  · -- three bytes are skipped, or eaten for one character
    have hlength : s.utf16.length = rest.length + 3 := by
      have hmap := congrArg List.length hbytes
      rw [toLatin1_eq, List.length_map] at hmap
      exact hmap
    have hrest := length_utf8DecodeBytes_le rest
    rw [hread, hbytes]
    refine iff_of_false (fun heq => ?_) (fun heq => ?_)
    · have hshort := congrArg List.length heq
      rw [utf16] at hshort
      omega
    · have hfirst := utf8DecodeBytes_encode rest (c := 0xFEFF) (by omega) (by omega)
      have hmark : utf8Encode 0xFEFF = [0xEF, 0xBB, 0xBF] := by decide
      rw [hmark] at hfirst
      have hshort := congrArg List.length (hfirst.symm.trans heq)
      rw [List.length_append, utf16Encode_of_lt (by omega), List.length_singleton] at hshort
      omega
  · rw [hread]
    exact Iff.rfl

end QString

end PolkitQt
