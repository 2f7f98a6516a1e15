/-
**Strings: `QString` and the bytes handed to the C side.**

A `QString` is a sequence of UTF-16 code units; the default-constructed one is *null*, which is a
value of its own (`isNull`) although it has no characters either.  polkit and GLib speak
NUL-terminated byte strings, so every text crosses the border through one of three conversions,
which are modelled here the way Qt computes them.

Main definitions:

* `PolkitQt.QString`, `PolkitQt.QString.isNull`, `PolkitQt.QString.isEmpty`;
* `PolkitQt.QString.toLatin1`, `PolkitQt.QString.toUtf8` — towards C; a unit that has no image is
  replaced by a question mark;
* `PolkitQt.QString.fromUtf8` — from C; a byte that starts no character becomes `U+FFFD`;
* `PolkitQt.cString` — what the C side reads of a byte array: it stops at the first `NUL`.
-/

import Mathlib.Data.List.Basic

set_option relaxedAutoImplicit false
set_option autoImplicit false

namespace PolkitQt

/-- The bytes of a `QByteArray` or of a C string, without the terminating `NUL`. -/
abbrev Bytes := List UInt8

/-- What C reads of a byte array handed over as `const char *`. -/
def cString (b : Bytes) : Bytes := b.takeWhile (· ≠ 0)

/-- A Qt string: null, or a sequence of UTF-16 code units. -/
inductive QString
  | null
  | ofUtf16 (units : List UInt16)
  deriving DecidableEq, Repr, Inhabited

namespace QString

/-- The code units of the string. -/
def utf16 : QString → List UInt16
  | null => []
  | ofUtf16 u => u

def isNull : QString → Bool
  | null => true
  | ofUtf16 _ => false

def isEmpty (s : QString) : Bool := s.utf16.isEmpty

/-! ### Towards C -/

/-- `QString::toLatin1`: one byte per code unit. -/
def toLatin1 (s : QString) : Bytes :=
  s.utf16.map fun u => if u.toNat < 0x100 then UInt8.ofNat u.toNat else 0x3F

def isHighSurrogate (u : UInt16) : Bool := 0xD800 ≤ u.toNat && u.toNat < 0xDC00

def isLowSurrogate (u : UInt16) : Bool := 0xDC00 ≤ u.toNat && u.toNat < 0xE000

def isSurrogate (u : UInt16) : Bool := isHighSurrogate u || isLowSurrogate u

/-- The code point a surrogate pair stands for. -/
def surrogateToUcs4 (hi lo : UInt16) : Nat :=
  0x10000 + (hi.toNat - 0xD800) * 0x400 + (lo.toNat - 0xDC00)

/-- The UTF-8 encoding of a code point. -/
def utf8Encode (c : Nat) : Bytes :=
  if c < 0x80 then [UInt8.ofNat c]
  else if c < 0x800 then [UInt8.ofNat (0xC0 + c / 0x40), UInt8.ofNat (0x80 + c % 0x40)]
  else if c < 0x10000 then
    [UInt8.ofNat (0xE0 + c / 0x1000), UInt8.ofNat (0x80 + c / 0x40 % 0x40),
      UInt8.ofNat (0x80 + c % 0x40)]
  else
    [UInt8.ofNat (0xF0 + c / 0x40000), UInt8.ofNat (0x80 + c / 0x1000 % 0x40),
      UInt8.ofNat (0x80 + c / 0x40 % 0x40), UInt8.ofNat (0x80 + c % 0x40)]

/-- A unit on its own: an unpaired surrogate becomes a question mark. -/
def utf8EncodeUnit (u : UInt16) : Bytes := if isSurrogate u then [0x3F] else utf8Encode u.toNat

def utf8EncodeUnits : List UInt16 → Bytes
  | [] => []
  | [u] => utf8EncodeUnit u
  | u :: v :: rest =>
      if isHighSurrogate u && isLowSurrogate v then
        utf8Encode (surrogateToUcs4 u v) ++ utf8EncodeUnits rest
      else utf8EncodeUnit u ++ utf8EncodeUnits (v :: rest)

/-- `QString::toUtf8`. -/
def toUtf8 (s : QString) : Bytes := utf8EncodeUnits s.utf16

/-! ### From C -/

def isContinuationByte (b : UInt8) : Bool := 0x80 ≤ b.toNat && b.toNat < 0xC0

/-- The six payload bits of a continuation byte. -/
def payload (b : UInt8) : Nat := b.toNat % 0x40

/-- The UTF-16 form of a code point. -/
def utf16Encode (c : Nat) : List UInt16 :=
  if c < 0x10000 then [UInt16.ofNat c]
  else [UInt16.ofNat (0xD800 + (c - 0x10000) / 0x400), UInt16.ofNat (0xDC00 + (c - 0x10000) % 0x400)]

/-- A decoded code point stands when it is not an overlong form, not a surrogate and not beyond
the last code point. -/
def ucs4Allowed (least c : Nat) : Bool :=
  least ≤ c && !(0xD800 ≤ c && c < 0xE000) && c ≤ 0x10FFFF

/-- The decoder: a character is read whole or its first byte becomes `U+FFFD` and reading goes
on at the next byte. -/
def utf8DecodeBytes : Bytes → List UInt16
  | [] => []
  | b :: rest =>
      if b.toNat < 0x80 then UInt16.ofNat b.toNat :: utf8DecodeBytes rest
      else if b.toNat < 0xC2 then 0xFFFD :: utf8DecodeBytes rest
      else if b.toNat < 0xE0 then
        match rest with
        | b₁ :: rest₁ =>
            if isContinuationByte b₁ then
              utf16Encode (b.toNat % 0x20 * 0x40 + payload b₁) ++ utf8DecodeBytes rest₁
            else 0xFFFD :: utf8DecodeBytes (b₁ :: rest₁)
        | [] => [0xFFFD]
      else if b.toNat < 0xF0 then
        match rest with
        | b₁ :: b₂ :: rest₂ =>
            let c := b.toNat % 0x10 * 0x1000 + payload b₁ * 0x40 + payload b₂
            if isContinuationByte b₁ && isContinuationByte b₂ && ucs4Allowed 0x800 c then
              utf16Encode c ++ utf8DecodeBytes rest₂
            else 0xFFFD :: utf8DecodeBytes (b₁ :: b₂ :: rest₂)
        | short => 0xFFFD :: utf8DecodeBytes short
      else if b.toNat < 0xF5 then
        match rest with
        | b₁ :: b₂ :: b₃ :: rest₃ =>
            let c := b.toNat % 0x08 * 0x40000 + payload b₁ * 0x1000 + payload b₂ * 0x40 + payload b₃
            if isContinuationByte b₁ && isContinuationByte b₂ && isContinuationByte b₃ &&
                ucs4Allowed 0x10000 c then
              utf16Encode c ++ utf8DecodeBytes rest₃
            else 0xFFFD :: utf8DecodeBytes (b₁ :: b₂ :: b₃ :: rest₃)
        | short => 0xFFFD :: utf8DecodeBytes short
      else 0xFFFD :: utf8DecodeBytes rest

/-- `QString::fromUtf8` on a C string that is there.  A byte order mark at the start is skipped. -/
def fromUtf8 (b : Bytes) : QString :=
  match b with
  | 0xEF :: 0xBB :: 0xBF :: rest => ofUtf16 (utf8DecodeBytes rest)
  | _ => ofUtf16 (utf8DecodeBytes b)

example : fromUtf8 (toUtf8 (ofUtf16 [0x4B, 0xE9, 0x20AC, 0xD83D, 0xDE00])) =
    ofUtf16 [0x4B, 0xE9, 0x20AC, 0xD83D, 0xDE00] := by decide

end QString

end PolkitQt
