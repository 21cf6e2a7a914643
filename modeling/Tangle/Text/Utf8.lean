/-!
# Bytes and text

Documents are bytes; headers, patterns and diagnostics are text. This
file relates the two: `Utf8.encode` writes text as bytes, and
`Utf8.decode` reads any bytes as text, putting one U+FFFD for each
maximal run of bytes that begins a character and cannot go on.

The decoder is a machine with one pending character (`Pending`), fed a
byte at a time. A byte that cannot continue the pending character ends
it and is read again as a first byte, so the decoder never looks ahead
and an ASCII byte always stands for itself.
-/

namespace Tangle

/-- A string of bytes. -/
abbrev Bytes := List UInt8

namespace Utf8

/-- The bytes of a text. -/
def encode (text : List Char) : Bytes :=
  text.flatMap String.utf8EncodeChar

/-- The bytes of a string. -/
def ofString (s : String) : Bytes :=
  encode s.toList

/-- What stands for bytes that are no character. -/
def replacement : Char := '\ufffd'

/-- A character that has begun and is not complete. -/
structure Pending where
  /-- Continuation bytes after the next one. -/
  more : Nat
  /-- The value of the bits read so far. -/
  value : Nat
  /-- The least byte that continues the character. -/
  lo : UInt8
  /-- The greatest byte that continues the character. -/
  hi : UInt8
deriving Repr, DecidableEq

/-- Reads a byte as the first of a character. The ranges exclude
overlong forms, surrogates and values beyond U+10FFFF. -/
def first (b : UInt8) : List Char × Option Pending :=
  if b < 0x80 then ([Char.ofNat b.toNat], none)
  else if b < 0xC2 then ([replacement], none)
  else if b < 0xE0 then ([], some ⟨0, b.toNat % 32, 0x80, 0xBF⟩)
  else if b = 0xE0 then ([], some ⟨1, 0, 0xA0, 0xBF⟩)
  else if b = 0xED then ([], some ⟨1, 13, 0x80, 0x9F⟩)
  else if b < 0xF0 then ([], some ⟨1, b.toNat % 16, 0x80, 0xBF⟩)
  else if b = 0xF0 then ([], some ⟨2, 0, 0x90, 0xBF⟩)
  else if b < 0xF4 then ([], some ⟨2, b.toNat % 8, 0x80, 0xBF⟩)
  else if b = 0xF4 then ([], some ⟨2, 4, 0x80, 0x8F⟩)
  else ([replacement], none)

/-- Reads a byte after `pending`: the characters that it completes, and
what is pending then. -/
def next (pending : Option Pending) (b : UInt8) : List Char × Option Pending :=
  match pending with
  | none => first b
  | some p =>
    if p.lo ≤ b ∧ b ≤ p.hi then
      let value := p.value * 64 + b.toNat % 64
      match p.more with
      | 0 => ([Char.ofNat value], none)
      | more + 1 => ([], some ⟨more, value, 0x80, 0xBF⟩)
    else (replacement :: (first b).1, (first b).2)

/-- Reads bytes after `pending`; a character still pending at the end is
replaced. -/
def decodeFrom : Option Pending → Bytes → List Char
  | none, [] => []
  | some _, [] => [replacement]
  | pending, b :: bytes => (next pending b).1 ++ decodeFrom (next pending b).2 bytes

/-- The text of arbitrary bytes. -/
def decode (bytes : Bytes) : List Char :=
  decodeFrom none bytes

/-- The text of arbitrary bytes, as a string. -/
def text (bytes : Bytes) : String :=
  String.ofList (decode bytes)

/-- The text of bytes that are well-formed UTF-8: those which the bytes of
their text give back. -/
def text? (bytes : Bytes) : Option String :=
  if encode (decode bytes) = bytes then some (text bytes) else none

end Utf8

end Tangle
