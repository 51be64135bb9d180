/-
  LineShell.Text.Utf8

  Text as bytes: the UTF-8 form of a string, and the reading of arbitrary bytes.

  Reading goes byte by byte. A leading byte announces how many continuation bytes follow
  and in which range each of them lies. A sequence that is completed gives its character.
  A byte that does not continue the sequence before it, or the end, leaves a gap in place
  of that sequence; a byte that can neither continue nor lead one is a gap by itself. So
  every gap is the longest beginning of a well-formed sequence found at its place, or a
  single byte that begins none. The two readings of the result are

    * `decode?`: the text, if there is no gap at all;
    * `decodeLossy`: the text with U+FFFD for every gap.
-/

namespace LineShell

/-- A string of bytes, as it is read from or written to a stream. -/
abbrev Bytes := List UInt8

namespace Utf8

/-! ## Writing -/

/-- The UTF-8 form of some characters. -/
def encodeChars (cs : List Char) : Bytes := cs.flatMap String.utf8EncodeChar

/-- The UTF-8 form of a text. -/
def encode (s : String) : Bytes := encodeChars s.toList

@[simp] theorem encode_append (s t : String) : encode (s ++ t) = encode s ++ encode t := by
  simp [encode, encodeChars, String.toList_append]

/-! ## Reading -/

/-- The least and the greatest value that a continuation byte may have. -/
structure Range where
  low : UInt8
  high : UInt8
  deriving DecidableEq, Repr

/-- Whether a byte lies in a range. -/
def Range.has (range : Range) (b : UInt8) : Bool := range.low ≤ b && b ≤ range.high

/-- The range of a continuation byte on which the leading byte puts no condition. -/
def anyTail : Range := ⟨0x80, 0xBF⟩

/-- A sequence that has begun: the bits of its character so far, and the ranges of the
    continuation bytes that are still to come. -/
structure Begun where
  bits : Nat
  next : Range
  later : List Range
  deriving DecidableEq, Repr

/-- The bits of a sequence after one more continuation byte, which brings six. -/
def Begun.bitsWith (begun : Begun) (b : UInt8) : Nat := begun.bits * 64 + (b.toNat - 0x80)

/-- What reading one byte gives: characters and gaps, `none` for a gap, and the sequence
    that has begun with it or goes on. -/
abbrev Step := List (Option Char) × Option Begun

/-- Reads a byte that continues no sequence. The narrower ranges after `E0`, `ED`, `F0` and
    `F4` keep out overlong forms, surrogates and values above U+10FFFF. -/
def lead (b : UInt8) : Step :=
  if b < 0x80 then ([some (Char.ofNat b.toNat)], none)
  else if b < 0xC2 then ([none], none)
  else if b < 0xE0 then ([], some ⟨b.toNat - 0xC0, anyTail, []⟩)
  else if b = 0xE0 then ([], some ⟨0, ⟨0xA0, 0xBF⟩, [anyTail]⟩)
  else if b = 0xED then ([], some ⟨0xD, ⟨0x80, 0x9F⟩, [anyTail]⟩)
  else if b < 0xF0 then ([], some ⟨b.toNat - 0xE0, anyTail, [anyTail]⟩)
  else if b = 0xF0 then ([], some ⟨0, ⟨0x90, 0xBF⟩, [anyTail, anyTail]⟩)
  else if b < 0xF4 then ([], some ⟨b.toNat - 0xF0, anyTail, [anyTail, anyTail]⟩)
  else if b = 0xF4 then ([], some ⟨4, ⟨0x80, 0x8F⟩, [anyTail, anyTail]⟩)
  else ([none], none)

/-- Reads a byte, where a sequence may have begun before it. -/
def step (state : Option Begun) (b : UInt8) : Step :=
  match state with
  | none => lead b
  | some begun =>
    if begun.next.has b then
      match begun.later with
      | [] => ([some (Char.ofNat (begun.bitsWith b))], none)
      | next :: later => ([], some ⟨begun.bitsWith b, next, later⟩)
    else (none :: (lead b).1, (lead b).2)

/-- The characters and gaps of some bytes, where a sequence may have begun before them. A
    sequence that the end cuts off is a gap. -/
def scanAfter (state : Option Begun) : Bytes → List (Option Char)
  | [] => state.toList.map fun _ => none
  | b :: bs => (step state b).1 ++ scanAfter (step state b).2 bs

/-- The characters and gaps of some bytes, in order. -/
def scan (bytes : Bytes) : List (Option Char) := scanAfter none bytes

/-- The character that stands for a gap. -/
def replacement : Char := Char.ofNat 0xFFFD

/-- The characters of some bytes, with U+FFFD for every gap. -/
def decodeChars (bytes : Bytes) : List Char := (scan bytes).map (·.getD replacement)

/-- The text of some bytes, with U+FFFD for every gap. -/
def decodeLossy (bytes : Bytes) : String := String.ofList (decodeChars bytes)

/-- The text of some bytes without any gap. -/
def decode? (bytes : Bytes) : Option String :=
  ((scan bytes).mapM id).map String.ofList

end Utf8
end LineShell
