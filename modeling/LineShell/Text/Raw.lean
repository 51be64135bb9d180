/-
  LineShell.Text.Raw

  Raw text: a string in which every character stands for the byte of its number. Scripts
  are read and run on raw text, since they may hold and print any bytes.
-/
import LineShell.Text.Utf8

namespace LineShell.Text.Raw

/-- The raw text of bytes. -/
def ofBytes (bytes : Bytes) : String :=
  String.ofList (bytes.map fun b => Char.ofNat b.toNat)

/-- The bytes of a raw text. -/
def toBytes (text : String) : Bytes :=
  text.toList.map fun c => c.toNat.toUInt8

/-- The raw text of a text. -/
def ofText (text : String) : String := ofBytes (Utf8.encode text)

/-- The text of a raw text. -/
def toText (text : String) : String := Utf8.decodeLossy (toBytes text)

end LineShell.Text.Raw
