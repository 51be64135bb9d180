/-
  LineShell.Text.Quoted

  Ways to show a raw text in quotes, so that control characters, bytes beyond the ASCII
  range and quotes inside it can be seen.

    * `plain` puts a backslash in front of everything that needs one;
    * `forShell` writes the text so that it could be given to a command interpreter;
    * `whereNeeded` does the same, but leaves out quotes that change nothing.
-/

namespace LineShell.Text.Quoted

/-- The single quote. -/
def quote : Char := Char.ofNat 0x27

/-- The backslash. -/
def backslash : Char := Char.ofNat 0x5C

/-- The letter that stands behind a backslash for a control character. -/
def letter? (c : Char) : Option Char :=
  match c.toNat with
  | 7 => some 'a'
  | 8 => some 'b'
  | 9 => some 't'
  | 10 => some 'n'
  | 11 => some 'v'
  | 12 => some 'f'
  | 13 => some 'r'
  | _ => none

/-- Whether a character can be seen as it is. -/
def isVisible (c : Char) : Bool := 0x20 ≤ c.toNat && c.toNat < 0x7F

/-- A digit of a number in octal notation. -/
def octalDigit (n : Nat) : Char := Char.ofNat ('0'.toNat + n % 8)

/-- A character that cannot be seen, written with a backslash. -/
def escape (c : Char) : List Char :=
  match letter? c with
  | some letter => [backslash, letter]
  | none => [backslash, octalDigit (c.toNat / 64), octalDigit (c.toNat / 8), octalDigit c.toNat]

/-- A text in single quotes, with backslashes. -/
def plain (text : String) : String :=
  let inside := text.toList.flatMap fun c =>
    if c = quote || c = backslash then [backslash, c]
    else if isVisible c then [c]
    else escape c
  String.ofList (quote :: inside ++ [quote])

/-- Whether a text with a single quote can be written in double quotes as it is. -/
def suitsDoubleQuotes (text : List Char) : Bool :=
  text.contains quote && text.zipIdx.all fun (c, i) =>
    isVisible c && !("!\"$&()*;<=>[^|?".toList.contains c || c = backslash || c.toNat = 0x60) &&
      (i = 0 || !(c = '#' || c = '~'))

/-- The inside of a text in single quotes. The flag tells that an escape sequence stands
    open, which has quotes of its own. -/
def insideAfter (isOpen : Bool) : List Char → List Char
  | [] => []
  | c :: rest =>
    if c = quote then [quote, backslash, quote, quote] ++ insideAfter false rest
    else if isVisible c then (if isOpen then [quote, quote] else []) ++ c :: insideAfter false rest
    else (if isOpen then [] else [quote, '$', quote]) ++ escape c ++ insideAfter true rest

/-- A text in quotes that a command interpreter takes away again. -/
def forShell (text : String) : String :=
  let chars := text.toList
  if suitsDoubleQuotes chars then "\"" ++ text ++ "\""
  else String.ofList (quote :: insideAfter false chars ++ [quote])

/-- Whether a command interpreter may read something else than the text itself where the
    text stands without quotes, or the text holds one of some further characters. -/
def needsQuotes (further : List Char) (text : List Char) : Bool :=
  text = [] || text = ['\x7b'] || text = ['\x7d'] || text.zipIdx.any fun (c, i) =>
    !isVisible c || " !\"$&()*;<=>?[^|".toList.contains c || c = quote || c = backslash ||
      c.toNat = 0x60 || (i = 0 && (c = '#' || c = '~')) || further.contains c

/-- A text as a command interpreter reads it, in quotes only where it needs them or holds
    one of some further characters. -/
def whereNeeded (further : List Char) (text : String) : String :=
  if needsQuotes further text.toList then forShell text else text

end LineShell.Text.Quoted
