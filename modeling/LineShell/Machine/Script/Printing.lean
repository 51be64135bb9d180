/-
  LineShell.Machine.Script.Printing

  The two commands of a script that print text: `echo`, which replaces escape sequences in
  its arguments, and `printf`, which fills its arguments into a format.
-/
import LineShell.Machine.Script.Arithmetic
import LineShell.Machine.Script.Decimal

namespace LineShell.Machine.Script

/-! ## Escape sequences -/

/-- The character that starts an escape sequence. -/
def escapeSign : Char := Char.ofNat 0x5C

/-- The value of an octal digit. -/
def octalValue? (c : Char) : Option Nat :=
  if '0' ≤ c ∧ c ≤ '7' then some (c.toNat - '0'.toNat) else none

/-- Reads at most `limit` octal digits. -/
def readOctal : Nat → Nat → List Char → Nat × List Char
  | 0, value, rest => (value, rest)
  | _ + 1, value, [] => (value, [])
  | limit + 1, value, c :: rest =>
    match octalValue? c with
    | some digit => readOctal limit (value * 8 + digit) rest
    | none => (value, c :: rest)

/-- The byte that a number stands for, as a character. -/
def byteChar (n : Nat) : Char := Char.ofNat (n % 256)

/-- The character that a letter stands for in an escape sequence. -/
def letterEscape? (c : Char) : Option Char :=
  match c with
  | 'a' => some (Char.ofNat 7)
  | 'b' => some (Char.ofNat 8)
  | 'e' => some (Char.ofNat 27)
  | 'f' => some (Char.ofNat 12)
  | 'n' => some (Char.ofNat 10)
  | 'r' => some (Char.ofNat 13)
  | 't' => some (Char.ofNat 9)
  | 'v' => some (Char.ofNat 11)
  | _ => if c = escapeSign then some escapeSign else none

/-- The character of an escape sequence of which the sign has been read, and what follows
    it. An unknown sequence stands for its sign. -/
def readEscape (text : List Char) : Char × List Char :=
  match text with
  | [] => (escapeSign, [])
  | c :: rest =>
    match letterEscape? c with
    | some letter => (letter, rest)
    | none =>
      if (octalValue? c).isSome then
        let (value, later) := readOctal 3 0 (c :: rest)
        (byteChar value, later)
      else (escapeSign, c :: rest)

/-- Replaces the escape sequences of a text, in which a zero and up to three octal digits
    stand for a byte and the letter `c` ends all printing. The flag tells whether it did.
    The fuel is at least the length of the text. -/
def unescape : Nat → List Char → List Char × Bool
  | 0, text => (text, false)
  | _ + 1, [] => ([], false)
  | fuel + 1, c :: rest =>
    if c ≠ escapeSign then
      let (text, stopped) := unescape fuel rest
      (c :: text, stopped)
    else match rest with
      | 'c' :: _ => ([], true)
      | '0' :: later =>
        let (value, later) := readOctal 3 0 later
        let (text, stopped) := unescape fuel later
        (byteChar value :: text, stopped)
      | _ =>
        let (letter, later) := readEscape rest
        let (text, stopped) := unescape fuel later
        (letter :: text, stopped)

/-- What `echo` prints. -/
def echoText (args : List String) : String :=
  let (words, ending) :=
    match args with
    | "-n" :: rest => (rest, "")
    | _ => (args, "\n")
  let text := " ".intercalate words
  let (printed, stopped) := unescape text.length text.toList
  String.ofList printed ++ if stopped then "" else ending

/-! ## Formats -/

namespace Format

/-- A place in a format that an argument fills. -/
structure Directive where
  flags : List Char := []
  /-- The least number of characters. -/
  width : Nat := 0
  /-- The least number of digits, or the greatest number of characters. -/
  precision : Option Nat := none

/-- Filling arguments into a format, at some point of it. -/
structure Filling where
  args : List String
  /-- What has been printed, last character first. -/
  printed : List Char := []
  /-- What was wrong with arguments, in order. -/
  complaints : List String := []

/-- How filling ends. -/
inductive Verdict where
  | finished
  /-- An argument has ended all printing. -/
  | stopped
  | refused (complaint : String)
  deriving DecidableEq, Repr

/-- Takes the next argument. -/
def Filling.take (filling : Filling) : Option String × Filling :=
  (filling.args.head?, { filling with args := filling.args.drop 1 })

/-- Prints characters. -/
def Filling.print (filling : Filling) (text : List Char) : Filling :=
  { filling with printed := text.reverse ++ filling.printed }

/-- Notes what is wrong with an argument. -/
def Filling.complain (filling : Filling) (text : String) : Filling :=
  { filling with complaints := filling.complaints ++ [text] }

/-- Fills up a text to a width. -/
def pad (directive : Directive) (text : List Char) : List Char :=
  let blanks := List.replicate (directive.width - text.length) ' '
  if directive.flags.contains '-' then text ++ blanks else blanks ++ text

/-- Fills up a number to a width; its sign or mark stands in front of the zeros. -/
def padNumber (directive : Directive) (zeros : Bool) (front digits : List Char) : List Char :=
  if zeros && directive.flags.contains '0' && !directive.flags.contains '-' then
    front ++ List.replicate (directive.width - front.length - digits.length) '0' ++ digits
  else pad directive (front ++ digits)

/-- Digits with zeros in front, as many as a precision wants. -/
def withPrecision (directive : Directive) (digits : List Char) : List Char :=
  match directive.precision with
  | none => digits
  | some precision =>
    if digits = ['0'] && precision = 0 then []
    else List.replicate (precision - digits.length) '0' ++ digits

/-- The sign of a number that is printed with one. -/
def signOf (directive : Directive) (negative : Bool) : List Char :=
  if negative then ['-']
  else if directive.flags.contains '+' then ['+']
  else if directive.flags.contains ' ' then [' ']
  else []

/-- A whole number with a sign. -/
def signed (directive : Directive) (value : Int) : List Char :=
  padNumber directive directive.precision.isNone (signOf directive (value < 0))
    (withPrecision directive (Nat.toDigits 10 value.natAbs))

/-- A whole number without a sign, in a base that a letter stands for. -/
def unsigned (directive : Directive) (letter : Char) (value : Nat) : List Char :=
  let base := if letter = 'o' then 8 else if letter = 'u' then 10 else 16
  let digits := withPrecision directive (Nat.toDigits base value)
  let marked := directive.flags.contains '#'
  let front := if marked && base = 16 && value ≠ 0 then ['0', 'x'] else []
  let digits := if marked && base = 8 && digits.head? ≠ some '0' then '0' :: digits else digits
  let upper := if letter = 'X' then List.map Char.toUpper else id
  padNumber directive directive.precision.isNone (upper front) (upper digits)

/-- Notes what is wrong with an argument of which `rest` is no part of a number. -/
def checked (filling : Filling) (arg : String) (rest : List Char) (outside : Bool) : Filling :=
  if rest ≠ [] then
    if rest = arg.toList then filling.complain s!"{arg}: expected numeric value"
    else filling.complain s!"{arg}: not completely converted"
  else if outside then filling.complain s!"{arg}: Numerical result out of range"
  else filling

/-- The character behind a quotation mark, if a text starts with one. -/
def quotedChar? (text : String) : Option Char :=
  match text.toList with
  | c :: rest => if c = '"' || c = Char.ofNat 0x27 then some (rest.headD (Char.ofNat 0)) else none
  | [] => none

/-- Takes an argument as a whole number. -/
def takeInteger (filling : Filling) : Int × Filling :=
  match filling.take with
  | (none, filling) => (0, filling)
  | (some arg, filling) =>
    match quotedChar? arg with
    | some c => (c.toNat, filling)
    | none =>
      let (value, _, rest) := readSigned 0 arg.toList
      (max least (min greatest value),
        checked filling arg rest (value < least || greatest < value))

/-- How many numbers of 64 bits there are. -/
def wordCount : Nat := Nat.pow 2 64

/-- Takes an argument as a whole number that counts from zero and starts again behind the
    greatest one. -/
def takeNatural (filling : Filling) : Nat × Filling :=
  match filling.take with
  | (none, filling) => (0, filling)
  | (some arg, filling) =>
    match quotedChar? arg with
    | some c => (c.toNat, filling)
    | none =>
      let (value, _, rest) := readSigned 0 arg.toList
      let outside := wordCount ≤ value.natAbs
      (if outside then wordCount - 1 else (value % wordCount).toNat,
        checked filling arg rest outside)

/-- Takes an argument as a fraction. -/
def takeFraction (filling : Filling) : Decimal × Filling :=
  match filling.take with
  | (none, filling) => ({}, filling)
  | (some arg, filling) =>
    match quotedChar? arg with
    | some c => ({ numerator := c.toNat }, filling)
    | none =>
      let (value, rest) := Decimal.read arg.toList
      (value, checked filling arg rest false)

/-- Takes an argument as a text. -/
def takeText (filling : Filling) : String × Filling :=
  (filling.take.1.getD "", filling.take.2)

/-- A text, as far as the precision lets it be printed. -/
def shorten (directive : Directive) (text : List Char) : List Char :=
  pad directive ((directive.precision.map text.take).getD text)

/-- A fraction. -/
def fraction (directive : Directive) (letter : Char) (value : Decimal) : List Char :=
  let digits :=
    value.print letter.toLower (directive.precision.getD 6) (directive.flags.contains '#')
  let upper := if letter.isUpper then List.map Char.toUpper else id
  padNumber directive true (signOf directive value.negative) (upper digits)

/-- Fills a directive that ends with a letter; gives none if there is no such directive. -/
def fillDirective? (directive : Directive) (letter : Char) (filling : Filling) :
    Option (Filling × Bool) :=
  match letter with
  | 'b' =>
    let (arg, filling) := takeText filling
    let (text, stopped) := unescape arg.length arg.toList
    some (filling.print (shorten directive text), stopped)
  | 'c' =>
    let (arg, filling) := takeText filling
    some (filling.print (pad directive [arg.toList.headD (Char.ofNat 0)]), false)
  | 's' =>
    let (arg, filling) := takeText filling
    some (filling.print (shorten directive arg.toList), false)
  | _ =>
    if letter = 'd' || letter = 'i' then
      let (value, filling) := takeInteger filling
      some (filling.print (signed directive value), false)
    else if "ouxX".toList.contains letter then
      let (value, filling) := takeNatural filling
      some (filling.print (unsigned directive letter value), false)
    else if "eEfFgG".toList.contains letter then
      let (value, filling) := takeFraction filling
      some (filling.print (fraction directive letter value), false)
    else none

/-- Reads a number of a directive, which may be an argument. -/
def readAmount (filling : Filling) (text : List Char) : Option Int × Filling × List Char :=
  match text with
  | '*' :: rest =>
    let (value, filling) := takeInteger filling
    (some value, filling, rest)
  | _ =>
    let digits := text.takeWhile Char.isDigit
    (if digits = [] then none else some ((String.ofList digits).toNat?.getD 0), filling,
      text.dropWhile Char.isDigit)

/-- Reads a directive up to the letter that ends it. -/
def readDirective (filling : Filling) (text : List Char) : Directive × Filling × List Char :=
  let isFlag (c : Char) : Bool := "#-+ 0".toList.contains c
  let flags := text.takeWhile isFlag
  let (width, filling, rest) := readAmount filling (text.dropWhile isFlag)
  let flags := if width.any (· < 0) then '-' :: flags else flags
  let width := (width.getD 0).natAbs
  match rest with
  | '.' :: rest =>
    let (precision, filling, rest) := readAmount filling rest
    let precision := precision.getD 0
    ({ flags, width, precision := if precision < 0 then none else some precision.toNat },
      filling, rest)
  | _ => ({ flags, width }, filling, rest)

/-- Fills arguments into a format once. The fuel is more than the length of the format. -/
def fillOnce : Nat → List Char → Filling → Filling × Verdict
  | 0, _, filling => (filling, .finished)
  | _ + 1, [], filling => (filling, .finished)
  | fuel + 1, c :: rest, filling =>
    if c = escapeSign then
      let (letter, later) := readEscape rest
      fillOnce fuel later (filling.print [letter])
    else if c ≠ '%' then fillOnce fuel rest (filling.print [c])
    else match rest with
      | '%' :: later => fillOnce fuel later (filling.print ['%'])
      | _ =>
        let (directive, filling, later) := readDirective filling rest
        match later with
        | [] => (filling, .refused "missing format character")
        | letter :: later =>
          match fillDirective? directive letter filling with
          | some (filling, true) => (filling, .stopped)
          | some (filling, false) => fillOnce fuel later filling
          | none =>
            let text := '%' :: rest.take (rest.length - later.length)
            (filling, .refused s!"{String.ofList text}: invalid directive")

/-- Fills arguments into a format, again and again as long as some are left and any have
    been used. -/
def fill : Nat → String → Filling → Filling × Verdict
  | 0, _, filling => (filling, .finished)
  | fuel + 1, format, filling =>
    match fillOnce (format.length + 1) format.toList filling with
    | (later, .finished) =>
      if later.args = [] || later.args.length = filling.args.length then (later, .finished)
      else fill fuel format later
    | (later, verdict) => (later, verdict)

end Format
end LineShell.Machine.Script
