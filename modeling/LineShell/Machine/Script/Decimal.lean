/-
  LineShell.Machine.Script.Decimal

  Fractions that are read and printed in decimal notation. Between reading and printing a
  fraction is rounded to a number with 53 binary digits; an exact tie goes to the even
  neighbour, here as well as when it is printed.
-/

namespace LineShell.Machine.Script

/-- A fraction with a sign. -/
structure Decimal where
  negative : Bool := false
  numerator : Nat := 0
  denominator : Nat := 1
  deriving DecidableEq, Repr

namespace Decimal

/-- The whole number that is nearest to a fraction, an even one if two are. -/
def nearest (numerator denominator : Nat) : Nat :=
  let quotient := numerator / denominator
  let twice := 2 * (numerator % denominator)
  if denominator < twice || (twice = denominator && quotient % 2 = 1) then quotient + 1
  else quotient

/-- The number of binary digits that a fraction keeps. -/
def binaryDigits : Nat := 53

/-- The nearest fraction that has few enough binary digits. -/
def round (d : Decimal) : Decimal :=
  if d.numerator = 0 ∨ d.denominator = 0 then { d with numerator := 0, denominator := 1 }
  else
    let size : Int := d.numerator.log2 - d.denominator.log2
    let shift : Int := binaryDigits - size
    let up := Nat.pow 2 shift.toNat
    let down := Nat.pow 2 (-shift).toNat
    let digits := nearest (d.numerator * up) (d.denominator * down)
    if digits < Nat.pow 2 binaryDigits then
      { d with numerator := digits * down, denominator := up }
    else
      let digits := nearest (d.numerator * up) (d.denominator * down * 2)
      { d with numerator := digits * down * 2, denominator := up }

/-! ## Reading -/

/-- The number that decimal digits stand for. -/
def ofDigits (digits : List Char) : Nat :=
  digits.foldl (fun value c => value * 10 + (c.toNat - '0'.toNat)) 0

/-- The greatest exponent that is read as it is. -/
def exponentLimit : Nat := 400

/-- Reads an exponent behind a number, if there is one. -/
def readExponent (text : List Char) : Int × List Char :=
  match text with
  | e :: rest =>
    let (negative, digits) :=
      match rest with
      | '-' :: digits => (true, digits)
      | '+' :: digits => (false, digits)
      | digits => (false, digits)
    let exponent := digits.takeWhile Char.isDigit
    if (e = 'e' ∨ e = 'E') ∧ exponent ≠ [] then
      let value : Int := min (ofDigits exponent) exponentLimit
      (if negative then -value else value, digits.dropWhile Char.isDigit)
    else (0, text)
  | [] => (0, [])

/-- Reads a fraction behind blanks; gives it and what follows it. -/
def read (text : List Char) : Decimal × List Char :=
  let isBlank (c : Char) : Bool := c = ' ' || (9 ≤ c.toNat && c.toNat ≤ 13)
  let (negative, start) :=
    match text.dropWhile isBlank with
    | '-' :: start => (true, start)
    | '+' :: start => (false, start)
    | start => (false, start)
  let whole := start.takeWhile Char.isDigit
  let (part, later) :=
    match start.dropWhile Char.isDigit with
    | '.' :: rest => (rest.takeWhile Char.isDigit, rest.dropWhile Char.isDigit)
    | rest => ([], rest)
  if whole = [] ∧ part = [] then ({}, text)
  else
    let (exponent, rest) := readExponent later
    let digits := ofDigits (whole ++ part)
    ({ negative
       numerator := digits * Nat.pow 10 exponent.toNat
       denominator := Nat.pow 10 part.length * Nat.pow 10 (-exponent).toNat : Decimal }.round, rest)

/-! ## Printing -/

/-- A whole number of units of the last place, with a point in front of that many
    places. -/
def pointed (units places : Nat) (keepsPoint : Bool) : List Char :=
  let digits := Nat.toDigits 10 units
  let digits := List.replicate (places + 1 - digits.length) '0' ++ digits
  let whole := digits.take (digits.length - places)
  let part := digits.drop (digits.length - places)
  whole ++ if places = 0 && !keepsPoint then [] else '.' :: part

/-- The notation without an exponent. -/
def positional (d : Decimal) (places : Nat) (keepsPoint : Bool) : List Char :=
  pointed (nearest (d.numerator * Nat.pow 10 places) d.denominator) places keepsPoint

/-- The exponent of the first digit, which is looked for from an estimate downwards. -/
def exponentFrom (d : Decimal) : Nat → Int → Int
  | 0, exponent => exponent
  | fuel + 1, exponent =>
    if d.denominator * Nat.pow 10 exponent.toNat ≤ d.numerator * Nat.pow 10 (-exponent).toNat then
      exponent
    else exponentFrom d fuel (exponent - 1)

/-- One digit in front of the point, as many as wanted behind it, and the exponent that
    belongs to them; all digits are given as one whole number. -/
def scientific (d : Decimal) (places : Nat) : Nat × Int :=
  if d.numerator = 0 then (0, 0)
  else
    let estimate : Int := ((d.numerator.log2 : Int) - d.denominator.log2 + 1) / 3 + 1
    let exponent := exponentFrom d 2000 (max estimate 0)
    let digitsAt (exponent : Int) : Nat :=
      nearest (d.numerator * Nat.pow 10 (-exponent).toNat * Nat.pow 10 places)
        (d.denominator * Nat.pow 10 exponent.toNat)
    let digits := digitsAt exponent
    if digits < Nat.pow 10 (places + 1) then (digits, exponent)
    else (digitsAt (exponent + 1), exponent + 1)

/-- An exponent with its sign and at least two digits. -/
def exponentText (exponent : Int) : List Char :=
  let digits := Nat.toDigits 10 exponent.natAbs
  'e' :: (if exponent < 0 then '-' else '+') ::
    (List.replicate (2 - digits.length) '0' ++ digits)

/-- Digits behind a point without zeros at their end, and without the point if it ends
    them. -/
def withoutZeros (text : List Char) : List Char :=
  if text.contains '.' then
    let kept := (text.reverse.dropWhile (· = '0')).reverse
    if kept.getLast? = some '.' then kept.dropLast else kept
  else text

/-- A fraction without its sign, in one of three notations: `f` for none with an exponent,
    `e` for one with an exponent, and any other letter for whichever is shorter. -/
def print (d : Decimal) (letter : Char) (precision : Nat) (keepsPoint : Bool) : List Char :=
  if letter = 'f' then d.positional precision keepsPoint
  else if letter = 'e' then
    let (digits, exponent) := d.scientific precision
    pointed digits precision keepsPoint ++ exponentText exponent
  else
    let places := max precision 1 - 1
    let (digits, exponent) := d.scientific places
    let strip := if keepsPoint then id else withoutZeros
    if exponent < -4 ∨ (places : Int) < exponent then
      strip (pointed digits places keepsPoint) ++ exponentText exponent
    else strip (d.positional ((places : Int) - exponent).toNat keepsPoint)

end Decimal
end LineShell.Machine.Script
