/-
  LineShell.Machine.Script.Arguments

  The arguments of the commands that a script carries out itself: options of one letter in
  front, and numbers.
-/
import LineShell.Machine.Script.Engine
import LineShell.Machine.Script.Arithmetic

namespace LineShell.Machine.Script

namespace Arguments

/-- Options with their values, and the arguments behind them. -/
abbrev Read := List (Char × Option String) × List String

/-- Whether a letter is an option, and if so, whether it takes a value. A colon behind a
    letter says that it does. -/
def takesValue? (known : List Char) (letter : Char) : Option Bool :=
  match known with
  | [] => none
  | ':' :: rest => takesValue? rest letter
  | c :: rest => if c = letter then some (rest.head? = some ':') else takesValue? rest letter

/-- Reads the letters of one argument. Gives the options and whether the next argument was
    taken as a value, or a complaint. -/
def readLetters (known : List Char) (next : Option String) :
    List Char → Except String (List (Char × Option String) × Bool)
  | [] => .ok ([], false)
  | c :: rest =>
    match takesValue? known c with
    | none => .error s!"Illegal option -{c}"
    | some false =>
      (readLetters known next rest).map fun (found, taken) => ((c, none) :: found, taken)
    | some true =>
      if rest ≠ [] then .ok ([(c, some (String.ofList rest))], false)
      else match next with
        | some value => .ok ([(c, some value)], true)
        | none => .error s!"No arg for -{c} option"

/-- Reads the options in front of arguments. -/
def read (known : List Char) : List String → Except String Read
  | [] => .ok ([], [])
  | arg :: rest =>
    match arg.toList with
    | ['-', '-'] => .ok ([], rest)
    | '-' :: c :: letters =>
      match readLetters known rest.head? (c :: letters) with
      | .error complaint => .error complaint
      | .ok (found, taken) =>
        let later :=
          match taken, rest with
          | true, _ :: rest => read known rest
          | _, rest => read known rest
        later.map fun (more, operands) => (found ++ more, operands)
    | _ => .ok ([], arg :: rest)

/-- Reads the options in front of arguments, or complains. -/
def options (known : String) (args : List String) : Act Read :=
  match read known.toList args with
  | .ok read => pure read
  | .error complaint => Act.fail complaint

/-- Whether options hold a letter. -/
def has (found : List (Char × Option String)) (letter : Char) : Bool :=
  found.any (·.1 = letter)

/-- Refuses what is no number. -/
def refuseNumber {α : Type} (text : String) : Act α := Act.fail s!"Illegal number: {text}"

/-- The greatest number that an argument can be. -/
def greatest : Int := Nat.pow 2 31 - 1

/-- The number that an argument is. -/
def number (text : String) : Act Nat :=
  match wholeNumber? 10 text with
  | some value =>
    if value < 0 || greatest < value then refuseNumber text else pure value.toNat
  | none => refuseNumber text

end Arguments
end LineShell.Machine.Script
