/-
  LineShell.Machine.Script.Fields

  Cutting a word into fields. A word whose parameters have been replaced is a list of
  stretches: some of them are cut at the separators that the script has chosen, some only
  between the arguments that they hold, and some not at all.
-/
import LineShell.Machine.Script.Pattern

namespace LineShell.Machine.Script

/-- A part of a word whose parameters have been replaced. -/
inductive Atom where
  | char (c : Char) (quoted : Bool)
  /-- A quotation mark. It holds nothing, but makes a field out of nothing. -/
  | mark
  deriving DecidableEq, Repr

/-- Where a stretch of a word is cut. -/
inductive Cutting where
  | never
  | atSeparators
  | betweenArguments
  deriving DecidableEq, Repr

/-- A stretch of a word. -/
structure Stretch where
  cutting : Cutting
  atoms : List Atom
  deriving DecidableEq, Repr

/-! ## From atoms to texts -/

/-- The characters of atoms. -/
def Atom.text (atoms : List Atom) : String :=
  String.ofList (atoms.filterMap fun
    | .char c _ => some c
    | .mark => none)

/-- Atoms as a pattern. -/
def Atom.pattern (atoms : List Atom) : List PatternChar :=
  atoms.filterMap fun
    | .char c quoted => some (c, quoted)
    | .mark => none

/-- The atoms of a text. -/
def Atom.ofText (text : String) (quoted : Bool) : List Atom :=
  text.toList.map (.char · quoted)

/-- The atoms of all stretches. -/
def Stretch.all (stretches : List Stretch) : List Atom :=
  stretches.flatMap (·.atoms)

namespace Fields

/-- The character that stands between arguments. No argument holds it. -/
def argumentEnd : Char := Char.ofNat 0

/-- Whether a character is a blank, of which any number counts as one separator. -/
def isBlank (c : Char) : Bool := c = ' ' || c = '\t' || c = '\n' || c = argumentEnd

/-- The state of cutting. All lists are held last element first. -/
structure State where
  done : List (List Atom) := []
  /-- The field that has been begun. -/
  current : List Atom := []
  /-- Whether the last character was a blank behind the end of a field. -/
  afterBlank : Bool := false
  /-- Whether the last stretch was cut between arguments only, and the one before it. -/
  strict : Bool := false
  wasStrict : Bool := false
  /-- How many fields may still be ended, if their number is limited. -/
  more : Option Nat := none
  /-- The last field as far as no separators follow that may have to be left out. -/
  kept : Option (List Atom) := none

namespace State

/-- Takes a character into the last field when no more fields may be ended. Separators at
    its end are left out later: one that is no blank, with blanks around it. -/
def takeLast (s : State) (atom : Atom) (separates blank : Bool) : State :=
  let kept :=
    if blank then s.kept <|> some s.current
    else if separates && s.afterBlank then s.kept
    else none
  { s with kept, current := atom :: s.current, afterBlank := s.afterBlank && blank }

/-- Ends the field that has been begun. The separator that ends it is a character of the
    last field if there may be no more fields. -/
def endField (s : State) (separator : Atom) : State :=
  match s.more with
  | some 1 => { s with more := some 0, kept := some s.current, current := separator :: s.current }
  | _ =>
    { s with
      more := s.more.map (· - 1)
      done := s.current :: s.done
      current := [] }

/-- Takes a character of a stretch that is cut. -/
def takeChar (separators : List Char) (s : State) (c : Char) (quoted : Bool) : State :=
  let atom := Atom.char c quoted
  let separates := !quoted && (c = argumentEnd || (!s.strict && separators.contains c))
  let blank := separates && isBlank c
  if s.more = some 0 then s.takeLast atom separates blank
  else if s.afterBlank then
    if blank then { s with current := [] }
    else if separates then { s with current := [], afterBlank := false }
    else { s with current := [atom], afterBlank := false }
  else if separates then
    let s := if s.strict || s.wasStrict then s else { s with afterBlank := blank }
    if s.current = [] && s.afterBlank then { s with afterBlank := false }
    else s.endField atom
  else { s with current := atom :: s.current }

/-- Takes an atom of a stretch that is cut. -/
def takeAtom (separators : List Char) (s : State) : Atom → State
  | .char c quoted => s.takeChar separators c quoted
  | .mark => { s with current := .mark :: s.current }

/-- Takes a stretch. -/
def takeStretch (separators : List Char) (s : State) (stretch : Stretch) : State :=
  match stretch.cutting with
  | .never => { s with current := stretch.atoms.reverse ++ s.current }
  | cutting =>
    stretch.atoms.foldl (takeAtom separators)
      { s with afterBlank := false, wasStrict := s.strict, strict := cutting = .betweenArguments }

/-- The fields when everything has been taken. -/
def finish (s : State) : List (List Atom) :=
  let current := s.kept.getD s.current
  (if s.strict || current ≠ [] then current :: s.done else s.done).reverse.map List.reverse

end State

/-- The fields of a word. If their number is limited, the last one takes what is left. -/
def cut (separators : List Char) (limit : Option Nat) (word : List Stretch) :
    List (List Atom) :=
  (word.foldl (State.takeStretch separators) { more := limit }).finish

end Fields
end LineShell.Machine.Script
