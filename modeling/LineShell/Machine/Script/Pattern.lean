/-
  LineShell.Machine.Script.Pattern

  Patterns: texts in which some characters stand for others. A star stands for any text, a
  question mark for any character, and a list in brackets for one of its characters. A
  character that is quoted stands for itself.
-/
import LineShell.Machine.Script

namespace LineShell.Machine.Script

/-- A character of a pattern, and whether it is quoted. -/
abbrev PatternChar := Char × Bool

namespace Pattern

/-- What a list in brackets holds. -/
inductive Member where
  | range (first last : Char)
  /-- The characters of a class with a name. -/
  | ofClass (name : String)
  deriving DecidableEq, Repr

/-- A part of a pattern. -/
inductive Item where
  | one (c : Char)
  | any
  | star
  | oneOf (negated : Bool) (members : List Member)
  deriving DecidableEq, Repr

/-! ## Classes of characters -/

/-- Whether a character can be seen on paper. -/
def isGraphic (c : Char) : Bool := 0x21 ≤ c.toNat && c.toNat ≤ 0x7E

/-- The classes of characters with a name. -/
def classes : List (String × (Char → Bool)) :=
  [("alnum", Char.isAlphanum), ("alpha", Char.isAlpha),
   ("blank", fun c => c = ' ' || c = '\t'),
   ("cntrl", fun c => c.toNat < 0x20 || c.toNat = 0x7F), ("digit", Char.isDigit),
   ("graph", isGraphic), ("lower", Char.isLower),
   ("print", fun c => c = ' ' || isGraphic c),
   ("punct", fun c => isGraphic c && !c.isAlphanum),
   ("space", fun c => c = ' ' || (9 ≤ c.toNat && c.toNat ≤ 13)), ("upper", Char.isUpper),
   ("xdigit", fun c => c.isDigit || "abcdefABCDEF".toList.contains c)]

/-- Whether a list in brackets holds a character. -/
def Member.holds (c : Char) : Member → Bool
  | range first last => first ≤ c && c ≤ last
  | ofClass name => ((classes.lookup name).map (· c)).getD false

/-! ## Reading patterns -/

/-- An unquoted backslash quotes the character behind it. -/
def withoutBackslashes : List PatternChar → List PatternChar
  | [] => []
  | [last] => [last]
  | (c, quoted) :: next :: rest =>
    if c = Char.ofNat 0x5C ∧ !quoted then (next.1, true) :: withoutBackslashes rest
    else (c, quoted) :: withoutBackslashes (next :: rest)

/-- The class whose name stands between `[:` and `:]`, and what follows it. The opening
    bracket has been read. -/
def readClass? (text : List PatternChar) : Option (String × List PatternChar) :=
  match text with
  | (':', false) :: rest =>
    let name := (rest.takeWhile fun p => p.1.isAlpha).map (·.1)
    match rest.drop name.length with
    | (':', false) :: (']', false) :: later =>
      let name := String.ofList name
      if (classes.lookup name).isSome then some (name, later) else none
    | _ => none
  | _ => none

/-- The members of a list in brackets up to the bracket that closes it, and what follows
    it; the first member may be a closing bracket. The fuel is more than the length. -/
def readMembers? : Nat → Bool → List PatternChar → Option (List Member × List PatternChar)
  | 0, _, _ => none
  | _ + 1, _, [] => none
  | fuel + 1, isFirst, (c, quoted) :: rest =>
    if c = ']' ∧ !quoted ∧ !isFirst then some ([], rest)
    else
      match if c = '[' ∧ !quoted then readClass? rest else none with
      | some (name, later) =>
        (readMembers? fuel false later).map fun (members, rest) =>
          (.ofClass name :: members, rest)
      | none =>
        match rest with
        | ('-', false) :: last :: later =>
          if last = (']', false) then
            (readMembers? fuel false rest).map fun (members, rest) => (.range c c :: members, rest)
          else
            (readMembers? fuel false later).map fun (members, rest) =>
              (.range c last.1 :: members, rest)
        | _ =>
          (readMembers? fuel false rest).map fun (members, rest) => (.range c c :: members, rest)

/-- The items of a pattern. The fuel is more than the length. -/
def readItems : Nat → List PatternChar → List Item
  | 0, _ => []
  | _ + 1, [] => []
  | fuel + 1, (c, quoted) :: rest =>
    if quoted then .one c :: readItems fuel rest
    else match c with
      | '*' => .star :: readItems fuel rest
      | '?' => .any :: readItems fuel rest
      | '[' =>
        let (negated, inside) :=
          match rest with
          | ('!', false) :: inside => (true, inside)
          | inside => (false, inside)
        match readMembers? (fuel + 1) true inside with
        | some (members, later) => .oneOf negated members :: readItems fuel later
        | none => .one c :: readItems fuel rest
      | _ => .one c :: readItems fuel rest

/-- The items of a pattern. -/
def items (text : List PatternChar) : List Item :=
  readItems (text.length + 1) (withoutBackslashes text)

/-! ## Matching -/

/-- Whether items match a whole text. -/
def matchItems : List Item → List Char → Bool
  | [], text => text.isEmpty
  | .star :: items, text =>
    matchItems items text ||
      match text with
      | [] => false
      | _ :: rest => matchItems (.star :: items) rest
  | _ :: _, [] => false
  | .one d :: items, c :: rest => c = d && matchItems items rest
  | .any :: items, _ :: rest => matchItems items rest
  | .oneOf negated members :: items, c :: rest =>
    members.any (·.holds c) != negated && matchItems items rest
termination_by items text => items.length + text.length

/-- Whether a pattern matches a whole text. -/
def matchesText (text : List PatternChar) (subject : String) : Bool :=
  matchItems (items text) subject.toList

/-- Whether a text has a meaning as a pattern beyond itself. -/
def isSpecial (text : List PatternChar) : Bool :=
  (items text).any fun
    | .one _ => false
    | _ => true

/-! ## Cutting off -/

/-- The part of a text in front of the first NUL, which stands between arguments. -/
def firstPart (text : List Char) : List Char := text.takeWhile (· ≠ Char.ofNat 0)

/-- The lengths at which a text may be cut, in the order in which they are tried. From the
    start they are tried no further than the first NUL. -/
def cuts (trim : Trim) (text : List Char) : List Nat :=
  if trim.atEnd = trim.longest then List.range ((firstPart text).length + 1)
  else (List.range (text.length + 1)).reverse

/-- A text without the part at one of its ends that a pattern matches, where a part is no
    more than what stands in front of a NUL. -/
def cutOff (trim : Trim) (text : List PatternChar) (subject : String) : String :=
  let items := items text
  let chars := subject.toList
  let fits (n : Nat) : Bool :=
    matchItems items (firstPart (if trim.atEnd then chars.drop n else chars.take n))
  match (cuts trim chars).find? fits with
  | none => subject
  | some n => String.ofList (if trim.atEnd then chars.take n else chars.drop n)

end Pattern
end LineShell.Machine.Script
