/-
  LineShell.Machine.Script.Arithmetic

  Arithmetic in scripts: expressions over whole numbers of 64 bits and over variables. An
  expression is read as a whole, and then its value is computed from left to right.
-/
import LineShell.Machine.Script.State

namespace LineShell.Machine.Script

/-! ## Numbers in texts -/

/-- Whether a character is passed over around numbers. -/
def isSpace (c : Char) : Bool := c = ' ' || (9 ≤ c.toNat && c.toNat ≤ 13)

/-- The value of a digit in a base of at most sixteen. -/
def digitValue? (base : Nat) (c : Char) : Option Nat :=
  let value? : Option Nat :=
    if c.isDigit then some (c.toNat - '0'.toNat)
    else if 'a' ≤ c ∧ c ≤ 'f' then some (c.toNat - 'a'.toNat + 10)
    else if 'A' ≤ c ∧ c ≤ 'F' then some (c.toNat - 'A'.toNat + 10)
    else none
  value?.bind fun value => if value < base then some value else none

/-- Reads digits; gives the number, whether there was a digit, and what follows. -/
def readDigits (base value : Nat) (any : Bool) : List Char → Nat × Bool × List Char
  | [] => (value, any, [])
  | c :: rest =>
    match digitValue? base c with
    | some digit => readDigits base (value * base + digit) true rest
    | none => (value, any, c :: rest)

/-- Reads a number whose base can be told from its first characters. -/
def readNumber (text : List Char) : Nat × Bool × List Char :=
  match text with
  | '0' :: x :: rest =>
    let (value, any, later) := readDigits 16 0 false rest
    if (x = 'x' ∨ x = 'X') ∧ any then (value, true, later)
    else readDigits 8 0 true (x :: rest)
  | _ => readDigits 10 0 false text

/-- The greatest number. -/
def greatest : Int := Nat.pow 2 63 - 1

/-- The least number. -/
def least : Int := -Nat.pow 2 63

/-- Reads a number behind blanks and a sign: the number, whether there was one, and what
    follows. In base 0 the base is told from the first characters. -/
def readSigned (base : Nat) (text : List Char) : Int × Bool × List Char :=
  let (negative, digits) :=
    match text.dropWhile isSpace with
    | '-' :: digits => (true, digits)
    | '+' :: digits => (false, digits)
    | digits => (false, digits)
  let (value, any, rest) := if base = 0 then readNumber digits else readDigits base 0 false digits
  (if negative then -(value : Int) else value, any, if any then rest else text)

/-- The number that a whole text stands for. A blank text stands for zero where the base
    may be told from the text. -/
def wholeNumber? (base : Nat) (text : String) : Option Int :=
  let (value, any, rest) := readSigned base text.toList
  if (base ≠ 0 && !any) || !rest.all isSpace || value < least || greatest < value then none
  else some value

/-! ## Expressions -/

namespace Arithmetic

/-- The operators between two values. -/
inductive Binary where
  | bitOr
  | bitXor
  | bitAnd
  | equal
  | unequal
  | atMost
  | atLeast
  | below
  | above
  | shiftLeft
  | shiftRight
  | add
  | subtract
  | multiply
  | divide
  | remainder
  deriving DecidableEq, Repr

/-- The operators in front of a value. -/
inductive Unary where
  | plus
  | minus
  | not
  | complement
  deriving DecidableEq, Repr

/-- An arithmetic expression. -/
inductive Expression where
  | number (value : Int64)
  | named (name : String)
  | unary (operator : Unary) (operand : Expression)
  | binary (operator : Binary) (left right : Expression)
  | both (left right : Expression)
  | either (left right : Expression)
  | choice (condition first second : Expression)
  /-- Sets a variable, perhaps to its old value combined with another one. -/
  | assign (name : String) (operator : Option Binary) (value : Expression)
  deriving DecidableEq, Repr

/-- What an expression is made of. -/
inductive Token where
  | number (value : Int64)
  | named (name : String)
  | sign (text : String)
  | unknown
  deriving DecidableEq, Repr

/-- The signs, the longer ones first. -/
def signs : List String :=
  ["<<=", ">>=", "||", "&&", "==", "!=", "<=", ">=", "<<", ">>", "*=", "/=", "%=", "+=",
   "-=", "&=", "^=", "|=", "=", "?", ":", "(", ")", "|", "&", "^", "<", ">", "+", "-",
   "*", "/", "%", "!", "~"]

/-- Cuts an expression into tokens. The fuel is more than its length. -/
def tokens : Nat → List Char → List Token
  | 0, _ => []
  | _ + 1, [] => []
  | fuel + 1, c :: rest =>
    if isSpace c then tokens fuel rest
    else if c.isDigit then
      let (value, _, later) := readNumber (c :: rest)
      .number (Int64.ofInt (min value greatest)) :: tokens fuel later
    else if isNameStart c then
      .named (String.ofList (c :: rest.takeWhile isNameChar)) ::
        tokens fuel (rest.dropWhile isNameChar)
    else match signs.find? fun sign => sign.toList.isPrefixOf (c :: rest) with
      | some sign => .sign sign :: tokens fuel ((c :: rest).drop sign.length)
      | none => [.unknown]

/-- The operators between two values by how tightly they bind, the loosest first. -/
def levels : List (List (String × Binary)) :=
  [[("|", .bitOr)], [("^", .bitXor)], [("&", .bitAnd)], [("==", .equal), ("!=", .unequal)],
   [("<=", .atMost), (">=", .atLeast), ("<", .below), (">", .above)],
   [("<<", .shiftLeft), (">>", .shiftRight)], [("+", .add), ("-", .subtract)],
   [("*", .multiply), ("/", .divide), ("%", .remainder)]]

/-- The operators that are combined with setting a variable. -/
def combined : List (String × Binary) :=
  [("*=", .multiply), ("/=", .divide), ("%=", .remainder), ("+=", .add), ("-=", .subtract),
   ("<<=", .shiftLeft), (">>=", .shiftRight), ("&=", .bitAnd), ("^=", .bitXor),
   ("|=", .bitOr)]

/-- The operators in front of a value. -/
def unaries : List (String × Unary) :=
  [("+", .plus), ("-", .minus), ("!", .not), ("~", .complement)]

/-- The operator that a variable in front of it is set by, if tokens start with one. -/
def assignment? : List Token → Option (Option Binary × List Token)
  | .sign sign :: rest =>
    if sign = "=" then some (none, rest)
    else (combined.lookup sign).map fun operator => (some operator, rest)
  | _ => none

/-- The operator of a level that tokens start with. -/
def operator? (level : List (String × Binary)) : List Token → Option (Binary × List Token)
  | .sign sign :: rest => (level.lookup sign).map (·, rest)
  | _ => none

/-- What is wanted where no value stands. -/
def noValue {α : Type} : Except String α := .error "expecting primary"

mutual

/-- Reads an expression that may set a variable. -/
def readAssignment : Nat → List Token → Except String (Expression × List Token)
  | 0, _ => noValue
  | fuel + 1, tokens =>
    let assigned? :=
      match tokens with
      | .named name :: rest => (assignment? rest).map (name, ·)
      | _ => none
    match assigned? with
    | some (name, operator, rest) => do
      let (value, rest) ← readAssignment fuel rest
      pure (.assign name operator value, rest)
    | none => readChoice fuel tokens

/-- Reads an expression that may choose between two. -/
def readChoice : Nat → List Token → Except String (Expression × List Token)
  | 0, _ => noValue
  | fuel + 1, tokens => do
    let (condition, rest) ← readEither fuel tokens
    match rest with
    | .sign "?" :: rest => do
      let (first, rest) ← readAssignment fuel rest
      match rest with
      | .sign ":" :: rest => do
        let (second, rest) ← readChoice fuel rest
        pure (.choice condition first second, rest)
      | _ => .error "expecting \x27:\x27"
    | _ => pure (condition, rest)

/-- Reads expressions of which one has to hold. -/
def readEither : Nat → List Token → Except String (Expression × List Token)
  | 0, _ => noValue
  | fuel + 1, tokens => do
    let (left, rest) ← readBoth fuel tokens
    match rest with
    | .sign "||" :: rest => do
      let (right, rest) ← readEither fuel rest
      pure (.either left right, rest)
    | _ => pure (left, rest)

/-- Reads expressions that all have to hold. -/
def readBoth : Nat → List Token → Except String (Expression × List Token)
  | 0, _ => noValue
  | fuel + 1, tokens => do
    let (left, rest) ← readLevel fuel levels tokens
    match rest with
    | .sign "&&" :: rest => do
      let (right, rest) ← readBoth fuel rest
      pure (.both left right, rest)
    | _ => pure (left, rest)

/-- Reads an expression of operators that bind at least as tightly as a level. -/
def readLevel : Nat → List (List (String × Binary)) → List Token →
    Except String (Expression × List Token)
  | 0, _, _ => noValue
  | fuel + 1, levels, tokens =>
    match levels with
    | [] => readValue fuel tokens
    | level :: tighter => do
      let (left, rest) ← readLevel fuel tighter tokens
      readOperators fuel level tighter left rest

/-- Reads the operators of a level behind a value, and the values behind them. -/
def readOperators : Nat → List (String × Binary) → List (List (String × Binary)) →
    Expression → List Token → Except String (Expression × List Token)
  | 0, _, _, _, _ => noValue
  | fuel + 1, level, tighter, left, tokens =>
    match operator? level tokens with
    | none => .ok (left, tokens)
    | some (operator, rest) => do
      let (right, rest) ← readLevel fuel tighter rest
      readOperators fuel level tighter (.binary operator left right) rest

/-- Reads a value and the operators in front of it. -/
def readValue : Nat → List Token → Except String (Expression × List Token)
  | 0, _ => noValue
  | fuel + 1, tokens =>
    match tokens with
    | .number value :: rest => .ok (.number value, rest)
    | .named name :: rest => .ok (.named name, rest)
    | .sign "(" :: rest => do
      let (inside, rest) ← readAssignment fuel rest
      match rest with
      | .sign ")" :: rest => .ok (inside, rest)
      | _ => .error "expecting \x27)\x27"
    | .sign sign :: rest =>
      match unaries.lookup sign with
      | some operator => do
        let (operand, rest) ← readValue fuel rest
        pure (.unary operator operand, rest)
      | none => noValue
    | _ => noValue

end

/-- Reads a whole expression. -/
def read (text : String) : Except String Expression := do
  let tokens := tokens (text.length + 1) text.toList
  let (expression, rest) ← readAssignment (20 * (tokens.length + 1)) tokens
  if rest = [] then pure expression else .error "expecting EOF"

/-! ## Values -/

/-- The number that a condition is. -/
def ofBool (condition : Bool) : Int64 := if condition then 1 else 0

/-- Applies an operator to two values, if that is possible. -/
def Binary.apply? (operator : Binary) (a b : Int64) : Option Int64 :=
  match operator with
  | bitOr => some (a ||| b)
  | bitXor => some (a ^^^ b)
  | bitAnd => some (a &&& b)
  | equal => some (ofBool (a == b))
  | unequal => some (ofBool (a != b))
  | atMost => some (ofBool (a ≤ b))
  | atLeast => some (ofBool (b ≤ a))
  | below => some (ofBool (a < b))
  | above => some (ofBool (b < a))
  | shiftLeft => some (a <<< b)
  | shiftRight => some (a >>> b)
  | add => some (a + b)
  | subtract => some (a - b)
  | multiply => some (a * b)
  | divide => if b = 0 then none else some (a / b)
  | remainder => if b = 0 then none else some (a % b)

/-- Applies an operator to a value. -/
def Unary.apply (operator : Unary) (a : Int64) : Int64 :=
  match operator with
  | plus => a
  | minus => -a
  | not => ofBool (a == 0)
  | complement => ~~~a

/-- Refuses an expression. -/
def refuse {α : Type} (text reason : String) : Act α :=
  Act.fail s!"arithmetic expression: {reason}: \"{text}\""

/-- The value of a variable as a number. -/
def valueOf (name : String) : Act Int64 := do
  let value := ((← get).value? name).getD ""
  match wholeNumber? 0 value with
  | some number => pure (Int64.ofInt number)
  | none => Act.fail s!"Illegal number: {value}"

/-- Applies an operator to two values. -/
def combine (text : String) (operator : Binary) (a b : Int64) : Act Int64 :=
  match operator.apply? a b with
  | some value => pure value
  | none => refuse text "division by zero"

/-- Computes the value of an expression that is part of a text. -/
def evaluate (text : String) : Expression → Act Int64
  | .number value => pure value
  | .named name => valueOf name
  | .unary operator operand => do
    let value ← evaluate text operand
    pure (operator.apply value)
  | .binary operator left right => do
    let a ← evaluate text left
    let b ← evaluate text right
    combine text operator a b
  | .both left right => do
    if (← evaluate text left) = 0 then pure 0
    else
      let b ← evaluate text right
      pure (ofBool (b != 0))
  | .either left right => do
    if (← evaluate text left) != 0 then pure 1
    else
      let b ← evaluate text right
      pure (ofBool (b != 0))
  | .choice condition first second => do
    if (← evaluate text condition) != 0 then evaluate text first else evaluate text second
  | .assign name operator value => do
    let new ← evaluate text value
    let new ←
      match operator with
      | none => pure new
      | some operator => do
        let old ← valueOf name
        combine text operator old new
    Act.assign name (toString new.toInt)
    pure new

/-- The value of the expression that a text is. -/
def value (text : String) : Act Int64 :=
  match read text with
  | .ok expression => evaluate text expression
  | .error reason => refuse text reason

end Arithmetic
end LineShell.Machine.Script
