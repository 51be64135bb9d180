/-
  LineShell.Machine.Script.Condition

  Conditions on texts, numbers and files, as they are given to `test` and `[`. Up to four
  arguments are taken for what they most likely mean; more arguments are an expression in
  which `-a` binds more tightly than `-o`.
-/
import LineShell.Machine.Script.Arithmetic

namespace LineShell.Machine.Script.Condition

/-- What an argument can be. -/
inductive Lexeme where
  | finish
  | operand
  /-- A question about the next argument. -/
  | unary (operator : String)
  /-- A question about the arguments around it. -/
  | binary (operator : String)
  | not
  | and
  | or
  | leftParenthesis
  | rightParenthesis
  deriving DecidableEq, Repr

/-- The questions about one text. -/
def unaries : List String :=
  ["-r", "-w", "-x", "-e", "-f", "-d", "-c", "-b", "-p", "-u", "-g", "-k", "-s", "-t", "-z",
   "-n", "-h", "-L", "-S", "-O", "-G"]

/-- The questions about two texts. -/
def binaries : List String :=
  ["=", "!=", "<", ">", "-eq", "-ne", "-ge", "-gt", "-le", "-lt", "-nt", "-ot", "-ef"]

/-- The number that a text stands for. -/
def number (text : String) : Except String Int :=
  match wholeNumber? 10 text with
  | some value => .ok value
  | none => .error s!"Illegal number: {text}"

/-! ## Files -/

/-- Whether a question about a file has the answer yes. -/
def holdsOfFile (p : Process) (operator path : String) : Bool :=
  let followed :=
    if operator = "-h" || operator = "-L" then p.machine.foundEntry path
    else p.machine.found path
  match followed with
  | .error _ => false
  | .ok (_, node) =>
    match operator with
    | "-r" => node.mode.mayRead
    | "-w" => node.mode.mayWrite
    | "-x" => node.mode.mayExecute
    | "-f" => node.isFile
    | "-d" => node.isDirectory
    | "-u" => node.mode.hasAny 0o4000
    | "-g" => node.mode.hasAny 0o2000
    | "-k" => node.mode.hasAny 0o1000
    | "-c" =>
      match node with
      | .special _ => true
      | _ => false
    | "-s" =>
      match node with
      | .file _ content => content ≠ []
      | .tool _ => true
      | .directory _ => true
      | _ => false
    | "-e" => true
    | "-O" => true
    | "-G" => true
    | "-b" => false
    | "-p" => false
    | "-S" => false
    | _ =>
      match node with
      | .link _ => true
      | _ => false

/-- Whether two paths lead to the same file. -/
def sameFile (p : Process) (left right : String) : Bool :=
  match p.machine.found left, p.machine.found right with
  | .ok (a, _), .ok (b, _) => a = b
  | _, _ => false

/-! ## Questions -/

/-- The answer to a question about one text. No descriptor leads to a terminal. -/
def askOne (p : Process) (operator operand : String) : Except String Bool :=
  match operator with
  | "-z" => .ok (operand = "")
  | "-n" => .ok (operand ≠ "")
  | "-t" => (number operand).map fun _ => false
  | _ => .ok (holdsOfFile p operator (Text.Raw.toText operand))

/-- The answer to a question about two texts. All files are of the same age. -/
def askTwo (p : Process) (operator left right : String) : Except String Bool := do
  match operator with
  | "=" => pure (left = right)
  | "!=" => pure (left ≠ right)
  | "<" => pure (left < right)
  | ">" => pure (right < left)
  | "-ef" => pure (sameFile p (Text.Raw.toText left) (Text.Raw.toText right))
  | "-nt" => pure false
  | "-ot" => pure false
  | _ =>
    let a ← number left
    let b ← number right
    match operator with
    | "-eq" => pure (a = b)
    | "-ne" => pure (a ≠ b)
    | "-ge" => pure (b ≤ a)
    | "-gt" => pure (b < a)
    | "-le" => pure (a ≤ b)
    | _ => pure (a < b)

/-- What the argument at a position is. -/
def lexeme (args : Array String) (i : Nat) : Lexeme :=
  match args[i]? with
  | none => .finish
  | some text =>
    let isOperand := args[i + 1]?.all fun next => i + 2 < args.size && binaries.contains next
    if unaries.contains text then (if isOperand then .operand else .unary text)
    else if binaries.contains text then .binary text
    else match text with
      | "!" => .not
      | "-a" => .and
      | "-o" => .or
      | "(" => if i + 1 < args.size then .leftParenthesis else .operand
      | ")" => .rightParenthesis
      | _ => .operand

/-- What is said if an operator stands alone. -/
def lonely {α : Type} (operator : String) : Except String α :=
  .error s!"{operator}: argument expected"

mutual

/-- The value of expressions of which one has to hold, from the position of a lexeme on,
    and the position of the last argument that belongs to them. -/
def readOr (p : Process) (args : Array String) :
    Nat → Nat → Lexeme → Except String (Bool × Nat)
  | 0, i, _ => .ok (false, i)
  | fuel + 1, i, first => do
    let (left, i) ← readAnd p args fuel i first
    if lexeme args (i + 1) = .or then
      let (right, i) ← readOr p args fuel (i + 2) (lexeme args (i + 2))
      pure (left || right, i)
    else pure (left, i)

/-- The value of expressions that all have to hold. -/
def readAnd (p : Process) (args : Array String) :
    Nat → Nat → Lexeme → Except String (Bool × Nat)
  | 0, i, _ => .ok (false, i)
  | fuel + 1, i, first => do
    let (left, i) ← readNot p args fuel i first
    if lexeme args (i + 1) = .and then
      let (right, i) ← readAnd p args fuel (i + 2) (lexeme args (i + 2))
      pure (left && right, i)
    else pure (left, i)

/-- The value of an expression that may be negated. -/
def readNot (p : Process) (args : Array String) :
    Nat → Nat → Lexeme → Except String (Bool × Nat)
  | 0, i, _ => .ok (false, i)
  | fuel + 1, i, first =>
    if first = .not then do
      let next := lexeme args (i + 1)
      let (value, i) ← readNot p args fuel (if next = .finish then i else i + 1) next
      pure (!value, i)
    else readQuestion p args fuel i first

/-- The value of a question or of an expression in parentheses. -/
def readQuestion (p : Process) (args : Array String) :
    Nat → Nat → Lexeme → Except String (Bool × Nat)
  | 0, i, _ => .ok (false, i)
  | fuel + 1, i, first =>
    match first with
    | .finish => .ok (false, i)
    | .leftParenthesis =>
      if lexeme args (i + 1) = .rightParenthesis then .ok (false, i + 1)
      else do
        let (value, i) ← readOr p args fuel (i + 1) (lexeme args (i + 1))
        if lexeme args (i + 1) = .rightParenthesis then pure (value, i + 1)
        else .error "closing paren expected"
    | .unary operator =>
      match args[i + 1]? with
      | none => lonely operator
      | some operand => (askOne p operator operand).map (·, i + 1)
    | _ =>
      let left := (args[i]?).getD ""
      match lexeme args (i + 1) with
      | .binary operator =>
        match args[i + 2]? with
        | none => lonely operator
        | some right => (askTwo p operator left right).map (·, i + 2)
      | _ => .ok (left ≠ "", i)

end

/-- The value of a whole expression of which the first lexeme is given. -/
def evaluate (p : Process) (args : List String) (first : Lexeme) : Except String Bool := do
  let args := args.toArray
  let (value, last) ← readOr p args (8 * (args.size + 2)) 0 first
  match args[last]?, args[last + 1]? with
  | some text, some _ =>
    if text = "" then .error "unexpected operator" else .error s!"{text}: unexpected operator"
  | _, _ => pure value

/-- Whether the second of three arguments asks a question about the two others. -/
def isQuestion (args : List String) : Bool :=
  match args with
  | [_, operator, _] => binaries.contains operator
  | _ => false

/-- Whether a condition holds. -/
def holds (p : Process) : List String → Except String Bool
  | [] => .ok false
  | first :: rest =>
    let args := first :: rest
    let few := args.length = 3 || args.length = 4
    if isQuestion args then evaluate p args .operand
    else if few && first = "(" && args.getLast? = some ")" then
      let inside := rest.dropLast
      evaluate p inside (lexeme inside.toArray 0)
    else if few && first = "!" then (holds p rest).map (!·)
    else evaluate p args (lexeme args.toArray 0)

end LineShell.Machine.Script.Condition
