/-
  LineShell.Machine.Mode

  The permissions of files, and the small language in which a change of permissions is
  written: `u=rwx,go-w`, or the permissions themselves as an octal number.

  A mode holds twelve bits. The three lowest are the permissions of others, above them
  are those of the group and of the owner, and above these are three special bits.
-/

namespace LineShell.Machine

/-- The permissions of a file. -/
structure Mode where
  bits : Nat
  deriving DecidableEq, Repr

namespace Mode

/-- All twelve bits. -/
def all : Nat := 0o7777

/-- The bits of a number that are not in a mask. -/
def without (bits mask : Nat) : Nat := bits &&& (all ^^^ (mask &&& all))

/-- Whether some bit of a mask is set. -/
def hasAny (mode : Mode) (mask : Nat) : Bool := mode.bits &&& mask != 0

/-- Whether the owner may read. -/
def mayRead (mode : Mode) : Bool := mode.hasAny 0o400

/-- Whether the owner may write. -/
def mayWrite (mode : Mode) : Bool := mode.hasAny 0o200

/-- Whether the owner may execute a file or pass through a directory. -/
def mayExecute (mode : Mode) : Bool := mode.hasAny 0o100

/-- The usual mode of a program and of a directory. -/
def ofProgram : Mode := ⟨0o755⟩

/-- The usual mode of any other file. -/
def ofData : Mode := ⟨0o644⟩

/-! ## Printing -/

/-- An octal digit. -/
def octalDigit (n : Nat) : Char := Char.ofNat ('0'.toNat + n % 8)

/-- A mode as four octal digits. -/
def octal (mode : Mode) : String :=
  String.ofList [octalDigit (mode.bits / 512), octalDigit (mode.bits / 64),
    octalDigit (mode.bits / 8), octalDigit mode.bits]

/-- The three letters for one group of permissions. The last letter also tells whether the
    special bit of the group is set. -/
def letters (permissions : Nat) (special : Bool) (letter : Char) : List Char :=
  [if permissions &&& 4 != 0 then 'r' else '-',
   if permissions &&& 2 != 0 then 'w' else '-',
   match permissions &&& 1 != 0, special with
   | true, true => letter
   | false, true => letter.toUpper
   | true, false => 'x'
   | false, false => '-']

/-- A mode as nine letters, those of the owner first. -/
def symbolic (mode : Mode) : String :=
  String.ofList (letters (mode.bits / 64) (mode.hasAny 0o4000) 's' ++
    letters (mode.bits / 8) (mode.hasAny 0o2000) 's' ++
    letters mode.bits (mode.hasAny 0o1000) 't')

/-! ## Changes -/

/-- What a change does with the bits that it names. -/
inductive Operator where
  | set
  | add
  | remove
  deriving DecidableEq, Repr

/-- How a change names bits. -/
inductive Amount where
  /-- These bits. -/
  | these (bits : Nat)
  /-- These bits, and the permission to execute where somebody has it or where the file is
      a directory. -/
  | theseAndExecution (bits : Nat)
  /-- The permissions that the file has in this group. -/
  | likeGroup (mask : Nat)
  deriving DecidableEq, Repr

/-- One change of permissions. -/
structure Change where
  operator : Operator
  /-- The bits that may be changed at all, if the change names groups. -/
  scope : Nat
  amount : Amount
  /-- The bits that the change speaks of. It does not touch the special bits of a
      directory unless it speaks of them. -/
  mentioned : Nat
  deriving DecidableEq, Repr

/-- The operator that a character stands for. -/
def operator? (c : Char) : Option Operator :=
  match c with
  | '=' => some .set
  | '+' => some .add
  | '-' => some .remove
  | _ => none

/-- The number that leading octal digits stand for, and what follows them. -/
def readOctal (value : Nat) : List Char → Nat × List Char
  | [] => (value, [])
  | c :: rest =>
    if '0' ≤ c ∧ c ≤ '7' then readOctal (value * 8 + (c.toNat - '0'.toNat)) rest
    else (value, c :: rest)

/-- The groups at the start of a change, and what follows them. -/
def readScope (scope : Nat) : List Char → Nat × List Char
  | 'u' :: rest => readScope (scope ||| 0o4700) rest
  | 'g' :: rest => readScope (scope ||| 0o2070) rest
  | 'o' :: rest => readScope (scope ||| 0o1007) rest
  | 'a' :: rest => readScope (scope ||| all) rest
  | rest => (scope, rest)

/-- The permissions behind an operator: their bits, whether execution is asked for where it
    makes sense, and what follows them. -/
def readPermissions (bits : Nat) (execution : Bool) : List Char → Nat × Bool × List Char
  | 'r' :: rest => readPermissions (bits ||| 0o444) execution rest
  | 'w' :: rest => readPermissions (bits ||| 0o222) execution rest
  | 'x' :: rest => readPermissions (bits ||| 0o111) execution rest
  | 'X' :: rest => readPermissions bits true rest
  | 's' :: rest => readPermissions (bits ||| 0o6000) execution rest
  | 't' :: rest => readPermissions (bits ||| 0o1000) execution rest
  | rest => (bits, execution, rest)

/-- The bits that a change with these groups and permissions speaks of. -/
def spokenOf (scope bits : Nat) : Nat := if scope = 0 then bits else scope &&& bits

/-- One change behind its operator, and what follows it. -/
def readAmount? (operator : Operator) (scope : Nat) (text : List Char) :
    Option (Change × List Char) :=
  match text with
  | 'u' :: rest => some (⟨operator, scope, .likeGroup 0o700, spokenOf scope 0o700⟩, rest)
  | 'g' :: rest => some (⟨operator, scope, .likeGroup 0o070, spokenOf scope 0o070⟩, rest)
  | 'o' :: rest => some (⟨operator, scope, .likeGroup 0o007, spokenOf scope 0o007⟩, rest)
  | _ =>
    if text.head?.any fun c => '0' ≤ c && c ≤ '7' then
      let (bits, rest) := readOctal 0 text
      if all < bits ∨ scope ≠ 0 ∨ rest.head?.any (· ≠ ',') then none
      else some (⟨operator, all, .these bits, all⟩, rest)
    else
      let (bits, execution, rest) := readPermissions 0 false text
      let amount := if execution then Amount.theseAndExecution bits else .these bits
      some (⟨operator, scope, amount, spokenOf scope bits⟩, rest)

/-- Reads changes that are separated by commas; each may have several operators. The flag
    tells whether an operator for the groups `scope` has been read before. The fuel is more
    than the length of the text. -/
def readChanges? : Nat → Bool → Nat → List Char → Option (List Change)
  | 0, _, _, _ => none
  | fuel + 1, started, scope, text =>
    match text with
    | [] => if started then some [] else none
    | c :: rest =>
      match operator? c with
      | some operator =>
        match readAmount? operator scope rest with
        | none => none
        | some (change, later) => (readChanges? fuel true scope later).map (change :: ·)
      | none =>
        if started then
          if c = ',' then
            let (scope, later) := readScope 0 rest
            if (later.head?.bind operator?).isSome then readChanges? fuel false scope later
            else none
          else none
        else none

/-- Reads what a text says about permissions. -/
def changes? (text : String) : Option (List Change) :=
  let chars := text.toList
  if chars.head?.any fun c => '0' ≤ c && c ≤ '7' then
    let (bits, rest) := readOctal 0 chars
    if rest ≠ [] ∨ all < bits then none
    else
      let mentioned := if chars.length < 5 then (bits &&& 0o7000) ||| 0o777 else all
      some [⟨.set, all, .these bits, mentioned⟩]
  else
    let (scope, rest) := readScope 0 chars
    readChanges? (chars.length + 1) false scope rest

/-! ## Carrying out changes -/

/-- Spreads permissions that some group has over all three groups. -/
def spread (bits : Nat) : Nat :=
  bits ||| (if bits &&& 0o444 = 0 then 0 else 0o444) |||
    (if bits &&& 0o222 = 0 then 0 else 0o222) ||| (if bits &&& 0o111 = 0 then 0 else 0o111)

/-- Carries out a change. A change that names no group leaves the bits of `mask` alone. -/
def change (isDirectory : Bool) (mask : Nat) (bits : Nat) (change : Change) : Nat :=
  let untouched := if isDirectory then without 0o6000 change.mentioned else 0
  let value :=
    match change.amount with
    | .these value => value
    | .theseAndExecution value =>
      if bits &&& 0o111 ≠ 0 ∨ isDirectory then value ||| 0o111 else value
    | .likeGroup group => spread (bits &&& group)
  let value := without (if change.scope = 0 then without value mask else value &&& change.scope)
    untouched
  match change.operator with
  | .set =>
    let kept := (if change.scope = 0 then 0 else without all change.scope) ||| untouched
    (bits &&& kept) ||| value
  | .add => bits ||| value
  | .remove => without bits value

/-- The mode of a file after some changes. -/
def adjust (mode : Mode) (isDirectory : Bool) (mask : Nat) (changes : List Change) : Mode :=
  ⟨changes.foldl (change isDirectory mask) mode.bits⟩

end Mode
end LineShell.Machine
