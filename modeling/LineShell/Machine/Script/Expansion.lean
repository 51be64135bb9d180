/-
  LineShell.Machine.Script.Expansion

  Replacing the parameters of a word, and what a word becomes: a text, a pattern, or some
  fields. Commands inside a word are carried out by an action that is given from outside.
-/
import LineShell.Machine.Script.Arithmetic
import LineShell.Machine.Script.Fields
import LineShell.Machine.Script.FileNames

namespace LineShell.Machine.Script

/-- What a word is to become. -/
inductive Purpose where
  | fields
  | text
  /-- The value of a variable, in which a tilde may also stand behind a colon. -/
  | assignment
  /-- A name, an equals sign and the value of a variable. -/
  | declaration
  | document
  deriving DecidableEq, Repr

namespace Expansion

/-! ## Parameters -/

/-- The characters at which fields end; none if the script has not chosen any. -/
def separators? (st : State) : Option (List Char) := (st.value? "IFS").map String.toList

/-- The settings with a letter, in the order in which they are shown. -/
def settingLetters : List Char := "pubaCEVvxsnmiIfe".toList

/-- The value of a parameter that is no list of arguments. -/
def single? (st : State) : Parameter → Option String
  | .named name => st.value? name
  | .argument 0 => some st.name
  | .argument (number + 1) => st.args[number]?
  | .count => some (toString st.args.length)
  | .status => some (toString st.status)
  | .process => some (toString st.root)
  | .background => st.lastJob.map toString
  | .settings => some (String.ofList (settingLetters.filter st.settings.contains))
  | .each => none
  | .joined => none

/-- What stands between two arguments: a separator, or the end of an argument where fields
    are made. -/
def between (st : State) (parameter : Parameter) (purpose : Purpose) (quoted : Bool) :
    List Char :=
  let separator := (separators? st).elim [' '] (List.take 1)
  if purpose ≠ .fields then separator
  else if quoted then (if parameter = .each then [Fields.argumentEnd] else separator)
  else if (separators? st).isSome then [Fields.argumentEnd] else [' ']

/-- The value of a parameter as characters. -/
def value? (st : State) (parameter : Parameter) (purpose : Purpose) (quoted : Bool) :
    Option (List Char) :=
  if parameter = .each ∨ parameter = .joined then
    some ((between st parameter purpose quoted).intercalate (st.args.map String.toList))
  else (single? st parameter).map String.toList

/-- A value as a stretch of a word. -/
def stretch (strict quoted : Bool) (value : List Char) : Stretch where
  cutting := if strict then .betweenArguments else if quoted then .never else .atSeparators
  atoms := value.map fun c => .char c (quoted && c ≠ Fields.argumentEnd)

/-- The stretches for the value of a parameter. -/
def ofValue (st : State) (parameter : Parameter) (purpose : Purpose) (quoted : Bool)
    (value : List Char) : List Stretch :=
  let strict := quoted && parameter = .each && purpose = .fields
  if strict && st.args = [] then [] else [stretch strict quoted value]

/-- Refuses a parameter without a value if the script wants that. -/
def demandSet (parameter : Parameter) : Act Unit := do
  if ← Act.isOn 'u' then Act.fail s!"{parameter.text}: parameter not set"

/-- A value that counts: with `orEmpty`, an empty one does not. -/
def present? (orEmpty : Bool) (value : Option (List Char)) : Option (List Char) :=
  value.filter fun chars => !(orEmpty && chars = [])

/-! ## Tildes -/

/-- The home directory of a user, or of the one for whom the script runs. -/
def home? (st : State) (user : String) : Option String :=
  if user = "" then st.value? "HOME" else if user = "root" then some "/root" else none

/-- The name of the user behind a tilde, if the tilde stands for a home directory. -/
def userBehind? (inAssignment : Bool) : List Piece → Option (List Char)
  | [] => some []
  | .char c false :: rest =>
    if c = '/' || (inAssignment && c = ':') then some []
    else (userBehind? inAssignment rest).map (c :: ·)
  | _ => none

/-- The home directory that a tilde in front of some pieces stands for, and how many of
    them belong to it. -/
def tilde? (st : State) (inAssignment : Bool) (rest : List Piece) : Option (String × Nat) :=
  match userBehind? inAssignment rest with
  | none => none
  | some user => (home? st (String.ofList user)).map (·, user.length)

/-- Whether a tilde may stand behind a character. The flag tells whether an equals sign has
    been passed. -/
def mayPrecedeTilde (purpose : Purpose) (passed : Bool) (c : Char) : Bool :=
  (purpose = .assignment && c = ':') ||
    (purpose = .declaration && (c = ':' || (c = '=' && !passed)))

/-! ## Words -/

/-- How far a word has been read. -/
structure Position where
  /-- How many pieces have been dealt with already. -/
  skipped : Nat := 0
  /-- Whether a tilde may stand here. -/
  tilde : Bool
  /-- Whether an equals sign has been passed. -/
  passed : Bool := false
  /-- Whether the word stands for the value of a parameter, so that all of it is cut. -/
  inner : Bool

/-- The characters at the start of a word that stand for themselves and are not quoted. -/
def plainRun : List Piece → List Char
  | .char c false :: rest => c :: plainRun rest
  | _ => []

/-- Characters that stand for themselves as a stretch of a word. -/
def literal (inner : Bool) (chars : List Char) : Stretch :=
  ⟨if inner then .atSeparators else .never, chars.map (.char · false)⟩

/-- A text without the line breaks at its end and without NUL. -/
def trimOutput (text : String) : List Char :=
  (text.toList.filter (· ≠ Char.ofNat 0)).reverse.dropWhile (· = '\n') |>.reverse

mutual

/-- Replaces what a piece other than a character stands for. -/
def expandPiece (output : Option Command → Act String) (purpose : Purpose) :
    Piece → Act (List Stretch)
  | .char c quoted => pure [⟨.never, [.char c quoted]⟩]
  | .mark => pure [⟨.never, [.mark]⟩]
  | .value parameter form quoted => expandForm output purpose parameter quoted form
  | .output commands quoted => do
    let text ← output commands
    pure [stretch false quoted (trimOutput text)]
  | .number expression quoted => do
    let inside ← expandPieces output .document { tilde := false, inner := false } expression
    let value ← Arithmetic.value (Atom.text (Stretch.all inside))
    pure [stretch false quoted (toString value.toInt).toList]

/-- Replaces a parameter in one of its forms. -/
def expandForm (output : Option Command → Act String) (purpose : Purpose)
    (parameter : Parameter) (quoted : Bool) : Form → Act (List Stretch)
  | .bad => Act.fail "Bad substitution"
  | .plain => do
    let st ← get
    match value? st parameter purpose quoted with
    | some value => pure (ofValue st parameter purpose quoted value)
    | none => do
      demandSet parameter
      pure []
  | .length => do
    match value? (← get) parameter purpose quoted with
    | some value => pure [stretch false quoted (toString value.length).toList]
    | none => do
      demandSet parameter
      pure [stretch false quoted ['0']]
  | .default orEmpty word => do
    let st ← get
    match present? orEmpty (value? st parameter purpose quoted) with
    | some value => pure (ofValue st parameter purpose quoted value)
    | none => expandPieces output purpose { tilde := true, inner := !quoted } word
  | .instead orEmpty word => do
    match present? orEmpty (value? (← get) parameter purpose quoted) with
    | some _ => expandPieces output purpose { tilde := true, inner := !quoted } word
    | none => pure []
  | .assign orEmpty word => do
    let st ← get
    match present? orEmpty (value? st parameter purpose quoted) with
    | some value => pure (ofValue st parameter purpose quoted value)
    | none => do
      let inside ← expandPieces output .text { tilde := true, inner := false } word
      let text := Atom.text (Stretch.all inside)
      match parameter with
      | .named name => do
        Act.assign name text
        pure [stretch false quoted text.toList]
      | _ => Act.fail s!"{parameter.text}: bad variable name"
  | .demand orEmpty word => do
    let st ← get
    match present? orEmpty (value? st parameter purpose quoted) with
    | some value => pure (ofValue st parameter purpose quoted value)
    | none => do
      let inside ← expandPieces output .text { tilde := true, inner := false } word
      let text := Atom.text (Stretch.all inside)
      let told :=
        if word.isEmpty then "parameter not set" ++ if orEmpty then " or null" else "" else text
      Act.fail s!"{parameter.text}: {told}"
  | .trimmed trim pattern => do
    let st ← get
    match value? st parameter purpose quoted with
    | none => do
      demandSet parameter
      pure []
    | some value => do
      let inside ← expandPieces output .text { tilde := true, inner := false } pattern
      let cut := Pattern.cutOff trim (Atom.pattern (Stretch.all inside)) (String.ofList value)
      pure (ofValue st parameter purpose quoted cut.toList)

/-- Replaces what the pieces of a word stand for, from a position on. -/
def expandPieces (output : Option Command → Act String) (purpose : Purpose)
    (position : Position) : List Piece → Act (List Stretch)
  | [] => pure []
  | piece :: rest => do
    let inner := position.inner
    let next : Position := { position with skipped := 0, tilde := false }
    if position.skipped ≠ 0 then
      let position := { position with skipped := position.skipped - 1 }
      expandPieces output purpose position rest
    else
      match piece with
      | .char c false => do
        let st ← get
        let home? :=
          if position.tilde && c = '~' then
            tilde? st (purpose = .assignment || purpose = .declaration) rest
          else none
        match home? with
        | some (home, used) => do
          let later ← expandPieces output purpose { next with skipped := used } rest
          pure (⟨.never, Atom.ofText home true⟩ :: later)
        | none =>
          if inner then
            let run := plainRun rest
            let later ← expandPieces output purpose { next with skipped := run.length } rest
            pure (literal true (c :: run) :: later)
          else
            let next : Position :=
              { next with
                tilde := mayPrecedeTilde purpose position.passed c
                passed := position.passed || c = '=' }
            let later ← expandPieces output purpose next rest
            pure (literal false [c] :: later)
      | piece => do
        let here ← expandPiece output purpose piece
        let later ← expandPieces output purpose next rest
        pure (here ++ later)

end

/-! ## What words become -/

/-- The stretches of a whole word. -/
def expandWord (output : Option Command → Act String) (purpose : Purpose) (word : Word) :
    Act (List Stretch) :=
  expandPieces output purpose { tilde := purpose ≠ .document, inner := false } word

/-- The text that a word becomes. -/
def textOf (output : Option Command → Act String) (purpose : Purpose) (word : Word) :
    Act String := do
  pure (Atom.text (Stretch.all (← expandWord output purpose word)))

/-- The pattern that a word becomes. -/
def patternOf (output : Option Command → Act String) (word : Word) :
    Act (List PatternChar) := do
  pure (Atom.pattern (Stretch.all (← expandWord output .text word)))

/-- The texts that a field becomes: the names of files that it matches, or else itself. -/
def withFileNames (field : List Atom) : Act (List String) := do
  let st ← get
  let found :=
    if st.settings.contains 'f' then []
    else FileNames.matching st.process (Atom.pattern field)
  pure (if found = [] then [Atom.text field] else found)

/-- The texts that a word becomes. -/
def fieldsOf (output : Option Command → Act String) (word : Word) : Act (List String) := do
  let stretches ← expandWord output .fields word
  let separators := (separators? (← get)).getD fieldBlanks.toList
  let texts ← (Fields.cut separators none stretches).mapM withFileNames
  pure texts.flatten

/-- The texts that words become. -/
def allFieldsOf (output : Option Command → Act String) (words : List Word) :
    Act (List String) := do
  let texts ← words.mapM (fieldsOf output)
  pure texts.flatten

end Expansion
end LineShell.Machine.Script
