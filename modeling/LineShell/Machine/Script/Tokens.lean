/-
  LineShell.Machine.Script.Tokens

  Cutting a script into tokens. Blanks and comments between tokens are passed over, words
  that are shorthands are replaced by their texts, and the documents that a line announces
  are read when the line ends.
-/
import LineShell.Machine.Script.Words

namespace LineShell.Machine.Script

/-- Whether some of a piece is quoted. -/
def Piece.isQuoted : Piece → Bool
  | .char _ quoted => quoted
  | .mark => true
  | .value _ _ quoted => quoted
  | .output _ quoted => quoted
  | .number _ quoted => quoted

/-- The characters of a word in which quotes are all that is special. -/
def characters (word : Word) : List Char :=
  word.filterMap fun
    | .char c _ => some c
    | _ => none

namespace Reader

/-- Passes over a comment. -/
def skipComment : Nat → Reader Unit
  | 0 => pure ()
  | fuel + 1 => do
    match ← next with
    | none => pure ()
    | some c => if c = '\n' then putBack c else skipComment fuel

/-- Reads the rest of an arrow behind its first character. -/
def readArrow (fuel : Nat) (outwards : Bool) (descriptor : Option Nat) : Reader Arrow := do
  if outwards then
    let descriptor := descriptor.getD 1
    match ← nextJoined fuel with
    | some '>' => pure (.file descriptor .append)
    | some '|' => pure (.file descriptor .force)
    | some '&' => pure (.copy descriptor)
    | other => do
      putBack? other
      pure (.file descriptor .overwrite)
  else
    let descriptor := descriptor.getD 0
    match ← nextJoined fuel with
    | some '<' =>
      match ← nextJoined fuel with
      | some '-' => pure (.document descriptor true)
      | other => do
        putBack? other
        pure (.document descriptor false)
    | some '&' => pure (.copy descriptor)
    | some '>' => pure (.file descriptor .readAndWrite)
    | other => do
      putBack? other
      pure (.file descriptor .read)

/-- Reads a word, or an arrow with the descriptor in front of it. -/
def readWordOrArrow (inside : Inside) (fuel : Nat) : Reader Token := do
  let before := (← get).wordLine
  modify fun source => { source with wordLine := source.line }
  let word := (← readPieces inside fuel .bare 0 []).reverse
  modify fun source => { source with wordLine := before }
  let descriptor? : Option (Option Nat) :=
    match word with
    | [] => some none
    | [.char c false] => if c.isDigit then some (some (numberOf [c])) else none
    | _ => none
  match descriptor? with
  | none => pure (.word word (word.any Piece.isQuoted))
  | some descriptor =>
    match ← nextJoined fuel with
    | some '>' => .arrow <$> readArrow fuel true descriptor
    | some '<' => .arrow <$> readArrow fuel false descriptor
    | other => do
      putBack? other
      pure (.word word false)

/-- Reads the next token of the text. -/
def scan (inside : Inside) : Nat → Reader Token
  | 0 => pure .endOfText
  | fuel + 1 => do
    match ← nextJoined fuel with
    | none => pure .endOfText
    | some c =>
      match c with
      | ' ' => scan inside fuel
      | '\t' => scan inside fuel
      | '#' => do
        skipComment fuel
        scan inside fuel
      | '\n' => do
        countLine
        pure .newline
      | '(' => pure .leftParenthesis
      | ')' => pure .rightParenthesis
      | '&' =>
        match ← nextJoined fuel with
        | some '&' => pure .andIf
        | other => do
          putBack? other
          pure .ampersand
      | '|' =>
        match ← nextJoined fuel with
        | some '|' => pure .orIf
        | other => do
          putBack? other
          pure .bar
      | ';' =>
        match ← nextJoined fuel with
        | some ';' => pure .twoSemicolons
        | other => do
          putBack? other
          pure .semicolon
      | _ => do
        putBack c
        readWordOrArrow inside fuel

/-- Gives back the token that was put back, or reads the next one. -/
def scanAgain (inside : Inside) (fuel : Nat) : Reader Token := do
  let source ← get
  if source.again then
    set { source with again := false }
    pure source.last
  else scan inside fuel

/-! ## Documents -/

/-- Passes over the last line of a document, if it comes next. -/
def skipLastLine (announced : Announced) : Reader Bool := do
  let source ← get
  let line := if announced.tabs then source.rest.dropWhile (· = '\t') else source.rest
  let isLast := announced.lastLine.isPrefixOf line
  match isLast, line.drop announced.lastLine.length with
  | true, [] =>
    set { source with rest := [] }
    pure true
  | true, '\n' :: rest =>
    set { source with rest := rest, line := source.line + 1 }
    pure true
  | _, _ =>
    set { source with rest := line }
    pure false

/-- Reads one line of a document that stands for itself. -/
def readLiteralLine : Nat → List Piece → Reader (List Piece)
  | 0, read => pure read
  | fuel + 1, read => do
    match ← next with
    | none => pure read
    | some c =>
      if c = '\n' then
        countLine
        pure (.char c true :: read)
      else readLiteralLine fuel (.char c true :: read)

/-- Reads the lines of a document. What has been read is held last piece first. -/
def readLines (inside : Inside) (announced : Announced) :
    Nat → List Piece → Reader (List Piece)
  | 0, read => pure read
  | fuel + 1, read => do
    if !announced.literal then
      let c ← nextJoined fuel
      putBack? c
    if (← get).rest = [] then pure read
    else if ← skipLastLine announced then pure read
    else
      let read ←
        if announced.literal then readLiteralLine fuel read
        else readPieces inside fuel .document 0 read
      readLines inside announced fuel read

/-- Reads the documents that were announced. -/
def readDocuments (inside : Inside) (fuel : Nat) : Reader Unit := do
  let announced := (← get).announced
  modify fun source => { source with announced := [] }
  announced.forM fun one => do
    let lines ← readLines inside one fuel []
    modify fun source =>
      { source with
        documents := source.documents.setIfInBounds one.number ⟨lines.reverse⟩ }

/-! ## Keywords and shorthands -/

/-- Reads tokens until one is no line break. -/
def skipNewlines (inside : Inside) : Nat → Token → Reader Token
  | 0, token => pure token
  | fuel + 1, token =>
    match token with
    | .newline => do
      readDocuments inside fuel
      lookFor {}
      skipNewlines inside fuel (← scanAgain inside fuel)
    | token => pure token

/-- Replaces a shorthand by its text, unless it stands in its own text. -/
def replace? (name : String) : Reader Bool := do
  let source ← get
  match source.shorthands.lookup name with
  | none => pure false
  | some text =>
    let inUse := source.justLeft ++ source.layers.flatMap fun layer =>
      layer.shorthand :: layer.justLeft
    if inUse.contains name then pure false
    else
      if text ≠ "" then
        let layer : Layer :=
          { shorthand := name
            justLeft := source.justLeft
            endsInBlank := text.toList.getLast?.any fun c => c = ' ' || c = '\t'
            outside := source.rest }
        set
          { source with
            rest := text.toList
            layers := layer :: source.layers
            justLeft := [] }
      pure true

/-- Notes a token as the one that was read last. -/
def note (token : Token) : Reader Token := do
  modify fun source => { source with last := token }
  pure token

/-- Reads the next token, and looks for what has been asked for. -/
def token (inside : Inside) : Nat → Reader Token
  | 0 => refuse "script too long"
  | fuel + 1 => do
    let wanted := (← get).lookout
    let first ← scanAgain inside fuel
    let found ← if wanted.newlines then skipNewlines inside fuel first else pure first
    let also := (← get).lookout
    let wanted :=
      { wanted with
        keywords := wanted.keywords || also.keywords
        shorthands := wanted.shorthands || also.shorthands }
    lookFor {}
    match found with
    | .word word false =>
      match plainText? word with
      | none => note found
      | some text =>
        let text := String.ofList text
        match if wanted.keywords then keywords.lookup text else none with
        | some keyword => note (.keyword keyword)
        | none =>
          if ← (if wanted.shorthands then replace? text else pure false) then
            lookFor wanted
            token inside fuel
          else note found
    | _ => note found

/-- Lets the token that was read last be read once more. -/
def tokenAgain : Reader Unit :=
  modify fun source => { source with again := true }

/-- Refuses the token that was read last. -/
def unexpected {α : Type} : Reader α := do
  refuse s!"{(← get).last.text} unexpected"

/-- Refuses the token that was read last in the place of another one. -/
def expecting {α : Type} (wanted : Token) : Reader α := do
  refuse s!"{(← get).last.text} unexpected (expecting {wanted.text})"

/-- Reads the word behind an arrow. -/
def readTarget (inside : Inside) (fuel : Nat) (arrow : Arrow) : Reader Redirection := do
  match arrow with
  | .document _ _ => lookFor { documentEnd := true }
  | _ => pure ()
  match ← token inside fuel with
  | .word word quoted =>
    match arrow with
    | .file descriptor way => pure (.file descriptor way word)
    | .copy descriptor => pure (.copy descriptor word)
    | .document descriptor tabs => do
      let source ← get
      let number := source.documents.size
      let one : Announced := ⟨number, characters word, tabs, quoted⟩
      set
        { source with
          documents := source.documents.push ⟨[]⟩
          announced := source.announced ++ [one] }
      pure (.document descriptor number)
  | _ => unexpected

end Reader
end LineShell.Machine.Script
