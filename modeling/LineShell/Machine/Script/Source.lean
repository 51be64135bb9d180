/-
  LineShell.Machine.Script.Source

  The text of a script while it is read: what is left of it, which line has been reached,
  which shorthands stand for other texts, and which documents have been announced and are
  still to come.
-/
import LineShell.Machine.Script

namespace LineShell.Machine.Script

/-! ## Tokens -/

/-- The words with a meaning of their own. -/
inductive Keyword where
  | bang
  | caseWord
  | doWord
  | doneWord
  | elifWord
  | elseWord
  | esacWord
  | fiWord
  | forWord
  | ifWord
  | inWord
  | thenWord
  | untilWord
  | whileWord
  | leftBrace
  | rightBrace
  deriving DecidableEq, Repr

/-- How the keywords are written. -/
def keywords : List (String × Keyword) :=
  [("!", .bang), ("case", .caseWord), ("do", .doWord), ("done", .doneWord),
   ("elif", .elifWord), ("else", .elseWord), ("esac", .esacWord), ("fi", .fiWord),
   ("for", .forWord), ("if", .ifWord), ("in", .inWord), ("then", .thenWord),
   ("until", .untilWord), ("while", .whileWord), ("\x7b", .leftBrace),
   ("\x7d", .rightBrace)]

/-- How a keyword is written. -/
def Keyword.text (keyword : Keyword) : String :=
  ((keywords.find? (·.2 = keyword)).map (·.1)).getD ""

/-- How a redirection begins. -/
inductive Arrow where
  | file (descriptor : Nat) (way : Way)
  | copy (descriptor : Nat)
  /-- A document, from the lines of which tabs in front may be removed. -/
  | document (descriptor : Nat) (tabs : Bool)
  deriving DecidableEq, Repr

/-- What a script is made of. -/
inductive Token where
  | endOfText
  | newline
  | semicolon
  | ampersand
  | andIf
  | orIf
  | bar
  | leftParenthesis
  | rightParenthesis
  | twoSemicolons
  | arrow (arrow : Arrow)
  /-- A word; the flag tells whether some of it is quoted. -/
  | word (word : Word) (quoted : Bool)
  | keyword (keyword : Keyword)

namespace Token

/-- How a token is called in complaints. -/
def text : Token → String
  | endOfText => "end of file"
  | newline => "newline"
  | semicolon => "\";\""
  | ampersand => "\"&\""
  | andIf => "\"&&\""
  | orIf => "\"||\""
  | bar => "\"|\""
  | leftParenthesis => "\"(\""
  | rightParenthesis => "\")\""
  | twoSemicolons => "\";;\""
  | arrow _ => "redirection"
  | word _ _ => "word"
  | keyword name => "\"" ++ name.text ++ "\""

/-- Whether this is a certain keyword. -/
def isKeyword (token : Token) (name : Keyword) : Bool :=
  match token with
  | .keyword other => other = name
  | _ => false

/-- Whether a list of commands ends in front of this token. -/
def endsList : Token → Bool
  | endOfText => true
  | rightParenthesis => true
  | twoSemicolons => true
  | keyword .doWord => true
  | keyword .doneWord => true
  | keyword .elifWord => true
  | keyword .elseWord => true
  | keyword .esacWord => true
  | keyword .fiWord => true
  | keyword .thenWord => true
  | keyword .rightBrace => true
  | _ => false

end Token

/-! ## The text -/

/-- What is looked for when the next token is read. -/
structure Lookout where
  keywords : Bool := false
  shorthands : Bool := false
  /-- Whether line breaks are passed over. -/
  newlines : Bool := false
  /-- Whether the token is the last line of a document. -/
  documentEnd : Bool := false
  deriving DecidableEq, Repr

/-- A shorthand that is being read, and the text around it. -/
structure Layer where
  shorthand : String
  /-- The shorthands that had just been read to their ends when this one was found. -/
  justLeft : List String
  /-- Whether its text ends in a blank, so that the word behind it may be a shorthand. -/
  endsInBlank : Bool
  outside : List Char
  deriving DecidableEq, Repr

/-- A document that has been announced. -/
structure Announced where
  number : Nat
  /-- The line that ends it. -/
  lastLine : List Char
  tabs : Bool
  /-- Whether it stands for itself, without any parameters. -/
  literal : Bool
  deriving DecidableEq, Repr

/-- A script that is being read. -/
structure Source where
  rest : List Char
  line : Nat := 1
  /-- The line on which the word that is being read starts. -/
  wordLine : Nat := 1
  /-- Whether its lines may be shown as they are read. -/
  shown : Bool := false
  layers : List Layer := []
  /-- The shorthands that have been read to their ends by the last character. -/
  justLeft : List String := []
  shorthands : List (String × String) := []
  documents : Array Document := #[]
  announced : List Announced := []
  lookout : Lookout := {}
  /-- The token that was read last. -/
  last : Token := .newline
  /-- Whether that token is still to be dealt with. -/
  again : Bool := false

/-- Reading a script. -/
abbrev Reader := EStateM Fault Source

namespace Reader

/-- Refuses the script at the line that has been reached. -/
def refuse {α : Type} (text : String) : Reader α := do
  throw ⟨(← get).line, text⟩

/-- Goes on behind the shorthands that have been read to their end. -/
def leaveLayers (source : Source) : List Layer → Source
  | [] => source
  | layer :: layers =>
    if source.rest ≠ [] then source
    else
      leaveLayers
        { source with
          rest := layer.outside
          layers := layers
          justLeft := layer.shorthand :: layer.justLeft ++ source.justLeft
          lookout :=
            { source.lookout with
              shorthands := source.lookout.shorthands || layer.endsInBlank } } layers

/-- The next character. -/
def next : Reader (Option Char) := do
  let source ← get
  let source := leaveLayers { source with justLeft := [] } source.layers
  match source.rest with
  | [] =>
    set source
    pure none
  | c :: rest =>
    set { source with rest }
    pure (some c)

/-- Puts a character back. -/
def putBack (c : Char) : Reader Unit :=
  modify fun source => { source with rest := c :: source.rest }

/-- Puts a character back, if there was one. -/
def putBack? (c : Option Char) : Reader Unit :=
  match c with
  | some c => putBack c
  | none => pure ()

/-- Counts a line break. -/
def countLine : Reader Unit :=
  modify fun source => { source with line := source.line + 1 }

/-- The backslash. -/
def backslash : Char := Char.ofNat 0x5C

/-- The next character behind any line breaks that a backslash hides. The fuel is more than
    the number of characters left. -/
def nextJoined : Nat → Reader (Option Char)
  | 0 => pure none
  | fuel + 1 => do
    match ← next with
    | some c =>
      if c ≠ backslash then pure (some c)
      else match ← next with
        | some '\n' => do
          countLine
          nextJoined fuel
        | other => do
          putBack? other
          pure (some c)
    | none => pure none

/-- Tells what to look for when the next token is read. -/
def lookFor (lookout : Lookout) : Reader Unit :=
  modify fun source => { source with lookout }

end Reader
end LineShell.Machine.Script
