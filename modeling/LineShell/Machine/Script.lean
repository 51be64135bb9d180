/-
  LineShell.Machine.Script

  Scripts: the command language in which the programs of a machine are written. A word of
  a script is made of pieces, some of which hold commands again. All texts in a script are
  raw texts.

  Like all of the machine, scripts serve only to run and test the shell (`Machine.Standard`).
  Nothing that is proved about the shell depends on them.
-/

namespace LineShell.Machine.Script

/-- What a `$` in a word can ask for. -/
inductive Parameter where
  | named (name : String)
  /-- The argument with this number; number 0 is the name of the script. -/
  | argument (number : Nat)
  /-- The number of arguments. -/
  | count
  /-- All arguments, each on its own. -/
  | each
  /-- All arguments as one text. -/
  | joined
  /-- The status of the last command. -/
  | status
  /-- The number of the process that runs the script. -/
  | process
  /-- The number of the process that was started last without waiting for it. -/
  | background
  /-- The letters of the settings that are on. -/
  | settings
  deriving DecidableEq, Repr

/-- What a parameter is called in complaints. -/
def Parameter.text : Parameter → String
  | named name => name
  | argument number => toString number
  | count => "#"
  | each => "@"
  | joined => "*"
  | status => "?"
  | process => "$"
  | background => "!"
  | settings => "-"

/-- Which end of a value is cut off, and how much of it. -/
structure Trim where
  atEnd : Bool
  longest : Bool
  deriving DecidableEq, Repr

/-- How a redirection opens a file. -/
inductive Way where
  /-- For writing; what it holds is thrown away unless files are protected. -/
  | overwrite
  /-- For writing; what it holds is thrown away in any case. -/
  | force
  /-- For writing to its end. -/
  | append
  | read
  | readAndWrite
  deriving DecidableEq, Repr

mutual

/-- A piece of a word. -/
inductive Piece where
  /-- A character that stands for itself. -/
  | char (c : Char) (quoted : Bool)
  /-- A quotation mark. -/
  | mark
  /-- The value of a parameter. -/
  | value (parameter : Parameter) (form : Form) (quoted : Bool)
  /-- What commands print. -/
  | output (commands : Option Command) (quoted : Bool)
  /-- The value of an arithmetic expression. -/
  | number (expression : List Piece) (quoted : Bool)

/-- What is done with the value of a parameter. -/
inductive Form where
  | plain
  | length
  /-- The value, or a word if it is not set; with `orEmpty` also if it is empty. -/
  | default (orEmpty : Bool) (word : List Piece)
  /-- The same; the variable is set to the word as well. -/
  | assign (orEmpty : Bool) (word : List Piece)
  /-- The value, or a complaint. -/
  | demand (orEmpty : Bool) (word : List Piece)
  /-- A word, but only if the value is set. -/
  | instead (orEmpty : Bool) (word : List Piece)
  /-- The value without a part that matches a pattern. -/
  | trimmed (trim : Trim) (pattern : List Piece)
  /-- No known form. -/
  | bad

/-- A redirection of a descriptor. -/
inductive Redirection where
  | file (descriptor : Nat) (way : Way) (name : List Piece)
  /-- The descriptor goes where another one goes, which a word names. -/
  | copy (descriptor : Nat) (name : List Piece)
  /-- The descriptor reads the document with this number. -/
  | document (descriptor : Nat) (number : Nat)

/-- A command. -/
inductive Command where
  | simple (line : Nat) (assignments : List (String × List Piece))
      (words : List (List Piece)) (redirections : List Redirection)
  /-- Commands of which each reads what the one before it writes. -/
  | pipeline (stages : List Command)
  | sequence (commands : List Command)
  | andThen (first : Command) (later : Command)
  | orElse (first : Command) (later : Command)
  | negated (command : Command)
  | conditional (condition : Option Command) (body : Option Command)
      (otherwise : Option Command)
  /-- Repeats a body as long as a condition holds, or, with `untilHolds`, until it does. -/
  | repeated (untilHolds : Bool) (condition : Option Command) (body : Option Command)
  /-- Repeats a body for each of some words. -/
  | forEach (line : Nat) (name : String) (items : List (List Piece))
      (body : Option Command)
  /-- Carries out the first body of which a pattern matches a word. -/
  | choice (line : Nat) (subject : List Piece)
      (branches : List (List (List Piece) × Option Command))
  /-- A command with redirections around it. -/
  | redirected (line : Nat) (command : Option Command) (redirections : List Redirection)
  /-- A command that cannot change the script around it. -/
  | subshell (line : Nat) (command : Option Command) (redirections : List Redirection)
  /-- A command that is not waited for. -/
  | background (command : Option Command) (redirections : List Redirection)
  | function (name : String) (body : Command)

end

/-- A word before its parameters are replaced. -/
abbrev Word := List Piece

/-- A text inside a script that a command can read. -/
structure Document where
  text : Word

/-- A script that cannot be read. -/
structure Fault where
  line : Nat
  text : String
  deriving DecidableEq, Repr

/-! ## Names -/

/-- Whether a character can start a name. -/
def isNameStart (c : Char) : Bool := c.isAlpha || c = '_'

/-- Whether a character can stand in a name. -/
def isNameChar (c : Char) : Bool := c.isAlphanum || c = '_'

/-- Whether a text is a name. -/
def isName (text : List Char) : Bool :=
  text.head?.any isNameStart && text.all isNameChar

/-- The characters of a word without quotes and parameters. -/
def plainText? : Word → Option (List Char)
  | [] => some []
  | .char c false :: rest => (plainText? rest).map (c :: ·)
  | _ => none

end LineShell.Machine.Script
