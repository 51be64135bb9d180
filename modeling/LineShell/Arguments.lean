/-
  LineShell.Arguments

  The arguments of a command that takes no options but the request for help and at most a
  given number of operands.

  Arguments are read from left to right. Up to the first `--`, the words `help` and
  `--help` ask for help and anything else that starts with `-` is an option, which is
  always refused; the first `--` itself is no operand. Everything else is an operand. The
  first refusal counts. Help that was asked for counts only if nothing is refused.
-/

namespace LineShell.Arguments

/-- Why arguments are refused. -/
inductive Refusal where
  /-- An unknown option, or one operand too many. -/
  | unrecognized (arg : String)
  /-- An option after a request for help. -/
  | afterHelp
  deriving DecidableEq, Repr

/-- The text of a refusal. -/
def Refusal.text : Refusal → String
  | unrecognized arg => "Unrecognized argument: " ++ arg ++ "\n"
  | afterHelp => "Trailing arguments are not allowed after `help`."

/-- What arguments ask for. -/
inductive Order where
  | help
  | operands (values : List String)
  deriving DecidableEq, Repr

/-- The words that ask for help. -/
def helpWords : List String := ["--help", "help"]

/-- The word that ends the options. -/
def separator : String := "--"

/-- What is known after some of the arguments. -/
structure Progress where
  helpAsked : Bool := false
  optionsEnded : Bool := false
  operands : List String := []
  deriving DecidableEq, Repr

/-- Whether an argument has the form of an option. -/
def isOption (arg : String) : Bool := arg.toList.head? = some '-'

/-- Reads one argument. -/
def Progress.read (limit : Nat) (progress : Progress) (arg : String) :
    Except Refusal Progress :=
  if !progress.optionsEnded && helpWords.contains arg then
    .ok { progress with helpAsked := true }
  else if !progress.optionsEnded && isOption arg then
    if arg = separator then .ok { progress with optionsEnded := true }
    else if progress.helpAsked then .error .afterHelp
    else .error (.unrecognized arg)
  else if progress.operands.length < limit then
    .ok { progress with operands := progress.operands ++ [arg] }
  else .error (.unrecognized arg)

/-- What all arguments together ask for. -/
def Progress.order (progress : Progress) : Order :=
  if progress.helpAsked then .help else .operands progress.operands

/-- Reads the arguments of a command that takes at most `limit` operands. -/
def read (limit : Nat) (args : List String) : Except Refusal Order :=
  (args.foldlM (Progress.read limit) {}).map Progress.order

end LineShell.Arguments
