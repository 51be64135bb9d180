/-
  LineShell.Builtin.Exit

  The builtin `exit`: it ends the shell with the status given as its operand, or with the
  status of the last command that was no builtin.
-/
import LineShell.Arguments
import LineShell.Builtin

namespace LineShell.Builtin.Exit

/-- The text that explains the command. -/
def helpText : String :=
  "Usage: exit [--] [<status>]\n\n" ++
  "Exit the shell. Without a status, exits with the status of the last external command." ++
  "\n\nPositional Arguments:\n" ++
  "  status            exit status; decimal digits only, reduced modulo 256.\n\n" ++
  "Options:\n" ++
  "  --help, help      display usage information\n"

/-- The value of a decimal digit. -/
def digitValue (c : Char) : Status := (c.toNat - '0'.toNat).toInt32

/-- Reads one more digit of a status, modulo 256. -/
def addDigit (status : Status) (c : Char) : Status :=
  (status * 10 + digitValue c) % 256

/-- The status that an operand stands for. It must be made of decimal digits, of which
    there is at least one, and it is reduced modulo 256 at every digit. -/
def parseStatus (text : String) : Except ShellError Status :=
  if text.toList ≠ [] ∧ text.toList.all Char.isDigit then
    .ok (text.toList.foldl addDigit 0)
  else .error (.illegalNumber text)

/-- Asks the shell to end. -/
def leave (env : Environment) (status : Status) : Action :=
  Action.succeed { env with shouldExit := true } status

/-- What `exit` does with its arguments. -/
def action (env : Environment) (args : List String) : Action :=
  match Arguments.read 1 args with
  | .error refusal => Action.fail env (.shell (.usage refusal.text))
  | .ok .help => Action.print env [Utf8.encode helpText] (Action.succeed env 0)
  | .ok (.operands []) => leave env env.lastExternalStatus
  | .ok (.operands (text :: _)) =>
    match parseStatus text with
    | .ok status => leave env status
    | .error error => Action.fail env (.shell error)

/-- The builtin `exit`. -/
def builtin : Builtin := Builtin.named "exit" action

end LineShell.Builtin.Exit
