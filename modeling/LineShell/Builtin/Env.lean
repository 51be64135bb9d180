/-
  LineShell.Builtin.Env

  The builtin `env`: it prints the variables, one a line, and takes no notice of its
  arguments.
-/
import LineShell.Builtin

namespace LineShell.Builtin.Env

/-- The pieces in which a variable is printed. -/
def pieces (pair : String × String) : List Bytes :=
  [Utf8.encode pair.1, Utf8.encode "=", Utf8.encode pair.2, Utf8.encode "\n"]

/-- What `env` does. -/
def action (env : Environment) (_args : List String) : Action :=
  Action.print env (env.vars.flatMap pieces) (Action.succeed env 0)

/-- The builtin `env`. -/
def builtin : Builtin := Builtin.named "env" action

end LineShell.Builtin.Env
