/-
  LineShell.Builtin.Scripted

  Builtins that are described by data: what to print, which variables and registers to
  set, and how to end.
-/
import LineShell.Builtin

namespace LineShell.Builtin

/-- The description of a builtin. What it does, it does in the order of the fields. -/
structure Scripted where
  /-- The name it accepts. -/
  name : String
  /-- A variable without which it declines. -/
  needs : Option String := none
  /-- A text for standard output. -/
  text : Option String := none
  /-- Whether it prints its arguments. -/
  printsArgs : Bool := false
  /-- Variables to set. -/
  assignments : List (String × String) := []
  /-- A value for the request to end the shell. -/
  shouldExit : Option Bool := none
  /-- A value for the register of the last external status. -/
  lastExternalStatus : Option Status := none
  /-- How it ends. -/
  result : Except Failure Status := .ok 0

namespace Scripted

/-- What it writes. -/
def pieces (script : Scripted) (args : List String) : List Bytes :=
  script.text.toList.map Utf8.encode ++
    if script.printsArgs then [Utf8.encode ("|".intercalate args), Utf8.encode "\n"] else []

/-- What becomes of the environment. -/
def update (script : Scripted) (env : Environment) : Environment :=
  let env := env.setAll script.assignments
  { env with
    shouldExit := script.shouldExit.getD env.shouldExit
    lastExternalStatus := script.lastExternalStatus.getD env.lastExternalStatus }

/-- Whether it accepts a command. -/
def accepts (script : Scripted) (env : Environment) (name : String) : Bool :=
  name = script.name && script.needs.all fun key => (env.get? key).isSome

/-- The builtin that a description stands for. -/
def builtin (script : Scripted) : Builtin where
  offer env name args :=
    if script.accepts env name then
      some (Action.print env (script.pieces args)
        (Action.done script.result (script.update env)))
    else none

end Scripted
end LineShell.Builtin
