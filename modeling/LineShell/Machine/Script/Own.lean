/-
  LineShell.Machine.Script.Own

  The commands that a script carries out itself, by their names.
-/
import LineShell.Machine.Script.Own.Flow
import LineShell.Machine.Script.Own.Names
import LineShell.Machine.Script.Own.Output
import LineShell.Machine.Script.Own.Places
import LineShell.Machine.Script.Own.Signals
import LineShell.Machine.Script.Own.Variables

namespace LineShell.Machine.Script

/-- A command that a script carries out itself. -/
structure Own where
  /-- Gives the status for some arguments. -/
  run : Engine → Manner → List String → Act Nat
  /-- Whether it is part of the language, so that a script ends if it is used wrongly. -/
  special : Bool := false
  /-- Whether its arguments may be assignments. -/
  declares : Bool := false

namespace Own

/-- A command that needs no more than its arguments. -/
def regular (run : List String → Act Nat) : Own := { run := fun _ _ args => run args }

/-- The same as a part of the language. -/
def language (run : List String → Act Nat) : Own :=
  { run := fun _ _ args => run args, special := true }

/-- A command that declares variables. -/
def declaring (run : List String → Act Nat) : Own :=
  { run := fun _ _ args => run args, special := true, declares := true }

/-- A command that only gives a status. -/
def constant (status : Nat) : List String → Act Nat := fun _ => pure status

/-- The commands that a script carries out itself. -/
def all : List (String × Own) :=
  [(".", { run := fun engine _ args => carryOutFile engine args, special := true }),
   (":", language (constant 0)), ("[", regular bracket),
   ("alias", regular defineShorthands), ("bg", regular bringBack),
   ("break", language leaveLoops), ("cd", regular changeDirectory),
   ("chdir", regular changeDirectory), ("command", regular command),
   ("continue", language nextRound), ("echo", regular echo),
   ("eval", { run := evaluate, special := true }),
   ("exec", { run := fun engine _ args => replace engine args, special := true }),
   ("exit", language exit), ("export", declaring exportVariables),
   ("false", regular (constant 1)), ("fg", regular bringBack), ("getopts", regular getopts),
   ("hash", regular hash), ("jobs", regular showJobs), ("kill", regular kill),
   ("local", declaring localize), ("printf", regular printf),
   ("pwd", regular printDirectory), ("read", regular read),
   ("readonly", declaring protectVariables), ("return", language leaveFunction),
   ("set", language set), ("shift", language shift), ("test", regular test),
   ("times", language times), ("trap", language trap), ("true", regular (constant 0)),
   ("type", regular type), ("ulimit", regular limits), ("umask", regular mask),
   ("unalias", regular forgetShorthands), ("unset", language unset), ("wait", regular wait)]

end Own

/-- The own command with a name. -/
def own? (name : String) : Option Own := Own.all.lookup name

end LineShell.Machine.Script
