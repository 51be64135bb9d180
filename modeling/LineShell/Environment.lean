/-
  LineShell.Environment

  What the shell remembers between two command lines: the variables, in the order in
  which they came, and three registers.

  A key may occur more than once. Looking up and assigning both go by the first pair with
  the key; assigning to a new key appends a pair.
-/
import LineShell.Status

namespace LineShell

/-- The memory of a shell. -/
structure Environment where
  /-- The variables as pairs of key and value, in order. -/
  vars : List (String × String)
  /-- The status of the last command. -/
  lastStatus : Status := 0
  /-- The status of the last command that was no builtin. -/
  lastExternalStatus : Status := 0
  /-- Whether a builtin has asked the shell to end. -/
  shouldExit : Bool := false
  deriving DecidableEq, Repr

namespace Environment

/-- Gives a value to the first pair with the key, or appends a pair if there is none. -/
def assign (key value : String) : List (String × String) → List (String × String)
  | [] => [(key, value)]
  | (k, v) :: rest =>
    if k = key then (k, value) :: rest else (k, v) :: assign key value rest

/-- The value of a variable. -/
def get? (env : Environment) (key : String) : Option String :=
  env.vars.lookup key

/-- Sets a variable. -/
def set (env : Environment) (key value : String) : Environment :=
  { env with vars := assign key value env.vars }

/-- Sets variables one after the other. -/
def setAll (env : Environment) (pairs : List (String × String)) : Environment :=
  pairs.foldl (fun env pair => env.set pair.1 pair.2) env

end Environment
end LineShell
