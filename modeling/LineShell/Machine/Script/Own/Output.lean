/-
  LineShell.Machine.Script.Own.Output

  The own commands of a script that print texts, and those that only give a status.
-/
import LineShell.Machine.Script.Arguments
import LineShell.Machine.Script.Condition
import LineShell.Machine.Script.Printing

namespace LineShell.Machine.Script.Own

/-- Prints its arguments. -/
def echo (args : List String) : Act Nat := do
  Act.say (echoText args)
  pure 0

/-- Prints a format into which its arguments are filled. -/
def printf (args : List String) : Act Nat := do
  match (← Arguments.options "" args).2 with
  | [] => Act.fail "usage: printf format [arg ...]"
  | format :: args =>
    let (filling, verdict) := Format.fill (args.length + 1) format { args }
    let text := String.ofList filling.printed.reverse
    filling.complaints.forM Act.complain
    match verdict with
    | .refused complaint =>
      Act.complain complaint
      Act.say text
      Act.setStatus Act.misuse
      throw .failure
    | _ =>
      Act.say text
      pure (if filling.complaints = [] then 0 else 1)

/-- Tells whether a condition holds. -/
def test (args : List String) : Act Nat := do
  match Condition.holds (← get).process args with
  | .ok holds => pure (if holds then 0 else 1)
  | .error complaint => Act.fail complaint

/-- Tells whether a condition in brackets holds. -/
def bracket (args : List String) : Act Nat :=
  if args.getLast? = some "]" then test args.dropLast else Act.fail "missing ]"

end LineShell.Machine.Script.Own
