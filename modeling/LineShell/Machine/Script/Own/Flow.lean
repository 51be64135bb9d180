/-
  LineShell.Machine.Script.Own.Flow

  The own commands of a script that change what is carried out next.
-/
import LineShell.Machine.Script.Programs
import LineShell.Machine.Script.Arguments

namespace LineShell.Machine.Script.Own

/-- How many loops an argument speaks of; at most as many as there are. -/
def loopCount (args : List String) : Act Nat := do
  match args with
  | [] => pure (min 1 (← get).loops)
  | text :: _ =>
    let count ← Arguments.number text
    if count = 0 then Arguments.refuseNumber text
    pure (min count (← get).loops)

/-- Leaves loops. -/
def leaveLoops (args : List String) : Act Nat := do
  let count ← loopCount args
  if count ≠ 0 then
    Act.setStatus 0
    throw (.leaveLoops count)
  pure 0

/-- Goes on with the next round of a loop. -/
def nextRound (args : List String) : Act Nat := do
  let count ← loopCount args
  if count ≠ 0 then
    Act.setStatus 0
    throw (.nextRound count)
  pure 0

/-- Leaves a function, or a script inside a script. -/
def leaveFunction (args : List String) : Act Nat := do
  let status ←
    match args with
    | [] => pure (← get).status
    | text :: _ => Arguments.number text
  Act.setStatus status
  throw .leaveFunction

/-- Ends the script. Without an argument its status is the last one; in the action for a
    signal or for the end, it is the one from before. -/
def exit (args : List String) : Act Nat := do
  let st ← get
  let status ←
    match args with
    | [] => pure (st.statusBefore.getD st.status)
    | text :: _ => Arguments.number text
  Act.finish status

/-- Carries out its arguments as a script. -/
def evaluate (engine : Engine) (manner : Manner) (args : List String) : Act Nat := do
  engine.runText { tested := manner.tested } (" ".intercalate args)
  pure (← get).status

/-- The file that holds a script with a name. -/
def scriptFile (name : String) : Act String := do
  if '/' ∈ name.toList then pure name
  else
    let st ← get
    let isFile (path : String) : Bool :=
      match st.process.machine.found (Text.Raw.toText path) with
      | .ok (_, node) => node.isFile
      | .error _ => false
    match (Programs.paths st.search name).find? isFile with
    | some path => pure path
    | none => Act.fail s!"{name}: not found"

/-- Carries out the script that a file holds as part of this one. -/
def carryOutFile (engine : Engine) (args : List String) : Act Nat := do
  match (← Arguments.options "" args).2 with
  | [] => pure 0
  | name :: _ =>
    let path ← scriptFile name
    let st ← get
    match st.process.openFile { reads := true } (Text.Raw.toText path) with
    | .error error =>
      let told := if Programs.isAbsence error then "No such file" else error.reason
      Act.fail s!"cannot open {path}: {told}"
    | .ok (p, opening) =>
      match p.contentFrom opening with
      | .error _ => pure 0
      | .ok content =>
        Act.named (some path) do
          try
            engine.runContent content
          catch stop =>
            match stop with
            | .leaveFunction => pure ()
            | stop => throw stop
        pure (← get).status

/-- Runs a program instead of the script. -/
def replace (engine : Engine) (args : List String) : Act Nat := do
  match (← Arguments.options "" args).2 with
  | [] => pure 0
  | argv =>
    let st ← get
    Programs.start engine argv (Programs.paths st.search (argv.headD ""))
    pure 0

/-- Shows how much time has been used. The machine needs none. -/
def times (_ : List String) : Act Nat := do
  Act.say "0m0.000000s 0m0.000000s\n0m0.000000s 0m0.000000s\n"
  pure 0

/-- Shows a limit. There are none. -/
def limits (args : List String) : Act Nat := do
  let (_, operands) ← Arguments.options "HSatfdsmcnlpvwr" args
  if operands = [] then Act.say "unlimited\n"
  pure 0

end LineShell.Machine.Script.Own
