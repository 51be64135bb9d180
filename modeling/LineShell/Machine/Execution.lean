/-
  LineShell.Machine.Execution

  Running the programs of a machine. Programs start one another, and so do commands inside
  commands. All of this runs within a depth: the number of programs and commands that may
  still be opened inside each other.

  Like all of the machine, this serves only to run and test the shell (`Machine.Standard`).
-/
import LineShell.Machine.Remove
import LineShell.Machine.Script.Invocation

namespace LineShell.Machine

open Script (Engine Manner Command Act)

/-- Runs a program that does not start others. -/
def runSimple (program : StateM Process Nat) : EStateM Unit Process Ending := do
  let (code, p) := program.run (← get)
  set p
  pure (.exited code)

/-- Runs a program. -/
def runImage (engine : Engine) (block : Variables) (image : Image) :
    EStateM Unit Process Ending :=
  let called := image.argv.headD ""
  let args := image.argv.drop 1
  match image.tool with
  | .changeMode => runSimple (ChangeMode.run called args)
  | .remove => runSimple (Remove.run called args)
  | .runScript => engine.runScript block image.argv
  | .showBlock => do
    let (plan, p) := (ShowBlock.run block called args).run (← get)
    set p
    match plan with
    | .exit code => pure (.exited code)
    | .become block image => engine.runProgram block image

mutual

/-- Carries out a command within a depth. -/
def carryOutWithin : Nat → Manner → Command → Act Unit
  | 0, _, _ => throw .exhausted
  | depth + 1, manner, command =>
    Engine.carryOutWith ⟨carryOutWithin depth, runWithin depth⟩ manner command

/-- Runs a program within a depth. -/
def runWithin : Nat → Variables → Image → EStateM Unit Process Ending
  | 0, _, _ => throw ()
  | depth + 1, block, image =>
    runImage ⟨carryOutWithin depth, runWithin depth⟩ block image

end

/-- How deep programs and commands may stand in one another. -/
def depthLimit : Nat := 2000

/-- How a process ends that asks for more than that. -/
def overstrained : Ending := .signaled 11

/-- Runs a program in a process to its end. -/
def Process.run (p : Process) (block : Variables) (image : Image) : Ending × Process :=
  match (runWithin depthLimit block image).run p with
  | .ok ending p => (ending, p)
  | .error _ p => (overstrained, p)

end LineShell.Machine
