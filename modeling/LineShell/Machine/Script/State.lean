/-
  LineShell.Machine.Script.State

  A script at work: its process, its variables, functions and settings, and the ways in
  which carrying it out can stop. Every action of a script is an `Act` on this state; what
  an action has changed stays changed even if it stops.
-/
import LineShell.Machine.Process
import LineShell.Machine.Script.Commands
import LineShell.Machine.ShowBlock

namespace LineShell.Machine.Script

/-- A variable. -/
structure Variable where
  name : String
  value : Option String := none
  /-- Whether programs receive it. -/
  exported : Bool := false
  /-- Whether its value stays as it is. -/
  readOnly : Bool := false
  deriving DecidableEq, Repr

/-- A command that was started and not waited for. The machine runs it to its end at
    once. -/
structure Job where
  /-- The number by which the script may call it. -/
  slot : Nat
  process : Nat
  ending : Ending
  /-- Whether its end has been noticed. -/
  noticed : Bool := false
  /-- Whether it has been waited for, so that its number may be given to another job. -/
  waited : Bool := false
  deriving DecidableEq, Repr

/-- What a function has hidden by variables of its own, and the settings that it wants back
    at its end. -/
structure Scope where
  hidden : List (String × Option Variable) := []
  settings : Option (List Char) := none

/-- A script at work. -/
structure State where
  process : Process
  /-- The name of the script. -/
  name : String
  /-- The number of the process that the script was started in. -/
  root : Nat
  /-- The path of the working directory, as the script has come there. -/
  path : String
  args : List String
  vars : List Variable := []
  functions : List (String × Command) := []
  shorthands : List (String × String) := []
  documents : Array Document := #[]
  /-- The letters of the settings that are on. -/
  settings : List Char := []
  /-- What is done when a signal arrives, by its number. Number 0 stands for the end. -/
  traps : List (Nat × String) := []
  /-- The signals that have arrived and that something is still to be done about. -/
  arrived : List Nat := []
  /-- The status of the last command. -/
  status : Nat := 0
  /-- The status before the action for a signal or for the end that is carried out. -/
  statusBefore : Option Nat := none
  /-- The status of the last command inside a word. -/
  innerStatus : Nat := 0
  /-- The functions that are being carried out, the innermost first. -/
  scopes : List Scope := []
  jobs : List Job := []
  lastJob : Option Nat := none
  /-- The line that complaints name. -/
  line : Nat := 0
  /-- The line that has been reached in reading. -/
  sourceLine : Nat := 0
  /-- The command that complaints name. -/
  command : Option String := none
  /-- How many loops the current command stands in. -/
  loops : Nat := 0
  /-- Whether something that the current command wrote was lost. -/
  writingFailed : Bool := false
  /-- The number of the argument that `getopts` reads next. -/
  optionIndex : Nat := 1
  /-- How far it has read the argument before, if that is not done. -/
  optionOffset : Option Nat := none
  /-- The names of the programs that have been found, and whether the working directory has
      changed since. -/
  found : List (String × Bool) := []

/-- How carrying out a script stops. -/
inductive Stop where
  /-- So many loops are left. -/
  | leaveLoops (count : Nat)
  /-- So many loops less one are left, and the next one goes on with its next round. -/
  | nextRound (count : Nat)
  | leaveFunction
  /-- The script ends with the status that has been noted. -/
  | exit
  /-- The same, but a command of the script may go on after it. -/
  | failure
  /-- The process has ended. -/
  | ended (ending : Ending)
  /-- The script does more than the machine bears. -/
  | exhausted
  deriving DecidableEq, Repr

/-- An action of a script. -/
abbrev Act := EStateM Stop State

namespace Act

/-- Notes the status of a command. -/
def setStatus (status : Nat) : Act Unit :=
  modify fun st => { st with status }

/-- Changes the process. -/
def modifyProcess (change : Process → Process) : Act Unit :=
  modify fun st => { st with process := change st.process }

/-- Writes a text to a descriptor, if that is possible. -/
def print (descriptor : Nat) (text : String) : Act Unit :=
  modifyProcess fun p => p.print descriptor text

/-- Writes a text to where a command writes, and notes whether it was lost. -/
def say (text : String) : Act Unit := do
  let st ← get
  match st.process.write 1 text with
  | .ok p => set { st with process := p }
  | .error _ => set { st with writingFailed := true }

/-- Carries out what a program does. -/
def perform {α : Type} (action : StateM Process α) : Act α := do
  let st ← get
  let (result, p) := action.run st.process
  set { st with process := p }
  pure result

/-- A complaint with the place where it arises in front. -/
def complaint (st : State) (text : String) : String :=
  let command := (st.command.map (· ++ ": ")).getD ""
  s!"{st.name}: {st.line}: {command}{text}\n"

/-- Complains. -/
def complain (text : String) : Act Unit := do
  print 2 (complaint (← get) text)

/-- The status of a command that was used wrongly. -/
def misuse : Nat := 2

/-- Complains and stops. -/
def fail {α : Type} (text : String) : Act α := do
  complain text
  setStatus misuse
  throw .failure

/-- Refuses a text that cannot be read. -/
def refuse {α : Type} (fault : Fault) : Act α := do
  modify fun st => { st with line := fault.line }
  fail s!"Syntax error: {fault.text}"

/-- Ends the script with a status. -/
def finish {α : Type} (status : Nat) : Act α := do
  setStatus status
  throw .exit

/-- Carries out an action, and another one after it however it ends. -/
def ensure {α : Type} (action : Act α) (last : Act Unit) : Act α := do
  let result ← try Except.ok <$> action catch stop => pure (Except.error stop)
  last
  match result with
  | .ok value => pure value
  | .error stop => throw stop

/-- Carries out an action under the name of a command. -/
def named {α : Type} (command : Option String) (action : Act α) : Act α := do
  let before := (← get).command
  modify fun st => { st with command }
  ensure action (modify fun st => { st with command := before })

/-- Whether a setting is on. -/
def isOn (letter : Char) : Act Bool := do
  pure ((← get).settings.contains letter)

end Act

/-! ## Variables -/

/-- The blanks at which a value is cut if nothing else is said. -/
def fieldBlanks : String := " \t\n"

/-- Where programs are looked for if nothing else is said. -/
def programSearch : String :=
  "/usr/local/sbin:/usr/local/bin:/usr/sbin:/usr/bin:/sbin:/bin"

namespace State

/-- A variable by its name. -/
def binding? (st : State) (name : String) : Option Variable :=
  st.vars.find? (·.name = name)

/-- The value of a variable. -/
def value? (st : State) (name : String) : Option String :=
  (st.binding? name).bind (·.value)

/-- Puts a variable in the place of the one with the same name. -/
def putVariable (st : State) (entry : Variable) : State :=
  if (st.binding? entry.name).isSome then
    { st with vars :=
        st.vars.map fun old => if old.name = entry.name then entry else old }
  else { st with vars := st.vars ++ [entry] }

/-- Forgets a variable. -/
def dropVariable (st : State) (name : String) : State :=
  { st with vars := st.vars.filter (·.name ≠ name) }

/-- How many lists the variables are kept in. -/
def listCount : Nat := 39

/-- The number of the list that a variable is kept in. It tells where the variable stands
    in the environment of a program. -/
def listOf (name : String) : Nat :=
  let codes := name.toList.map Char.toNat
  (codes.headD 0 * 16 + codes.foldl (· + ·) 0) % listCount

/-- The environment of the programs that the script starts. -/
def block (st : State) : Variables :=
  let exported := st.vars.filter fun v => v.exported && v.value.isSome
  (exported.mergeSort fun a b => listOf a.name ≤ listOf b.name).map fun v =>
    (v.name, v.value.getD "")

/-- Where programs are looked for. -/
def search (st : State) : String := (st.value? "PATH").getD ""

end State

namespace Act

/-- Sets a variable, or forgets its value, and marks it as `mark` says. -/
def setVariable (name : String) (value : Option String) (mark : Variable → Variable) :
    Act Unit := do
  let st ← get
  let old := (st.binding? name).getD { name }
  if old.readOnly then fail s!"{name}: is read only"
  else
    let exported := old.exported || (value.isSome && st.settings.contains 'a')
    set (st.putVariable (mark { old with value, exported }))
    if name = "OPTIND" then
      modify fun st =>
        { st with
          optionIndex := max (((value.getD "").toNat?).getD 1) 1
          optionOffset := none }
    if name = "PATH" then
      modify fun st => { st with found := [] }

/-- Sets a variable. -/
def assign (name value : String) : Act Unit := setVariable name (some value) id

/-- Refuses what is no name of a variable. -/
def demandName (name : String) : Act Unit :=
  if isName name.toList then pure () else fail s!"{name}: bad variable name"

/-- Hides a variable until the end of the innermost scope. -/
def hide (name : String) : Act Unit :=
  modify fun st =>
    match st.scopes with
    | [] => st
    | scope :: outer =>
      if scope.hidden.any (·.1 = name) then st
      else
        { st with scopes :=
            { scope with hidden := (name, st.binding? name) :: scope.hidden } :: outer }

/-- Opens a scope. -/
def openScope : Act Unit :=
  modify fun st => { st with scopes := {} :: st.scopes }

/-- Closes the innermost scope, and brings back what it has hidden. -/
def closeScope : Act Unit :=
  modify fun st =>
    match st.scopes with
    | [] => st
    | scope :: outer =>
      let st := scope.hidden.foldl (fun (st : State) (name, old) =>
        match old with
        | some entry => st.putVariable entry
        | none => st.dropVariable name) { st with scopes := outer }
      { st with settings := scope.settings.getD st.settings }

end Act

/-! ## Quoting -/

/-- A text in quotes that a script takes away again. -/
def inQuotes (text : String) : String :=
  let quote := Char.ofNat 0x27
  let runs := text.toList.splitBy fun a b => (a = quote) == (b = quote)
  let start := if text.toList.head?.all (· = quote) then [quote, quote] else []
  let shown := runs.map fun run =>
    if run.head? = some quote then '"' :: run ++ ['"'] else quote :: run ++ [quote]
  String.ofList (start ++ shown.flatten)

end LineShell.Machine.Script
