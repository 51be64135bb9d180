/-
  LineShell.Machine.Script.Invocation

  How a script is started: the variables that it finds, and the arguments that tell which
  settings are on and where the text of the script is.
-/
import LineShell.Machine.Script.Evaluation

namespace LineShell.Machine.Script

/-! ## Variables -/

/-- The variables that every script has, with their values as far as they have some. -/
def State.standardVariables : List Variable :=
  [{ name := "OPTIND" }, { name := "PS4", value := some "+ " },
   { name := "PS2", value := some "> " }, { name := "PS1", value := some "# " },
   { name := "PATH", value := some programSearch }, { name := "MAILPATH" },
   { name := "MAIL" }, { name := "IFS" }]

/-- Sets a variable whatever it was, and marks it. -/
def State.force (st : State) (name value : String) (mark : Variable → Variable) : State :=
  let old := (st.binding? name).getD { name }
  st.putVariable (mark { old with value := some value })

/-- Whether a path of the environment is that of the working directory. -/
def isWorkingDirectory (p : Process) (path : String) : Bool :=
  path.toList.head? = some '/' &&
    match p.machine.found (Text.Raw.toText path) with
    | .ok (place, _) => place = p.directory
    | .error _ => false

/-- The state of a script at its start. -/
def State.initial (p : Process) (block : Variables) (name : String) : State :=
  let valid := block.filter fun pair => isName pair.1.toList
  let given := (valid.lookup "PWD").filter (isWorkingDirectory p)
  let path := given.getD (Own.pathOf p.directory)
  let exported (v : Variable) : Variable := { v with exported := true }
  let st : State :=
    { process := p, name, root := p.number, path, args := [],
      vars := standardVariables }
  let st := valid.foldl (fun st pair => st.force pair.1 pair.2 exported) st
  let st := st.force "IFS" fieldBlanks id
  let st := st.force "OPTIND" "1" id
  let st := st.force "PPID" (toString (p.ancestors.headD 0)) id
  st.force "PWD" path exported

/-! ## Arguments -/

/-- What the arguments say about the text of the script. -/
structure Invocation where
  /-- Whether the text is an argument. -/
  isArgument : Bool := false
  operands : List String := []

namespace Invocation

/-- Reads the letters of one option. The arguments behind it may be names of settings; gives
    those that are not, and whether the text of the script is an argument. -/
def readLetters (on : Bool) (rest : List String) : List Char → Act (Bool × List String)
  | [] => pure (false, rest)
  | 'c' :: letters => do
    let (_, rest) ← readLetters on rest letters
    pure (true, rest)
  | 'l' :: letters => readLetters on rest letters
  | 'o' :: letters => do
    Own.switchNamed on rest.head?
    readLetters on (rest.drop 1) letters
  | letter :: letters => do
    Own.switchLetter on letter
    readLetters on rest letters

/-- Reads the options. The fuel is more than the number of arguments. -/
def read : Nat → List String → Act Invocation
  | 0, args => pure { operands := args }
  | fuel + 1, args =>
    match args with
    | [] => pure {}
    | arg :: rest =>
      match arg.toList with
      | ['-'] => pure { operands := rest }
      | ['-', '-'] => pure { operands := rest }
      | sign :: letters =>
        if sign = '-' || sign = '+' then do
          let (isArgument, rest) ← readLetters (sign = '-') rest letters
          let later ← read fuel rest
          pure { later with isArgument := later.isArgument || isArgument }
        else pure { operands := args }
      | [] => pure { operands := args }

end Invocation

namespace Engine

/-- Carries out what a process can read as a script. -/
def runInput (engine : Engine) : Act Unit := do
  modify (Own.switch 's' true)
  match (← get).process.content 0 with
  | .error _ => pure ()
  | .ok content =>
    Act.modifyProcess (·.skip 0 content.length)
    engine.runContent content

/-- Carries out the file with a name as a script with some arguments. -/
def runFile (engine : Engine) (name : String) (args : List String) : Act Unit := do
  let st ← get
  match st.process.openFile { reads := true } (Text.Raw.toText name) with
  | .error error => Target.refuse false name error
  | .ok (p, opening) =>
    set { st with name, args }
    match p.contentFrom opening with
    | .error _ => pure ()
    | .ok content => engine.runContent content

/-- Carries out the script that the arguments tell. -/
def runInvocation (engine : Engine) (args : List String) : Act Unit := do
  let invocation ← Invocation.read (args.length + 1) args
  match invocation.isArgument, invocation.operands with
  | true, [] => Act.fail "-c requires an argument"
  | true, text :: operands => do
    modify fun st => { st with name := operands.headD st.name, args := operands.drop 1 }
    engine.runText { last := true } text
  | false, operands => do
    match operands, ← Act.isOn 's' with
    | name :: args, false => engine.runFile name args
    | args, _ =>
      modify fun st => { st with args }
      engine.runInput

/-- Runs a script from its start to its end. -/
def runScript (engine : Engine) (block : Variables) (argv : List String) :
    EStateM Unit Process Ending := do
  let action := engine.whole (engine.runInvocation (argv.drop 1))
  match action.run (State.initial (← get) block (argv.headD "")) with
  | .ok ending st => do
    set st.process
    pure ending
  | .error _ st => do
    set st.process
    throw ()

end Engine
end LineShell.Machine.Script
