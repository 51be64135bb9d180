/-
  LineShell.Interpreter

  The interpreter of command lines. `Shell.run` carries out one command, given as a list
  of words, `Shell.executeLine` one line of text, and `Shell.repl` all lines of an input.

  A command that fails does not stop the shell: the failure is reported on standard error
  and turned into a status. The shell stops only where it lost track of a process, where
  the report itself cannot be written, where its input cannot be read, or where it cannot
  prompt.

  Two things are left out. The memory for the words of a line and for a path is always
  there. And nothing is logged: the log goes to the standard error of the process that the
  shell runs in, past the stream for its reports, and changes neither a status nor the
  environment. By default one line of it would be seen there, the warning that `recover`
  has met a failure which is not one of the shell's own.
-/
import LineShell.Builtin
import LineShell.Host
import LineShell.Input
import LineShell.Line
import LineShell.Lookup

namespace LineShell

/-- The name of a shell that was not called by any name. -/
def Config.defaultName : String := "simple_shell"

/-- The settings of a shell. -/
structure Config where
  /-- The name that stands in front of every report. -/
  programName : String := Config.defaultName
  /-- What is written before a line is read, in interactive use. -/
  prompt : String := "$ "
  /-- Whether the shell prompts. -/
  interactive : Bool := false
  deriving DecidableEq, Repr

/-- A shell on a machine with states in `σ`: what does not change while it runs. -/
structure Shell (σ : Type) where
  config : Config := {}
  /-- The builtins; the first that accepts a command carries it out. -/
  builtins : List Builtin
  host : Host σ

/-- A shell at work: what changes while it runs. -/
structure State (σ : Type) where
  env : Environment
  out : Sink
  err : Sink
  /-- The state of the machine. -/
  world : σ
  /-- The orders to start a program, and what became of each, in their order. -/
  children : List Child := []

/-- How the shell goes on after a command. -/
inductive Flow where
  /-- It goes on, with this status as the last one. -/
  | resume (status : Status)
  /-- It is to end with this status. -/
  | terminate (status : Status)
  deriving DecidableEq, Repr

/-- The status that a flow carries. -/
def Flow.status : Flow → Status
  | resume status => status
  | terminate status => status

namespace State

variable {σ : Type}

/-- Records the status of a command. -/
def record (st : State σ) (status : Status) : State σ :=
  { st with env := { st.env with lastStatus := status } }

/-- Records the status of a command that was no builtin. -/
def recordExternal (st : State σ) (status : Status) : State σ :=
  { st with env := { st.env with lastStatus := status, lastExternalStatus := status } }

/-- Writes pieces to standard output. -/
def print (st : State σ) (pieces : List Bytes) : Except IoError Unit × State σ :=
  let (answer, out) := st.out.writeAll pieces
  (answer, { st with out })

/-- Writes pieces to standard error. -/
def complain (st : State σ) (pieces : List Bytes) : Except IoError Unit × State σ :=
  let (answer, err) := st.err.writeAll pieces
  (answer, { st with err })

/-- Flushes standard output. -/
def flush (st : State σ) : Except IoError Unit × State σ :=
  let (answer, out) := st.out.flush
  (answer, { st with out })

end State

/-! ## Programs -/

/-- A command that is a program. -/
structure External where
  /-- The name as it was typed, which the program sees as its own. -/
  name : String
  /-- The file to execute. -/
  program : String
  args : List String
  deriving DecidableEq, Repr

namespace External

/-- The order to start the program with exactly the given variables. -/
def launch (command : External) (env : Environment) : Launch :=
  ⟨command.program, command.name :: command.args, Block.ofVars env.vars⟩

/-- The failure of an order that holds the character NUL. -/
def nulError : IoError := .custom .invalidInput "nul byte found in provided data"

/-- Starts the program and waits for its end. An order with NUL never reaches the
    machine. -/
def execute {σ : Type} (command : External) (host : Host σ) (st : State σ) :
    Except ShellError Status × State σ :=
  let launch := command.launch st.env
  if launch.hasNul then (.error (.exec nulError), st)
  else
    let (report, world) := host.start st.world launch
    let st := { st with
      world
      out := st.out.receive report.out
      err := st.err.receive report.err
      children := st.children ++ [⟨launch, report⟩] }
    match report.fate with
    | .refused error => (.error (ShellError.ofStartError error), st)
    | .lost error => (.error (.wait error), st)
    | .ended word => (.ok (ProcessEnd.ofWord word).status, st)

end External

namespace Shell

variable {σ : Type}

/-! ## Reports -/

/-- The pieces of a report on a command. The message is one piece, though a stream may be
    given its text in parts. No answers of a stream are lost by this: it takes all parts, or
    it takes some, accepts the beginning of the next one and fails; of the whole message it
    has then accepted a beginning, and a device can answer just so. It can do so for each
    report by itself, since it sees all earlier requests, and these grow along a run. -/
def reportPieces (programName name message : String) : List Bytes :=
  [programName, ": 1: ", name, ": ", message, "\n"].map Utf8.encode

/-- Writes a report on a command to standard error and gives the command a status. -/
def report (sh : Shell σ) (name message : String) (status : Status) (st : State σ) :
    Except Failure Status × State σ :=
  match st.complain (reportPieces sh.config.programName name message) with
  | (.ok (), st) => (.ok status, st)
  | (.error error, st) => (.error (.io error), st)

/-- Turns the failure of a command into a report and a status, unless it is fatal. -/
def recover (sh : Shell σ) (name : String) (failure : Failure) (st : State σ) :
    Except Failure Status × State σ :=
  match failure with
  | .shell error =>
    if error.isFatal then (.error (.shell error), st)
    else sh.report name error.message error.status st
  | failure => sh.report name failure.fullText Status.failure st

/-- The status of a command, whether it succeeded or failed. -/
def settle (sh : Shell σ) (name : String) :
    Except Failure Status × State σ → Except Failure Status × State σ
  | (.ok status, st) => (.ok status, st)
  | (.error failure, st) => sh.recover name failure st

/-! ## One command -/

/-- Finds, starts and awaits the program of a command. What the shell has written is
    flushed first, since the program writes to the same place on its own. -/
def runExternal (sh : Shell σ) (name : String) (args : List String) (st : State σ) :
    Except Failure Status × State σ :=
  match Lookup.find (sh.host.pathExists st.world) (st.env.get? "PATH") name with
  | .error error => (.error (.shell error), st)
  | .ok location =>
    match st.flush with
    | (.error error, st) => (.error (.io error), st)
    | (.ok (), st) =>
      match External.execute ⟨name, location.path, args⟩ sh.host st with
      | (.ok status, st) => (.ok status, st)
      | (.error error, st) => (.error (.shell error), st)

/-- Carries out the action of a builtin on standard output. -/
def perform (action : Action) (st : State σ) : Except Failure Status × State σ :=
  let outcome := action.perform st.out
  (outcome.result, { st with env := outcome.env, out := outcome.out })

/-- Carries out a command that no builtin accepts. -/
def runProgram (sh : Shell σ) (name : String) (args : List String) (st : State σ) :
    Except Failure Flow × State σ :=
  match sh.settle name (sh.runExternal name args st) with
  | (.ok status, st) => (.ok (.resume status), st.recordExternal status)
  | (.error failure, st) => (.error failure, st)

/-- Carries out the action that a builtin offered. If the action succeeds while the
    request to end the shell stands, the shell is to end. -/
def runBuiltin (sh : Shell σ) (name : String) (action : Action) (st : State σ) :
    Except Failure Flow × State σ :=
  match perform action st with
  | (.ok status, st) =>
    (.ok (if st.env.shouldExit then .terminate status else .resume status),
      st.record status)
  | (.error failure, st) =>
    match sh.recover name failure st with
    | (.ok status, st) => (.ok (.resume status), st.record status)
    | (.error failure, st) => (.error failure, st)

/-- Carries out a command, given as its words. -/
def run (sh : Shell σ) (argv : List String) (st : State σ) :
    Except Failure Flow × State σ :=
  match argv with
  | [] => (.ok (.resume st.env.lastStatus), st)
  | name :: args =>
    match Builtin.dispatch sh.builtins st.env name args with
    | none => sh.runProgram name args st
    | some action => sh.runBuiltin name action st

/-! ## Lines -/

/-- Carries out a line of text. -/
def executeLine (sh : Shell σ) (line : String) (st : State σ) :
    Except Failure Flow × State σ :=
  sh.run (Line.tokens line) st

/-- Prompts, in interactive use. -/
def promptUser (sh : Shell σ) (st : State σ) : Except Failure Unit × State σ :=
  if sh.config.interactive then
    match st.print [Utf8.encode sh.config.prompt] with
    | (.error error, st) => (.error (.io error), st)
    | (.ok (), st) =>
      match st.flush with
      | (.error error, st) => (.error (.io error), st)
      | (.ok (), st) => (.ok (), st)
  else (.ok (), st)

/-- Takes leave at the end of the input. In interactive use the cursor still stands after
    the prompt, so a newline is written. -/
def endOfInput (sh : Shell σ) (st : State σ) : Except Failure Status × State σ :=
  if sh.config.interactive then
    match st.print [Utf8.encode "\n"] with
    | (.error error, st) => (.error (.io error), st)
    | (.ok (), st) => (.ok st.env.lastStatus, st)
  else (.ok st.env.lastStatus, st)

/-- Reads and carries out lines until the input ends, a command ends the shell or the
    shell cannot go on. The result is the status with which the shell ends. -/
def repl (sh : Shell σ) (input : Input) (st : State σ) : Except Failure Status × State σ :=
  match sh.promptUser st with
  | (.error failure, st) => (.error failure, st)
  | (.ok (), st) =>
    match _h : input.readLine with
    | .failed error => (.error (.input error), st)
    | .ended => sh.endOfInput st
    | .line bytes rest =>
      match sh.executeLine (Utf8.decodeLossy bytes) st with
      | (.error failure, st) => (.error failure, st)
      | (.ok (.terminate status), st) => (.ok status, st)
      | (.ok (.resume _), st) => sh.repl rest st
termination_by input.bytes.length
decreasing_by exact Input.length_lt_of_readLine _h

end Shell
end LineShell
