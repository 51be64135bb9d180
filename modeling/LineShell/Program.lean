/-
  LineShell.Program

  The shell as a program: from its name, its arguments, its environment and its standard
  input to its exit code and what it writes. The program takes no operands. It runs the
  shell with the standard builtins on its standard input, and prompts if that is a terminal.

  The log is left out. A process adds a line with the time to its standard error when a
  command fails for a reason that has no name, and another when a failure ends the shell;
  here standard error holds the diagnostics only.
-/
import LineShell.Arguments
import LineShell.Builtin.Standard
import LineShell.Interpreter

namespace LineShell.Program

/-- How the program is called. -/
structure Invocation where
  /-- The name under which it is called. -/
  name : Bytes
  args : List Bytes := []
  /-- The entries of its environment. -/
  block : List Bytes := []
  /-- What is read from its standard input. On a terminal the end of the input can be given
      behind a line that no newline ends, and more lines after it; it then stands for this
      newline. -/
  input : Input := ⟨[], none⟩
  /-- Whether its standard input is a terminal. -/
  terminal : Bool := false
  deriving DecidableEq, Repr

/-- What is seen of a run. -/
structure Outcome where
  code : UInt8
  out : Bytes
  err : Bytes
  deriving DecidableEq, Repr

/-- The last component of a path, where empty components and `.` do not count. A path
    without any, and one that ends in `..`, stands for itself. -/
def baseName (path : String) : String :=
  let components := (Text.segments '/' path.toList).filter fun c => c ≠ [] ∧ c ≠ ['.']
  match components.getLast? with
  | none => path
  | some component => if component = ['.', '.'] then path else String.ofList component

/-- The text that explains the program. -/
def helpText (command : String) : String :=
  "Usage: " ++ command ++ "\n\n" ++
  "Minimal interactive command interpreter. Reads commands from standard input, " ++
  "one per line, until end of input or `exit`.\n\n" ++
  "Options:\n" ++
  "  --help, help      display usage information\n"

/-- What the arguments tell the program to do. -/
inductive Order where
  /-- Run the shell under this name. -/
  | runShell (name : String)
  /-- Explain the command of this name. -/
  | showHelp (command : String)
  /-- Refuse the arguments of the command of this name. -/
  | refuse (command : String) (refusal : Arguments.Refusal)
  /-- Refuse an argument that is no text. -/
  | refuseBytes (arg : Bytes)
  deriving DecidableEq, Repr

/-- The texts of byte strings, or the first of them that is no text. -/
def texts : List Bytes → Except Bytes (List String)
  | [] => .ok []
  | bytes :: rest =>
    match Utf8.decode? bytes with
    | none => .error bytes
    | some text => (texts rest).map (text :: ·)

/-- Reads the name and then the arguments. -/
def order (name : Bytes) (args : List Bytes) : Order :=
  match Utf8.decode? name with
  | none => .refuseBytes name
  | some name =>
    match texts args with
    | .error bytes => .refuseBytes bytes
    | .ok args =>
      match Arguments.read 0 args with
      | .error refusal => .refuse (baseName name) refusal
      | .ok .help => .showHelp (baseName name)
      | .ok (.operands _) => .runShell name

/-- The settings of a shell that was called by a name and reads from a terminal or not. A
    shell that was called by no name goes by the default one. -/
def config (name : String) (terminal : Bool) : Config where
  programName := if name = "" then Config.defaultName else name
  interactive := terminal

variable {σ : Type}

/-- The shell as the program runs it. -/
def shell (host : Host σ) (name : String) (terminal : Bool) : Shell σ :=
  ⟨config name terminal, Builtin.standard, host⟩

/-- The shell's state when the program starts, with streams that never fail. -/
def start (world : σ) (block : List Bytes) : State σ where
  env := { vars := Block.capture block }
  out := { device := .reliable }
  err := { device := .reliable }
  world := world

/-- How the program ends after the shell has stopped. -/
def finish (sh : Shell σ) : Except Failure Status × State σ → Outcome × State σ
  | (.ok status, st) => (⟨status.exitByte, st.out.shown, st.err.shown⟩, st)
  | (.error failure, st) =>
    let (_, st) := st.complain
      ([sh.config.programName, ": ", failure.fullText, "\n"].map Utf8.encode)
    (⟨1, st.out.shown, st.err.shown⟩, st)

/-- The exit code of a shell that has ended with a status. -/
theorem code_finish_of_ok {sh : Shell σ} {stopped : Except Failure Status × State σ}
    {status : Status} (h : stopped.1 = .ok status) :
    (finish sh stopped).1.code = status.exitByte := by
  obtain ⟨result, st⟩ := stopped
  cases h
  rfl

/-- Runs the program on a machine. -/
def run (host : Host σ) (world : σ) (call : Invocation) : Outcome × State σ :=
  let st := start world call.block
  match order call.name call.args with
  | .refuseBytes bytes =>
    (⟨1, [], Utf8.encode ("Invalid utf8: " ++ Utf8.decodeLossy bytes ++ "\n")⟩, st)
  | .refuse command refusal =>
    (⟨1, [], Utf8.encode
      (refusal.text ++ "\nRun " ++ command ++ " --help for more information.\n")⟩, st)
  | .showHelp command => (⟨0, Utf8.encode (helpText command ++ "\n"), []⟩, st)
  | .runShell name =>
    let sh := shell host name call.terminal
    finish sh (sh.repl call.input st)

end LineShell.Program
