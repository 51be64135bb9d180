/-
  LineShell.Session

  A session: one shell that is given one request after the other. It goes on whatever the
  answers are, also after a command that ended the shell and after an error.
-/
import LineShell.Interpreter

namespace LineShell.Session

/-- A request to a shell. -/
inductive Step where
  /-- Carry out a line of text. -/
  | line (text : String)
  /-- Carry out a command, given as its words. -/
  | command (argv : List String)
  /-- Carry out an input to its end. -/
  | input (input : Input)
  deriving DecidableEq, Repr

/-- What the shell answers to a request that it could carry out. -/
inductive Answer where
  /-- A line or a command: how the shell goes on. -/
  | flow (flow : Flow)
  /-- An input: the status with which the shell ends. -/
  | exit (status : Status)
  deriving DecidableEq, Repr

/-- What is seen of a request: its answer, what was written meanwhile, and the environment
    after it. -/
structure Record where
  answer : Except Failure Answer
  out : Bytes
  err : Bytes
  env : Environment

variable {σ : Type}

/-- Carries out a request. -/
def perform (sh : Shell σ) (st : State σ) : Step → Except Failure Answer × State σ
  | .line text =>
    let (result, st) := sh.executeLine text st
    (result.map .flow, st)
  | .command argv =>
    let (result, st) := sh.run argv st
    (result.map .flow, st)
  | .input input =>
    let (result, st) := sh.repl input st
    (result.map .exit, st)

/-- What is seen of a request that led from one state to another. -/
def observe (answer : Except Failure Answer) (before after : State σ) : Record where
  answer := answer
  out := after.out.shown.drop before.out.shown.length
  err := after.err.shown.drop before.err.shown.length
  env := after.env

/-- Carries out requests in order. -/
def play (sh : Shell σ) (st : State σ) : List Step → List Record × State σ
  | [] => ([], st)
  | step :: steps =>
    let (answer, next) := perform sh st step
    let (records, last) := play sh next steps
    (observe answer st next :: records, last)

end LineShell.Session
