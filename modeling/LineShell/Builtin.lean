/-
  LineShell.Builtin

  Commands that the shell carries out itself. A builtin looks at a command and either
  declines it or offers an `Action`: the tree of its requests to standard output, each
  followed by what the action does with the answer. An action knows the stream by these
  answers only; it can see neither what else was written nor what becomes of its bytes.

  A builtin is by definition carried out within the shell, without a process of its own, and
  the shell hands it nothing but the environment and standard output. So no action starts a
  program or asks the machine for anything, and all that a builtin keeps from one command to
  the next is in the environment. A command that needs more than this is here a program.
-/
import LineShell.Environment
import LineShell.Failure
import LineShell.Sink

namespace LineShell

/-- What a builtin does. -/
inductive Action where
  /-- It ends with this result and leaves this environment. -/
  | done (result : Except Failure Status) (env : Environment)
  /-- It writes bytes to standard output and goes on with the answer. -/
  | write (bytes : Bytes) (next : Except IoError Unit → Action)
  /-- It flushes standard output and goes on with the answer. -/
  | flush (next : Except IoError Unit → Action)

namespace Action

/-- What an action came to. -/
structure Outcome where
  result : Except Failure Status
  env : Environment
  out : Sink

/-- Carries out an action on a stream. -/
def perform : Action → Sink → Outcome
  | done result env, out => ⟨result, env, out⟩
  | write bytes next, out =>
    let (answer, out) := out.write bytes
    (next answer).perform out
  | flush next, out =>
    let (answer, out) := out.flush
    (next answer).perform out

/-- Ends with success. -/
def succeed (env : Environment) (status : Status) : Action := done (.ok status) env

/-- Ends with a failure. -/
def fail (env : Environment) (failure : Failure) : Action := done (.error failure) env

/-- Writes pieces one after the other and then goes on; a failed write ends the action at
    once, with the environment `env`. -/
def print (env : Environment) : List Bytes → Action → Action
  | [], next => next
  | piece :: pieces, next =>
    write piece fun
      | .ok () => print env pieces next
      | .error error => fail env (.io error)

end Action

/-- A command of the shell itself. -/
structure Builtin where
  /-- The action for a command with this name and these arguments, given the environment
      before it; `none` if the builtin does not accept the command. -/
  offer : Environment → String → List String → Option Action

namespace Builtin

/-- The builtin that accepts exactly the commands with one name. -/
def named (name : String) (action : Environment → List String → Action) : Builtin where
  offer env called args := if called = name then some (action env args) else none

/-- The offer of the first builtin that accepts a command. -/
def dispatch (builtins : List Builtin) (env : Environment) (name : String)
    (args : List String) : Option Action :=
  builtins.findSome? fun builtin => builtin.offer env name args

end Builtin
end LineShell
