/-
  LineShell.Failure

  What can go wrong, as causes. `ShellError` holds the failures of a command line that
  the shell knows by name, and gives each its text, its status and whether the shell can
  go on after it. `Failure` adds what comes from the streams and from builtins.
-/
import LineShell.IoError
import LineShell.Status
import LineShell.Text.Blank

namespace LineShell

/-- A named failure on the way from a command line to a finished process. -/
inductive ShellError where
  /-- The name of the command leads to no file. -/
  | notFound
  /-- A number was expected, and this text is none. -/
  | illegalNumber (text : String)
  /-- A builtin rejects its arguments with this text. -/
  | usage (text : String)
  /-- A buffer could not grow. -/
  | outOfMemory
  /-- A process was created, but the file could not be executed in it. -/
  | exec (error : IoError)
  /-- No process could be created. -/
  | spawn (error : IoError)
  /-- The end of a process could not be awaited. -/
  | wait (error : IoError)
  deriving DecidableEq, Repr

namespace ShellError

/-- Why a file could not be executed, in the words of a shell. -/
def execReason (error : IoError) : String :=
  match error.kind with
  | .notFound => "not found"
  | .permissionDenied => "Permission denied"
  | _ => error.text

/-- The text of an error. -/
def message : ShellError → String
  | notFound => "not found"
  | illegalNumber text => "Illegal number: " ++ text
  | usage text => Text.trimEnd text
  | outOfMemory => "cannot allocate memory"
  | exec error => execReason error
  | spawn error => "cannot spawn process: " ++ error.text
  | wait error => "failed to wait for child process: " ++ error.text

/-- The status of a command line that ends with the error. -/
def status : ShellError → Status
  | notFound => Status.notFound
  | illegalNumber _ => Status.usage
  | usage _ => Status.usage
  | outOfMemory => Status.failure
  | exec _ => Status.notFound
  | spawn _ => Status.noProcess
  | wait _ => Status.noProcess

/-- Whether the shell stops after the error: only if it lost track of a process. -/
def isFatal : ShellError → Bool
  | wait _ => true
  | _ => false

/-- The input-output failure behind an error. -/
def source? : ShellError → Option IoError
  | exec error => some error
  | spawn error => some error
  | wait error => some error
  | _ => none

/-- Why a program was not started. Only a lack of resources means that there was no
    process; any other error comes from the attempt to execute the file. -/
def ofStartError (error : IoError) : ShellError :=
  match error.kind with
  | .wouldBlock => spawn error
  | .outOfMemory => spawn error
  | _ => exec error

end ShellError

/-- Anything that makes a command or the shell fail. -/
inductive Failure where
  /-- A named error of the shell. -/
  | shell (error : ShellError)
  /-- A write to a stream or a flush failed. -/
  | io (error : IoError)
  /-- Standard input could not be read. -/
  | input (error : IoError)
  /-- A builtin failed for reasons of its own, the outermost first. -/
  | general (reasons : List String)
  deriving DecidableEq, Repr

namespace Failure

/-- The reasons of a failure, the outermost first. -/
def chain : Failure → List String
  | shell error => error.message :: error.source?.toList.map IoError.text
  | io error => [error.text]
  | input error => ["failed to read standard input", error.text]
  | general reasons => reasons

/-- All reasons of a failure in one text. -/
def fullText (failure : Failure) : String :=
  ": ".intercalate failure.chain

end Failure
end LineShell
