/-
  LineShell.Host

  The machine as the shell sees it: it can be asked whether a path leads to a file, and
  it can be told to start a program and to report its end. A `Host` answers from a state
  of any type, so that every file system and every behaviour of programs is some host.
  That a process cannot be created, or cannot be waited for, is one of these answers.
-/
import LineShell.Block
import LineShell.IoError
import LineShell.Status

namespace LineShell

/-- An order to start a program. -/
structure Launch where
  /-- The file to execute. -/
  program : String
  /-- The arguments, the name of the command first. -/
  argv : List String
  /-- The environment of the new process. -/
  block : Block
  deriving DecidableEq, Repr

namespace Launch

/-- Whether some text of the order holds the character NUL, which no string that is
    handed to the system can hold. -/
def hasNul (launch : Launch) : Bool :=
  (launch.program :: launch.argv).any (fun text => text.toList.contains '\x00') ||
    launch.block.any fun (key, value) => key.contains 0 || value.contains 0

end Launch

/-- What became of an order to start a program. -/
inductive Fate where
  /-- The program was not started. -/
  | refused (error : IoError)
  /-- The program was started, and its end could not be awaited. -/
  | lost (error : IoError)
  /-- The program ended, and this word tells how. -/
  | ended (word : Int32)
  deriving DecidableEq, Repr

/-- What a started program wrote and what became of it. -/
structure Report where
  out : Bytes := []
  err : Bytes := []
  fate : Fate
  deriving DecidableEq, Repr

/-- An order to start a program, and what became of it. -/
structure Child where
  launch : Launch
  report : Report
  deriving DecidableEq, Repr

/-- A machine with states in `σ`. -/
structure Host (σ : Type) where
  /-- Whether a path leads to a file of any kind. -/
  pathExists : σ → String → Bool
  /-- Starts a program and waits for its end. -/
  start : σ → Launch → Report × σ

end LineShell
