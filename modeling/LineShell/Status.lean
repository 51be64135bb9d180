/-
  LineShell.Status

  Exit statuses of commands, and how the end of a process becomes one.

  A status is a signed 32-bit number: 0 is success, and -1 is kept for a process that
  could not be created or whose end cannot be told. The system reports the end of a
  process as one word, which `ProcessEnd.ofWord` takes apart.
-/

namespace LineShell

/-- The status of a command. -/
abbrev Status := Int32

namespace Status

/-- The status of a command that was not found or whose file could not be executed. -/
def notFound : Status := 127

/-- The status of a builtin that was given bad arguments. -/
def usage : Status := 2

/-- The status of a command that failed for any other reason. -/
def failure : Status := 1

/-- The status of a command for which no process could be created. -/
def noProcess : Status := -1

/-- What is added to the number of the signal that ended a process. -/
def signalBase : Status := 128

/-- The part of a status that the system keeps when the shell itself ends with it: the
    low eight bits. -/
def exitByte (status : Status) : UInt8 := status.toUInt32.toUInt8

end Status

/-- How a process ended. -/
inductive ProcessEnd where
  /-- It ended by itself with this code, from 0 to 255. -/
  | exited (code : Int32)
  /-- It was ended by this signal, from 1 to 126. -/
  | signaled (signal : Int32)
  /-- The report tells of neither. -/
  | unclear
  deriving DecidableEq, Repr

namespace ProcessEnd

/-- Reads the word with which the system reports the end of a process: the low seven bits
    are 0 for an exit, whose code stands in the second byte, and 127 for a process that
    has only stopped; otherwise they are the number of the signal. -/
def ofWord (word : Int32) : ProcessEnd :=
  let low := word &&& 0x7F
  if low = 0 then exited ((word >>> 8) &&& 0xFF)
  else if low = 0x7F then unclear
  else signaled low

/-- The status of a command whose process ended this way. -/
def status : ProcessEnd → Status
  | exited code => code
  | signaled signal => Status.signalBase + signal
  | unclear => Status.noProcess

end ProcessEnd
end LineShell
