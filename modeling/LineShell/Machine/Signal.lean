/-
  LineShell.Machine.Signal

  Signals by number, the names by which they are sent, what they do to a process that has
  made no arrangements for them, and how a process ends.
-/

namespace LineShell.Machine

/-! ## Signals -/

namespace Signal

/-- The name of a signal by its number, from number 0, which stands for the end of a
    script. A signal without a name goes by its number. -/
def names : List String :=
  ["EXIT", "HUP", "INT", "QUIT", "ILL", "TRAP", "ABRT", "BUS", "FPE", "KILL", "USR1",
   "SEGV", "USR2", "PIPE", "ALRM", "TERM", "16", "CHLD", "CONT", "STOP", "TSTP", "TTIN",
   "TTOU", "URG", "XCPU", "XFSZ", "VTALRM", "PROF", "WINCH", "IO", "PWR", "SYS", "32",
   "33", "RTMIN", "RTMIN+1", "RTMIN+2", "RTMIN+3", "RTMIN+4", "RTMIN+5", "RTMIN+6",
   "RTMIN+7", "RTMIN+8", "RTMIN+9", "RTMIN+10", "RTMIN+11", "RTMIN+12", "RTMIN+13",
   "RTMIN+14", "RTMIN+15", "RTMAX-14", "RTMAX-13", "RTMAX-12", "RTMAX-11", "RTMAX-10",
   "RTMAX-9", "RTMAX-8", "RTMAX-7", "RTMAX-6", "RTMAX-5", "RTMAX-4", "RTMAX-3",
   "RTMAX-2", "RTMAX-1", "RTMAX"]

/-- What is said of a process that a signal has ended, by the number of the signal, as far
    as there is an own text for it. -/
def texts : List String :=
  ["", "Hangup", "Interrupt", "Quit", "Illegal instruction", "Trace/breakpoint trap",
   "Aborted", "Bus error", "Floating point exception", "Killed", "User defined signal 1",
   "Segmentation fault", "User defined signal 2", "Broken pipe", "Alarm clock",
   "Terminated", "Stack fault", "Child exited", "Continued", "Stopped (signal)", "Stopped",
   "Stopped (tty input)", "Stopped (tty output)", "Urgent I/O condition",
   "CPU time limit exceeded", "File size limit exceeded", "Virtual timer expired",
   "Profiling timer expired", "Window changed", "I/O possible", "Power failure",
   "Bad system call"]

/-- The number of the first real-time signal. -/
def firstRealTime : Nat := 34

/-- What is said of a process that a signal has ended. -/
def text (signal : Nat) : String :=
  match texts[signal]? with
  | some text => text
  | none =>
    if signal < firstRealTime then s!"Unknown signal {signal}"
    else s!"Real-time signal {signal - firstRealTime}"

/-- The signals that nobody notices who has not asked for them. -/
def harmless : List Nat := [0, 17, 18, 23, 28]

/-- The signals that stop a process until it is told to continue. -/
def stopping : List Nat := [19, 20, 21, 22]

/-- The signals for which no arrangements can be made. -/
def unstoppable : List Nat := [9, 19]

/-- The number of the signal that ends a process by request. -/
def terminate : Nat := 15

/-- Whether a text is a decimal number. -/
def isNumber (text : String) : Bool :=
  text ≠ "" && text.toList.all Char.isDigit

/-- The number of a signal that is given by its number or, in any case of letters, by its
    name; only numbers and names from `least` on count. -/
def number? (least : Nat) (text : String) : Option Nat :=
  if isNumber text then
    let number := text.toNat?.getD 0
    if number < names.length then some number else none
  else
    match names.idxOf? text.toUpper with
    | some number => if least ≤ number then some number else none
    | none => none

end Signal

/-! ## The end of a process -/

/-- How a program ended. -/
inductive Ending where
  | exited (code : Nat)
  | signaled (signal : Nat)
  deriving DecidableEq, Repr

namespace Ending

/-- The word with which the machine reports it. -/
def word : Ending → Int32
  | exited code => (code % 256 * 256).toInt32
  | signaled signal => signal.toInt32

/-- The status that a script sees. -/
def status : Ending → Nat
  | exited code => code % 256
  | signaled signal => 128 + signal

end Ending
end LineShell.Machine
