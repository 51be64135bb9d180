/-
  LineShell.IoError

  Failures of input and output: errors of the system, known by their number, and errors
  that a stream reports on its own, known by a kind and perhaps a text.
-/

namespace LineShell

/-- The kinds of failure that the shell tells apart, and those that have a text of their
    own. -/
inductive IoError.Kind where
  | notFound
  | permissionDenied
  | interrupted
  | wouldBlock
  | outOfMemory
  | invalidInput
  | brokenPipe
  | timedOut
  | other
  deriving DecidableEq, Repr

/-- A failure of input or output. -/
inductive IoError where
  /-- The system refused with this error number. -/
  | system (number : Int)
  /-- A failure of a kind, told in its own words. -/
  | custom (kind : IoError.Kind) (text : String)
  /-- A failure of which only the kind is known. -/
  | plain (kind : IoError.Kind)
  deriving DecidableEq, Repr

namespace IoError

/-- The general text of a kind. -/
def Kind.text : Kind → String
  | notFound => "entity not found"
  | permissionDenied => "permission denied"
  | interrupted => "operation interrupted"
  | wouldBlock => "operation would block"
  | outOfMemory => "out of memory"
  | invalidInput => "invalid input parameter"
  | brokenPipe => "broken pipe"
  | timedOut => "timed out"
  | other => "other error"

/-! ## Errors of the system -/

/-- The descriptions of the system's error numbers from 0 on; `none` where a number is
    not in use. -/
def descriptions : List (Option String) :=
  [ some "Success",
    some "Operation not permitted",
    some "No such file or directory",
    some "No such process",
    some "Interrupted system call",
    some "Input/output error",
    some "No such device or address",
    some "Argument list too long",
    some "Exec format error",
    some "Bad file descriptor",
    some "No child processes",
    some "Resource temporarily unavailable",
    some "Cannot allocate memory",
    some "Permission denied",
    some "Bad address",
    some "Block device required",
    some "Device or resource busy",
    some "File exists",
    some "Invalid cross-device link",
    some "No such device",
    some "Not a directory",
    some "Is a directory",
    some "Invalid argument",
    some "Too many open files in system",
    some "Too many open files",
    some "Inappropriate ioctl for device",
    some "Text file busy",
    some "File too large",
    some "No space left on device",
    some "Illegal seek",
    some "Read-only file system",
    some "Too many links",
    some "Broken pipe",
    some "Numerical argument out of domain",
    some "Numerical result out of range",
    some "Resource deadlock avoided",
    some "File name too long",
    some "No locks available",
    some "Function not implemented",
    some "Directory not empty",
    some "Too many levels of symbolic links",
    none,
    some "No message of desired type",
    some "Identifier removed",
    some "Channel number out of range",
    some "Level 2 not synchronized",
    some "Level 3 halted",
    some "Level 3 reset",
    some "Link number out of range",
    some "Protocol driver not attached",
    some "No CSI structure available",
    some "Level 2 halted",
    some "Invalid exchange",
    some "Invalid request descriptor",
    some "Exchange full",
    some "No anode",
    some "Invalid request code",
    some "Invalid slot",
    none,
    some "Bad font file format",
    some "Device not a stream",
    some "No data available",
    some "Timer expired",
    some "Out of streams resources",
    some "Machine is not on the network",
    some "Package not installed",
    some "Object is remote",
    some "Link has been severed",
    some "Advertise error",
    some "Srmount error",
    some "Communication error on send",
    some "Protocol error",
    some "Multihop attempted",
    some "RFS specific error",
    some "Bad message",
    some "Value too large for defined data type",
    some "Name not unique on network",
    some "File descriptor in bad state",
    some "Remote address changed",
    some "Can not access a needed shared library",
    some "Accessing a corrupted shared library",
    some ".lib section in a.out corrupted",
    some "Attempting to link in too many shared libraries",
    some "Cannot exec a shared library directly",
    some "Invalid or incomplete multibyte or wide character",
    some "Interrupted system call should be restarted",
    some "Streams pipe error",
    some "Too many users",
    some "Socket operation on non-socket",
    some "Destination address required",
    some "Message too long",
    some "Protocol wrong type for socket",
    some "Protocol not available",
    some "Protocol not supported",
    some "Socket type not supported",
    some "Operation not supported",
    some "Protocol family not supported",
    some "Address family not supported by protocol",
    some "Address already in use",
    some "Cannot assign requested address",
    some "Network is down",
    some "Network is unreachable",
    some "Network dropped connection on reset",
    some "Software caused connection abort",
    some "Connection reset by peer",
    some "No buffer space available",
    some "Transport endpoint is already connected",
    some "Transport endpoint is not connected",
    some "Cannot send after transport endpoint shutdown",
    some "Too many references: cannot splice",
    some "Connection timed out",
    some "Connection refused",
    some "Host is down",
    some "No route to host",
    some "Operation already in progress",
    some "Operation now in progress",
    some "Stale file handle",
    some "Structure needs cleaning",
    some "Not a XENIX named type file",
    some "No XENIX semaphores available",
    some "Is a named type file",
    some "Remote I/O error",
    some "Disk quota exceeded",
    some "No medium found",
    some "Wrong medium type",
    some "Operation canceled",
    some "Required key not available",
    some "Key has expired",
    some "Key has been revoked",
    some "Key was rejected by service",
    some "Owner died",
    some "State not recoverable",
    some "Operation not possible due to RF-kill",
    some "Memory page has hardware error" ]

/-- The description of an error number. -/
def describe (number : Int) : String :=
  let known := if number < 0 then none else (descriptions[number.toNat]?).join
  known.getD s!"Unknown error {number}"

/-- The reason that a failure gives, without its number. -/
def reason : IoError → String
  | system number => describe number
  | custom _ text => text
  | plain kind => kind.text

/-- The kind of an error number. -/
def kindOfNumber (number : Int) : Kind :=
  if number = 2 then .notFound
  else if number = 1 ∨ number = 13 then .permissionDenied
  else if number = 4 then .interrupted
  else if number = 11 then .wouldBlock
  else if number = 12 then .outOfMemory
  else if number = 22 then .invalidInput
  else if number = 32 then .brokenPipe
  else if number = 110 then .timedOut
  else .other

/-- The kind of a failure. -/
def kind : IoError → Kind
  | system number => kindOfNumber number
  | custom kind _ => kind
  | plain kind => kind

/-- The text of a failure. -/
def text : IoError → String
  | system number => s!"{describe number} (os error {number})"
  | custom _ text => text
  | plain kind => kind.text

/-! ## Errors that the machine gives -/

/-- A file or directory on the way does not exist. -/
def noEntry : IoError := system 2

/-- The list of arguments or one of them is too long. -/
def argumentsTooLong : IoError := system 7

/-- The file is no program in a known format. -/
def badFormat : IoError := system 8

/-- The descriptor is not open, or not for this. -/
def badDescriptor : IoError := system 9

/-- The file may not be used this way. -/
def accessDenied : IoError := system 13

/-- The file is in use. -/
def busy : IoError := system 16

/-- A file of this name exists already. -/
def fileExists : IoError := system 17

/-- A name on the way, not the last one, is no directory. -/
def notDirectory : IoError := system 20

/-- The name stands for a directory. -/
def isDirectory : IoError := system 21

/-- The name cannot be used for this. -/
def badArgument : IoError := system 22

/-- There is no room left for what is written. -/
def noSpace : IoError := system 28

/-- A path or one of its names is too long. -/
def nameTooLong : IoError := system 36

/-- The directory still holds something. -/
def notEmpty : IoError := system 39

/-- Too many symbolic links on the way. -/
def tooManyLinks : IoError := system 40

end IoError
end LineShell
