/-
  LineShell.Machine.Files

  The files of a machine, and the way from a path to a file.

  Files are kept by their place, the list of names that leads to them from the root. A
  path is walked name by name; symbolic links are followed, up to a fixed number of them.
  A path that ends in a slash ends in an empty name, which leads to directories only. All
  programs run for the owner of all files, so that of the permissions of a file only those
  of its owner count.

  Like all of the machine, this serves only to run and test the shell (`Machine.Standard`).
-/
import LineShell.IoError
import LineShell.Machine.Mode
import LineShell.Text.Fields
import LineShell.Text.Utf8

namespace LineShell.Machine

/-- The programs that every machine has. -/
inductive Tool where
  /-- Runs a script. -/
  | runScript
  /-- Prints its environment. -/
  | showBlock
  /-- Changes whether files may be executed. -/
  | changeMode
  /-- Removes files. -/
  | remove
  deriving DecidableEq, Repr

/-- The files that hold nothing and do something instead. -/
inductive Special where
  /-- Swallows everything and is always empty. -/
  | null
  /-- Swallows everything and holds NUL without end. -/
  | zero
  /-- Has no room for anything. -/
  | full
  /-- Stands for what a descriptor of the program leads to. -/
  | descriptor (number : Nat)
  deriving DecidableEq, Repr

/-- What can be found at a place. -/
inductive Node where
  | file (mode : Mode) (content : Bytes)
  | tool (tool : Tool)
  | directory (mode : Mode)
  | link (target : String)
  | special (special : Special)
  deriving DecidableEq, Repr

namespace Node

/-- The permissions of what is found. -/
def mode : Node → Mode
  | file mode _ => mode
  | tool _ => .ofProgram
  | directory mode => mode
  | link _ => ⟨0o777⟩
  | special _ => ⟨0o666⟩

/-- The same with other permissions. -/
def withMode (node : Node) (mode : Mode) : Node :=
  match node with
  | file _ content => file mode content
  | directory _ => directory mode
  | node => node

/-- Whether this is a directory. -/
def isDirectory : Node → Bool
  | directory _ => true
  | _ => false

/-- Whether this is a file with a content. -/
def isFile : Node → Bool
  | file _ _ => true
  | tool _ => true
  | _ => false

/-- A directory with the usual permissions. -/
def plainDirectory : Node := directory .ofProgram

end Node

/-- The names that lead from the root to a file. -/
abbrev Place := List String

/-! ## The tree of files -/

/-- The files of a machine by their place. The root is always there. -/
structure Files where
  nodes : List (Place × Node) := []
  deriving DecidableEq, Repr

namespace Files

/-- What is at a place. -/
def node? (files : Files) (place : Place) : Option Node :=
  if place = [] then some .plainDirectory else files.nodes.lookup place

/-- Removes what is at a place. -/
def erase (files : Files) (place : Place) : Files :=
  ⟨files.nodes.filter fun entry => entry.1 ≠ place⟩

/-- Puts a file at a place, instead of what was there. -/
def put (files : Files) (place : Place) (node : Node) : Files :=
  if (files.nodes.lookup place).isSome then
    ⟨files.nodes.map fun entry => if entry.1 = place then (place, node) else entry⟩
  else ⟨files.nodes ++ [(place, node)]⟩

/-- The names in a directory. -/
def namesIn (files : Files) (place : Place) : List String :=
  files.nodes.filterMap fun entry =>
    if entry.1.dropLast = place ∧ entry.1 ≠ [] then entry.1.getLast? else none

end Files

/-! ## Paths -/

/-- A path as the names on it. -/
structure Path where
  /-- Whether it starts at the root. -/
  absolute : Bool
  names : List String
  deriving DecidableEq, Repr

/-- The names on a path, the last of which is empty if a slash follows it. -/
def Path.ofString (text : String) : Path where
  absolute := text.toList.head? = some '/'
  names :=
    ((Text.segments '/' text.toList).filter (· ≠ [])).map String.ofList ++
      if text.toList.getLast? = some '/' then [""] else []

/-- Where a path leads. -/
inductive Destination where
  /-- To this place, where this is found. -/
  | existing (place : Place) (node : Node)
  /-- To a place in an existing directory, where nothing is found. -/
  | vacant (place : Place)
  deriving DecidableEq, Repr

/-- The greatest length of a name, in bytes. -/
def nameLimit : Nat := 255

/-- The length, in bytes, that every path stays below. -/
def pathLimit : Nat := 4096

/-- How many symbolic links are followed on the way to a file. -/
def linkLimit : Nat := 40

/-- Walks names from a place, following at most `links` symbolic links; a link at the end
    is followed only if `followLast` says so. An empty name needs no permission. -/
def Files.walk (files : Files) (followLast : Bool) (links : Nat) (here : Place) :
    List String → Except IoError Destination
  | [] =>
    match files.node? here with
    | some node => .ok (.existing here node)
    | none => .error .noEntry
  | name :: rest =>
    if (files.node? here).isNone then .error .noEntry
    else if !(files.node? here).any Node.isDirectory then .error .notDirectory
    else if name = "" then files.walk followLast links here rest
    else if !(files.node? here).any (·.mode.mayExecute) then .error .accessDenied
    else if nameLimit < name.utf8ByteSize then .error .nameTooLong
    else if name = "." then files.walk followLast links here rest
    else if name = ".." then files.walk followLast links here.dropLast rest
    else match files.node? (here ++ [name]) with
      | none => if rest = [] then .ok (.vacant (here ++ [name])) else .error .noEntry
      | some (.link target) =>
        if rest = [] ∧ followLast = false then .ok (.existing (here ++ [name]) (.link target))
        else if target = "" then .error .noEntry
        else match links with
          | 0 => .error .tooManyLinks
          | links + 1 =>
            let path := Path.ofString target
            files.walk followLast links (if path.absolute then [] else here)
              (path.names ++ rest)
      | some _ => files.walk followLast links (here ++ [name]) rest
termination_by names => (links, names.length)

end LineShell.Machine

namespace LineShell

open Machine

/-- The state of a machine. -/
structure Machine where
  files : Files
  /-- Where relative paths start. -/
  workingDirectory : Place
  deriving DecidableEq, Repr

namespace Machine

/-- Where a path leads, with or without following a link at its end. -/
def walkPath (m : Machine) (followLast : Bool) (path : String) :
    Except IoError Destination :=
  if path = "" then .error .noEntry
  else if pathLimit ≤ path.utf8ByteSize then .error .nameTooLong
  else
    let path := Path.ofString path
    m.files.walk followLast linkLimit (if path.absolute then [] else m.workingDirectory)
      path.names

/-- Where a path leads. -/
def locate (m : Machine) (path : String) : Except IoError Destination :=
  m.walkPath true path

/-- Where a path leads, be it to a link. -/
def locateEntry (m : Machine) (path : String) : Except IoError Destination :=
  m.walkPath false path

/-- What a path leads to. -/
def found (m : Machine) (path : String) : Except IoError (Place × Node) :=
  match m.locate path with
  | .ok (.existing place node) => .ok (place, node)
  | .ok (.vacant _) => .error .noEntry
  | .error error => .error error

/-- What a path leads to, be it a link. -/
def foundEntry (m : Machine) (path : String) : Except IoError (Place × Node) :=
  match m.locateEntry path with
  | .ok (.existing place node) => .ok (place, node)
  | .ok (.vacant _) => .error .noEntry
  | .error error => .error error

/-- The directory that a path leads to, if one may pass through it. -/
def enter (m : Machine) (path : String) : Except IoError Place :=
  match m.found path with
  | .error error => .error error
  | .ok (place, node) =>
    if !node.isDirectory then .error .notDirectory
    else if !node.mode.mayExecute then .error .accessDenied
    else .ok place

/-- Whether a path leads to a file of any kind. No path holds the character NUL. -/
def pathExists (m : Machine) (path : String) : Bool :=
  !path.toList.contains '\x00' &&
    match m.locate path with
    | .ok (.existing _ _) => true
    | _ => false

/-! ## Creating files -/

/-- Makes the directories that lead from a place along some names, as far as they are
    missing, and gives the place of the last. Names that lead nowhere are passed over. -/
def makeDirectories (m : Machine) (here : Place) : List String → Machine × Place
  | [] => (m, here)
  | name :: names =>
    match m.files.walk true linkLimit here [name] with
    | .ok (.existing place _) => m.makeDirectories place names
    | .ok (.vacant place) =>
      Machine.makeDirectories { m with files := m.files.put place .plainDirectory } place names
    | .error _ => m.makeDirectories here names

/-- Adds a file at a path that is relative to the working directory, with the directories
    on the way. A file or a directory is made where existing links lead. -/
def add (m : Machine) (path : String) (node : Node) : Machine :=
  let names := (Path.ofString path).names
  let (m, parent) := m.makeDirectories m.workingDirectory names.dropLast
  match node, names.getLast? with
  | _, none => m
  | .directory _, some name => (m.makeDirectories parent [name]).1
  | .link target, some name => { m with files := m.files.put (parent ++ [name]) (.link target) }
  | node, some name =>
    match m.files.walk true linkLimit parent [name] with
    | .ok (.existing place _) => { m with files := m.files.put place node }
    | .ok (.vacant place) => { m with files := m.files.put place node }
    | .error _ => m

end Machine
end LineShell
