/-
  LineShell.Lookup

  From the name of a command to the file that is to be executed.

  A name with a slash is itself the path. Any other name is looked for in the directories
  of a search list, in order; empty entries of the list are passed over and do not stand
  for the current directory. Only the existence of a file counts, not its kind.
-/
import LineShell.Failure
import LineShell.Text.Fields

namespace LineShell.Lookup

/-- Where a command was found. -/
inductive Location where
  /-- The name is the path. -/
  | asTyped (path : String)
  /-- The path was made from a directory of the search list. -/
  | searched (path : String)
  deriving DecidableEq, Repr

/-- The path of the file. -/
def Location.path : Location → String
  | asTyped path => path
  | searched path => path

/-- The character between two directories of a search list. -/
def separator : Char := ':'

/-- The directories of a search list, without the empty entries. -/
def directories (search : String) : List String :=
  ((Text.segments separator search.toList).filter (· ≠ [])).map String.ofList

/-- The path of a name in a directory. A slash that ends the directory serves. -/
def candidate (directory name : String) : String :=
  if directory.toList.getLast? = some '/' then directory ++ name
  else directory ++ "/" ++ name

/-- The first existing file with this name in the directories. -/
def firstExisting (pathExists : String → Bool) (name : String) :
    List String → Option String
  | [] => none
  | directory :: later =>
    if pathExists (candidate directory name) then some (candidate directory name)
    else firstExisting pathExists name later

/-- Finds the file of a command. The search list may be absent. -/
def find (pathExists : String → Bool) (search : Option String) (name : String) :
    Except ShellError Location :=
  if name = "" then .error .notFound
  else if '/' ∈ name.toList then
    if pathExists name then .ok (.asTyped name) else .error .notFound
  else match search with
    | none => .error .notFound
    | some list =>
      match firstExisting pathExists name (directories list) with
      | some path => .ok (.searched path)
      | none => .error .notFound

end LineShell.Lookup
