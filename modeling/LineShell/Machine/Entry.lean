/-
  LineShell.Machine.Entry

  Taking entries out of directories. An entry is named by the last name of a path, which is
  never followed where it is a link; whoever takes it away has to be allowed to change the
  directory that holds it.
-/
import LineShell.Machine.Process

namespace LineShell.Machine

/-- A path without the slashes at its end, unless it has nothing else. -/
def withoutSlashes (path : String) : String :=
  match path.toList.reverse.dropWhile (· = '/') with
  | [] => path
  | rest => String.ofList rest.reverse

/-- The last name on a path, which is empty if the path has none. -/
def lastName (path : String) : String :=
  String.ofList ((withoutSlashes path).toList.reverse.takeWhile (· ≠ '/')).reverse

namespace Process

/-- Takes an entry away that is no directory. -/
def removeFile (p : Process) (path : String) : Except IoError Process :=
  match p.machine.foundEntry (withoutSlashes path) with
  | .error error => .error error
  | .ok (place, node) =>
    if ["", ".", ".."].contains (lastName path) then .error .isDirectory
    else if withoutSlashes path ≠ path then
      .error (if node.isDirectory then .isDirectory else .notDirectory)
    else if !p.mayChange place.dropLast then .error .accessDenied
    else if node.isDirectory then .error .isDirectory
    else .ok (p.withFiles (p.system.files.erase place))

/-- Takes a directory away that holds nothing. -/
def removeDirectory (p : Process) (path : String) : Except IoError Process :=
  match p.machine.foundEntry (withoutSlashes path) with
  | .error error => .error error
  | .ok (place, node) =>
    if lastName path = "" then .error .busy
    else if lastName path = "." then .error .badArgument
    else if lastName path = ".." then .error .notEmpty
    else if !p.mayChange place.dropLast then .error .accessDenied
    else if !node.isDirectory then .error .notDirectory
    else if p.system.files.namesIn place ≠ [] then .error .notEmpty
    else .ok (p.withFiles (p.system.files.erase place))

end Process
end LineShell.Machine
