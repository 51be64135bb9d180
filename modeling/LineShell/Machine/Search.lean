/-
  LineShell.Machine.Search

  Finding a program by its name. A name with a slash is a path; any other is looked for in
  the directories of a list.
-/
import LineShell.Machine.Image

namespace LineShell.Machine

/-- The path of the program that runs scripts. -/
def scriptRunner : String := "/bin/sh"

/-- Loads the program of a path, where a file in no known format is taken for a script. -/
def loadOrScript (m : Machine) (path : String) (argv : List String) : Except IoError Image :=
  match m.load path argv with
  | .ok image => .ok image
  | .error error =>
    if error = .badFormat then
      .ok ⟨.runScript, scriptRunner :: Text.Raw.ofText path :: argv.drop 1⟩
    else .error error

/-- Loads the first program with a name that directories hold. What is missing or may not
    be executed is passed over. If nothing else is found, the reason is the last one, but a
    refused permission, once met, stays the reason. -/
def searchAfter (load : String → Except IoError Image) (reason : IoError) (name : String) :
    List String → Except IoError Image
  | [] => .error reason
  | directory :: later =>
    match load (if directory = "" then name else directory ++ "/" ++ name) with
    | .ok image => .ok image
    | .error error =>
      if error = .accessDenied ∨ error = .noEntry ∨ error = .notDirectory then
        searchAfter load (if reason = .accessDenied then reason else error) name later
      else .error error

/-- Loads a program by its name: a name with a slash is a path, and any other is looked for
    in a list of directories that is written with colons. -/
def search (load : String → Except IoError Image) (list name : String) :
    Except IoError Image :=
  if '/' ∈ name.toList then load name
  else searchAfter load .noEntry name ((Text.segments ':' list.toList).map String.ofList)

/-- Where programs are looked for if the environment does not tell. -/
def systemSearch : String := "/bin:/usr/bin"

/-- Loads a program that another one asks for by its name, with a list of directories to
    look into if the name holds no slash. All texts are raw. -/
def searchFor (m : Machine) (list : String) (name : String) (argv : List String) :
    Except IoError Image :=
  if name = "" then .error .noEntry
  else search (m.loadOrScript · argv) (Text.Raw.toText list) (Text.Raw.toText name)

end LineShell.Machine
