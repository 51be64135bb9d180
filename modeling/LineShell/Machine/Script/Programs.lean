/-
  LineShell.Machine.Script.Programs

  Finding the programs that a script starts. A program is first looked for along a list of
  directories; then the place where it was found, and those behind it, are tried in turn.
-/
import LineShell.Machine.Script.Engine
import LineShell.Machine.Search

namespace LineShell.Machine.Script.Programs

/-- The paths at which a program may be found, all of them raw. -/
def paths (list name : String) : List String :=
  if '/' ∈ name.toList then [name]
  else (Text.segments ':' list.toList).map fun directory =>
    if directory = [] then name else String.ofList directory ++ "/" ++ name

/-- Whether a reason only says that nothing is there. -/
def isAbsence (reason : IoError) : Bool := reason = .noEntry || reason = .notDirectory

/-- What of two reasons counts: a later one does unless it is an absence. -/
def weightier (reason later : IoError) : IoError := if isAbsence later then reason else later

/-- Why a path does not lead to a file that may be executed, if it does not. -/
def obstacle? (p : Process) (path : String) : Option IoError :=
  match p.machine.executable (Text.Raw.toText path) with
  | .ok _ => none
  | .error reason => some reason

/-- The paths from the first one on that leads to a file that may be executed. -/
def search (p : Process) (reason : IoError) : List String → Except IoError (List String)
  | [] => .error reason
  | path :: later =>
    match obstacle? p path with
    | none => .ok (path :: later)
    | some other => search p (weightier reason other) later

/-- The path of a program that is found. -/
def find (p : Process) (list name : String) : Except IoError String :=
  match search p .noEntry (paths list name) with
  | .ok found => .ok (found.headD name)
  | .error reason => .error reason

/-- Loads a program from the first path from which it can be loaded. -/
def load (p : Process) (argv : List String) (reason : IoError) :
    List String → Except IoError Image
  | [] => .error reason
  | path :: later =>
    match p.machine.loadOrScript (Text.Raw.toText path) argv with
    | .ok image => .ok image
    | .error other => load p argv (weightier reason other) later

/-- The status of a program that is not there. -/
def absent : Nat := 127

/-- The status of a program that could not be started for a reason. -/
def statusOf (reason : IoError) : Nat :=
  if isAbsence reason || reason = .tooManyLinks || reason = .nameTooLong then absent else 126

/-- Complains about a program that cannot be started. -/
def complain (name : String) (reason : IoError) : Act Unit :=
  let told := if isAbsence reason then "not found" else reason.reason
  Act.complain s!"{name}: {told}"

/-- Starts a program from one of some paths. If that cannot be done, the process in which it
    would run ends. -/
def start (engine : Engine) (argv paths : List String) : Act Unit := do
  match load (← get).process argv .noEntry paths with
  | .ok image => engine.become image
  | .error reason =>
    complain (argv.headD "") reason
    Act.finish (statusOf reason)

/-- Carries out a command that is a program. -/
def run (engine : Engine) (manner : Manner) (list : String) (argv : List String) :
    Act Unit := do
  let name := argv.headD ""
  let st ← get
  let found :=
    if '/' ∈ name.toList then .ok [name] else search st.process .noEntry (paths list name)
  match found with
  | .error reason =>
    complain name reason
    Act.setStatus absent
  | .ok paths =>
    if '/' ∉ name.toList && st.value? "PATH" = some list && st.found.all (·.1 ≠ name) then
      modify fun st => { st with found := st.found ++ [(name, false)] }
    if manner.last && st.traps.all (·.2 = "") then start engine argv paths
    else
      let _ ← Act.claimSlot
      let ending ← engine.inChild (start engine argv paths)
      Engine.await ending

end LineShell.Machine.Script.Programs
