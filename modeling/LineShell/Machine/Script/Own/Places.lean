/-
  LineShell.Machine.Script.Own.Places

  The own commands of a script that deal with its working directory and with the
  permissions of new files.

  A script remembers the path on which it has come to its working directory. It may lead
  along symbolic links, and `..` takes its last name away again.
-/
import LineShell.Machine.Script.Programs
import LineShell.Machine.Script.Arguments

namespace LineShell.Machine.Script.Own

/-! ## The working directory -/

/-- The path of a place. -/
def pathOf (place : Place) : String :=
  "/" ++ "/".intercalate (place.map Text.Raw.ofText)

/-- The names on a path, of which `..` takes the one before it away. -/
def shortened (names : List String) : List String :=
  (names.foldl (fun before name =>
    if name = "" || name = "." then before
    else if name = ".." then before.drop 1
    else name :: before) []).reverse

/-- The path that one comes to from another path. -/
def follow (here path : String) : String :=
  let absolute := path.toList.head? = some '/'
  let all := if absolute then path else here ++ "/" ++ path
  let names := shortened ((Text.segments '/' all.toList).map String.ofList)
  let isDouble : Bool :=
    match all.toList with
    | '/' :: '/' :: rest => absolute && rest.head? ≠ some '/'
    | _ => false
  (if isDouble then "//" else "/") ++ "/".intercalate names

/-- Whether a path says where it starts. -/
def isAnchored (path : String) : Bool :=
  path.toList.head? = some '/' ||
    ((Text.segments '/' path.toList).head?.any fun name => name = ['.'] || name = ['.', '.'])

/-- Changes the working directory, if that is possible. -/
def goTo (physical : Bool) (path : String) : Act Bool := do
  let st ← get
  let target := if physical then path else follow st.path path
  match st.process.machine.enter (Text.Raw.toText target) with
  | .error _ => pure false
  | .ok place =>
    modify fun st =>
      { st with
        process := { st.process with directory := place }
        path := if physical then pathOf place else target
        found := st.found.map fun entry : String × Bool => (entry.1, true) }
    let exported (v : Variable) : Variable := { v with exported := true }
    Act.setVariable "OLDPWD" (some st.path) exported
    Act.setVariable "PWD" (some (← get).path) exported
    pure true

/-- The paths that a path without a start may stand for, by a list of directories; the flag
    tells whether the list has added something. -/
def startingPoints (list path : String) : List (String × Bool) :=
  (Text.segments ':' list.toList).map fun directory =>
    if directory = [] then (path, false) else (String.ofList directory ++ "/" ++ path, true)

/-- Changes the working directory. -/
def changeDirectory (args : List String) : Act Nat := do
  let (found, operands) ← Arguments.options "LP" args
  let physical := found.getLast?.any (·.1 = 'P')
  let st ← get
  let (target, back) :=
    match operands with
    | [] => ((st.value? "HOME").getD "", false)
    | "-" :: _ => ((st.value? "OLDPWD").getD "", true)
    | path :: _ => (path, false)
  let path := if target = "" then "." else target
  let start? :=
    if isAnchored target then none
    else (startingPoints ((st.value? "CDPATH").getD "") path).find? fun (path, _) =>
      match st.process.machine.found (Text.Raw.toText path) with
      | .ok (_, node) => node.isDirectory
      | .error _ => false
  let (path, added) := start?.getD (target, false)
  if ← goTo physical path then
    if back || added then Act.say ((← get).path ++ "\n")
    pure 0
  else Act.fail s!"can\x27t cd to {target}"

/-- Prints the path of the working directory. -/
def printDirectory (args : List String) : Act Nat := do
  let (found, _) ← Arguments.options "LP" args
  let st ← get
  let path :=
    if found.getLast?.any (·.1 = 'P') then pathOf st.process.directory else st.path
  Act.say (path ++ "\n")
  pure 0

/-! ## Permissions of new files -/

/-- The permissions of one group as letters. -/
def groupLetters (bits : Nat) : String :=
  String.ofList ((Mode.letters bits false 'x').filter (· ≠ '-'))

/-- Shows or sets the permissions that new files do not get. -/
def mask (args : List String) : Act Nat := do
  let (found, operands) ← Arguments.options "S" args
  let p := (← get).process
  match operands with
  | [] =>
    let given := Mode.without 0o777 p.mask
    if found = [] then Act.say s!"{(Mode.mk p.mask).octal}\n"
    else
      let owner := groupLetters (given / 64)
      let group := groupLetters (given / 8)
      let others := groupLetters given
      Act.say s!"u={owner},g={group},o={others}\n"
    pure 0
  | text :: _ =>
    if text.toList.head?.any Char.isDigit then
      let (bits, rest) := Mode.readOctal 0 text.toList
      if rest ≠ [] then Arguments.refuseNumber text
      Act.modifyProcess fun p => { p with mask := bits &&& 0o777 }
    else match Mode.changes? text with
      | none => Act.fail s!"Illegal mode: {text}"
      | some changes =>
        let given : Mode := ⟨Mode.without 0o777 p.mask⟩
        let bits := Mode.without 0o777 (given.adjust false 0 changes).bits
        Act.modifyProcess fun p => { p with mask := bits }
    pure 0

end LineShell.Machine.Script.Own
