/-
  LineShell.Machine.ChangeMode

  The program that changes permissions. It is told how by an argument, which may look like
  an option since it may start with a minus sign, and then goes through the files that the
  other arguments name, and on demand through everything inside them.
-/
import LineShell.Machine.Options
import LineShell.Machine.Process

namespace LineShell.Machine

/-! ## What programs print -/

/-- Prints a text to a descriptor of the process, if that is possible. -/
def printTo (descriptor : Nat) (text : String) : StateM Process Unit :=
  modify fun p => p.print descriptor text

/-- Complains about something, under the name by which the program was called. -/
def complainAs (called text : String) : StateM Process Unit :=
  printTo 2 s!"{called}: {text}\n"

/-- Tells where more can be learnt about a program. -/
def pointToHelp (called : String) : StateM Process Unit :=
  printTo 2 s!"Try {Text.Quoted.quote}{called} --help{Text.Quoted.quote} for more information.\n"

/-- How a program that goes through directories calls an operand: with no more than one
    slash at its end. -/
def asOperand (name : String) : String :=
  match name.toList.reverse with
  | '/' :: '/' :: rest =>
    match rest.dropWhile (· = '/') with
    | [] => if name.length = 2 then name else "/"
    | rest => String.ofList ('/' :: rest).reverse
  | _ => name

namespace ChangeMode

/-- The options of the program. The letters of permissions are among them. -/
def options : Options where
  letters :=
    [('R', .never), ('c', .never), ('f', .never), ('v', .never)] ++
      "rwxXstugoa,+=01234567".toList.map (·, .maybe)
  words :=
    [("changes", .never, "c"), ("recursive", .never, "R"),
     ("no-preserve-root", .never, "no-preserve-root"),
     ("preserve-root", .never, "preserve-root"), ("quiet", .never, "f"),
     ("reference", .always, "reference"), ("silent", .never, "f"), ("verbose", .never, "v")]

/-- The letters that are options and no permissions. -/
def ownLetters : List String := ["R", "c", "f", "v"]

/-- How much the program tells. -/
inductive Telling where
  | nothing
  | changes
  | everything
  deriving DecidableEq, Repr

/-- What the program is to do with each file. -/
structure Task where
  called : String
  changes : List Mode.Change
  telling : Telling := .nothing
  /-- Whether failures are passed over in silence. -/
  silent : Bool := false
  /-- Whether everything inside a directory is changed as well. -/
  recursive : Bool := false
  /-- Whether the change was written like an option, so that it names no group and may do
      less than it seems to say. -/
  likeOption : Bool := false
  /-- Whether the root is excepted from changes of everything inside a directory. -/
  sparesRoot : Bool := false

/-- A mode in digits and letters. -/
def bothForms (mode : Mode) : String := s!"{mode.octal} ({mode.symbolic})"

/-- Tells of a file that could not be changed. The flag tells whether all went well. -/
def fail (task : Task) (text : String) : StateM Process Bool := do
  if task.silent then pure false
  else
    complainAs task.called text
    pure false

/-- The mode that a file has after it was to get a new one. A mode with special bits is looked
    up again, since these may not have been kept; where this fails, nothing has changed as far
    as can be seen. -/
def modeAfter (task : Task) (name : String) (old new : Mode) : StateM Process Mode := do
  if task.telling = .nothing || !new.hasAny 0o7000 then pure new
  else match (← get).machine.found (Text.Raw.toText name) with
    | .ok _ => pure new
    | .error error =>
      let _ ← fail task
        s!"getting new attributes of {Text.Quoted.forShell name}: {error.reason}"
      pure old

/-- Changes the permissions of what was found at a place. -/
def changeFound (task : Task) (name : String) (place : Place) (node : Node) :
    StateM Process Bool := do
  let p ← get
  let old := node.mode
  let new := old.adjust node.isDirectory p.mask task.changes
  set (p.withFiles (p.system.files.put place (node.withMode new)))
  let changed := decide ((← modeAfter task name old new) ≠ old)
  if task.telling = .everything || (task.telling = .changes && changed) then
    let told :=
      if changed then s!"changed from {bothForms old} to {bothForms new}"
      else s!"retained as {bothForms new}"
    printTo 1 s!"mode of {Text.Quoted.forShell name} {told}\n"
  let expected := old.adjust node.isDirectory 0 task.changes
  if task.likeOption && Mode.without new.bits expected.bits ≠ 0 then
    let shown := Text.Quoted.whereNeeded [':'] name
    complainAs task.called
      s!"{shown}: new permissions are {new.symbolic}, not {expected.symbolic}"
    pure false
  else pure true

/-- Changes the permissions of a file and, on demand, of everything inside it, to a depth
    that no directory reaches. -/
def changeOne (task : Task) : Nat → Bool → String → StateM Process Bool
  | 0, _, _ => pure true
  | depth + 1, isOperand, name => do
    let p ← get
    let shown := Text.Quoted.forShell name
    let path := Text.Raw.toText name
    match if isOperand then p.machine.found path else p.machine.foundEntry path with
    | .error error =>
      let dangles : Bool :=
        match p.machine.foundEntry path with
        | .ok (_, .link _) => decide (error = .noEntry)
        | _ => false
      let fine ←
        if dangles then fail task s!"cannot operate on dangling symlink {shown}"
        else fail task s!"cannot access {shown}: {error.reason}"
      if task.telling = .everything then printTo 1 s!"{shown} could not be accessed\n"
      pure fine
    | .ok (_, .link _) =>
      if task.telling = .everything then
        printTo 1 s!"neither symbolic link {shown} nor referent has been changed\n"
      pure true
    | .ok (place, node) =>
      if task.recursive && task.sparesRoot && place = [] then
        complainAs task.called s!"it is dangerous to operate recursively on {shown}"
        complainAs task.called "use --no-preserve-root to override this failsafe"
        pure false
      else
        let fine ← changeFound task name place node
        if !task.recursive || !node.isDirectory then pure fine
        else
          let p ← get
          let unreadable : Option IoError :=
            match p.machine.found path with
            | .error error => some error
            | .ok (_, node) => if node.mode.mayRead then none else some .accessDenied
          match unreadable with
          | some error =>
            let _ ← fail task s!"cannot read directory {shown}: {error.reason}"
            if task.telling = .everything then
              printTo 1 s!"{shown} could not be accessed\n"
            pure false
          | none =>
            (p.system.files.namesIn place).foldlM (fun fine inner => do
              let inside ← changeOne task depth false
                (name ++ (if name.toList.getLast? = some '/' then "" else "/") ++
                  Text.Raw.ofText inner)
              pure (fine && inside)) fine

/-- How deep directories may lie inside each other. -/
def depthLimit : Nat := 2048

/-- Changes the permissions of files in order; gives the exit code. -/
def changeAll (task : Task) (names : List String) : StateM Process Nat := do
  let fine ← names.foldlM (fun fine name => do
    let one ← changeOne task depthLimit true (asOperand name)
    pure (fine && one)) true
  pure (if fine then 0 else 1)

/-- Refuses the arguments. -/
def refuse (called text : String) : StateM Process Nat := do
  complainAs called text
  pointToHelp called
  pure 1

/-- The change that arguments with options ask for, if they are options themselves. -/
def modeOption? (read : Options.Read) : Option String :=
  let sources := (read.found.filter fun found =>
    found.name.length = 1 ∧ !ownLetters.contains found.name).map (·.source)
  if sources = [] then none else some (",".intercalate sources)

/-- What the options say apart from the change itself. -/
def applyOption (task : Task) (found : Options.Found) : Task :=
  match found.name with
  | "R" => { task with recursive := true }
  | "c" => { task with telling := .changes }
  | "v" => { task with telling := .everything }
  | "f" => { task with silent := true }
  | "preserve-root" => { task with sparesRoot := true }
  | "no-preserve-root" => { task with sparesRoot := false }
  | _ => task

/-- The program, under the name by which it was called. -/
def run (called : String) (args : List String) : StateM Process Nat := do
  let read := options.read args
  let task := read.found.foldl applyOption { called, changes := [] }
  let reference := (read.found.reverse.find? (·.name = "reference")).bind (·.value)
  match read.complaint, modeOption? read, reference, read.operands with
  | some complaint, _, _, _ => refuse called complaint
  | none, some _, some _, _ => refuse called "cannot combine mode and --reference options"
  | none, none, none, [] => refuse called "missing operand"
  | none, none, none, [mode] =>
    refuse called s!"missing operand after {Text.Quoted.plain mode}"
  | none, _, _, [] => refuse called "missing operand"
  | none, none, some name, names =>
    match (← get).machine.found (Text.Raw.toText name) with
    | .error error =>
      complainAs called
        s!"failed to get attributes of {Text.Quoted.forShell name}: {error.reason}"
      pure 1
    | .ok (_, node) =>
      let change : Mode.Change := ⟨.set, Mode.all, .these node.mode.bits, Mode.all⟩
      changeAll { task with changes := [change] } names
  | none, some mode, _, names =>
    match Mode.changes? mode with
    | none => refuse called s!"invalid mode: {Text.Quoted.plain mode}"
    | some changes => changeAll { task with changes, likeOption := true } names
  | none, none, none, mode :: names =>
    match Mode.changes? mode with
    | none => refuse called s!"invalid mode: {Text.Quoted.plain mode}"
    | some changes => changeAll { task with changes } names

end ChangeMode
end LineShell.Machine
