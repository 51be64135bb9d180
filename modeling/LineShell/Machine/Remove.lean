/-
  LineShell.Machine.Remove

  The program that removes files. It removes directories only on demand, either empty ones
  or with everything inside them, and it may be told to ask first.
-/
import LineShell.Machine.ChangeMode
import LineShell.Machine.Entry

namespace LineShell.Machine.Remove

/-- The options of the program. -/
def options : Options where
  letters :=
    [('d', .never), ('f', .never), ('i', .never), ('I', .never), ('r', .never),
     ('R', .never), ('v', .never)]
  words :=
    [("force", .never, "f"), ("interactive", .maybe, "interactive"),
     ("one-file-system", .never, "one-file-system"),
     ("no-preserve-root", .never, "no-preserve-root"),
     ("preserve-root", .maybe, "preserve-root"), ("recursive", .never, "r"),
     ("dir", .never, "d"), ("verbose", .never, "v")]

/-- When the program asks before it removes something. -/
inductive Asking where
  | never
  /-- Only before it removes very much. -/
  | once
  | always
  deriving DecidableEq, Repr

/-- What the program is to do. -/
structure Task where
  called : String
  /-- Whether files that do not exist are passed over. -/
  force : Bool := false
  asking : Asking := .never
  recursive : Bool := false
  /-- Whether empty directories are removed. -/
  emptyDirectories : Bool := false
  verbose : Bool := false
  sparesRoot : Bool := true

/-- The words by which it is told when to ask. -/
def askingWords : List (String × Asking) :=
  [("never", .never), ("no", .never), ("none", .never), ("once", .once),
   ("always", .always), ("yes", .always)]

/-- Asks a question. An answer that starts with the letter `y` is a consent. -/
def ask (task : Task) (question : String) : StateM Process Bool := do
  printTo 2 s!"{task.called}: {question}? "
  let p ← get
  match p.content 0 with
  | .error _ => pure false
  | .ok content =>
    let answer := content.takeWhile (· ≠ '\n')
    set (p.skip 0 (answer.length + 1))
    pure (answer.head?.any fun c => c = 'y' || c = 'Y')

/-- How a file is called in a question. -/
def kindOf : Node → String
  | .file _ [] => "regular empty file"
  | .file _ _ => "regular file"
  | .tool _ => "regular file"
  | .directory _ => "directory"
  | .link _ => "symbolic link"
  | .special _ => "character special file"

/-- Tells that something could not be removed. -/
def fail (task : Task) (name : String) (error : IoError) : StateM Process Unit :=
  complainAs task.called s!"cannot remove {Text.Quoted.forShell name}: {error.reason}"

/-! ## Going through directories -/

/-- How the way through a directory, or the removal of anything else, ended. -/
structure Outcome where
  /-- Whether the program fails. -/
  failed : Bool := false
  /-- Whether something stays that keeps the directories around it from being removed, so
      that this is not even tried. -/
  stays : Bool := false
  deriving DecidableEq, Repr

namespace Outcome

/-- Something could not be removed, and stays. -/
def failure : Outcome := { failed := true, stays := true }

/-- Two outcomes taken together. -/
def join (one other : Outcome) : Outcome where
  failed := one.failed || other.failed
  stays := one.stays || other.stays

end Outcome

/-- What can be seen inside a directory. -/
inductive Inside where
  | nothing
  | something
  /-- It may not be read. -/
  | hidden
  deriving DecidableEq, Repr

/-- What can be seen inside the directory at a place. -/
def insideOf (p : Process) (place : Place) (mode : Mode) : Inside :=
  if !mode.mayRead then .hidden
  else if p.system.files.namesIn place = [] then .nothing
  else .something

/-- What comes of asking whether something may be removed. -/
inductive Consent where
  | given
  | refused
  /-- There was no need to ask, since it cannot be removed. -/
  | pointless
  deriving DecidableEq, Repr

/-- Asks whether something may be removed, if the program is to ask. -/
def consent (task : Task) (question : String) : StateM Process Consent := do
  if task.asking ≠ .always then pure .given
  else if ← ask task question then pure .given
  else pure .refused

/-- Asks whether a directory may be removed, or first whether it may be entered. -/
def consentToDirectory (task : Task) (name : String) (inside : Inside) (enters : Bool) :
    StateM Process Consent := do
  let shown := Text.Quoted.forShell name
  if enters && inside = .something then consent task s!"descend into directory {shown}"
  else if task.asking = .always && inside = .hidden then
    if !task.emptyDirectories then
      fail task name .accessDenied
      pure .pointless
    else if enters then pure .given
    else consent task s!"attempt removal of inaccessible directory {shown}"
  else consent task s!"remove directory {shown}"

/-- Tells of something that was removed, or of the failure to do so. -/
def conclude (task : Task) (name what : String) (result : Except IoError Process) :
    StateM Process Outcome := do
  match result with
  | .ok p =>
    set p
    if task.verbose then
      printTo 1 s!"removed {what}{Text.Quoted.forShell name}\n"
    pure {}
  | .error error =>
    if task.force && (error = .noEntry || error = .notDirectory) then pure {}
    else
      fail task name error
      pure .failure

/-- Removes an entry that is no directory, or that cannot be found. -/
def removeEntry (task : Task) (name : String) (found : Except IoError (Place × Node)) :
    StateM Process Outcome := do
  let consent ←
    match found with
    | .ok (_, node) => consent task s!"remove {kindOf node} {Text.Quoted.forShell name}"
    | .error error =>
      if task.asking = .always then
        fail task name error
        pure .pointless
      else pure .given
  match consent with
  | .given => conclude task name "" ((← get).removeFile (Text.Raw.toText name))
  | .refused => pure {}
  | .pointless => pure { failed := true }

/-- Removes a directory after everything inside it, as far as that was possible. -/
def removeEmptied (task : Task) (name : String) (inside : Inside) : StateM Process Outcome := do
  match ← consentToDirectory task name inside false with
  | .given =>
    let result := (← get).removeDirectory (Text.Raw.toText name)
    conclude task name "directory " <|
      match inside, result with
      | .hidden, .error error =>
        .error (if error = .notEmpty || error = .notDirectory then .accessDenied else error)
      | _, result => result
  | .refused => pure {}
  | .pointless => pure { failed := true }

/-- Tells of an operand that is never removed as a directory: one that ends in a dot or
    two, and the root. -/
def refuseOperand (task : Task) (name : String) (place : Place) : StateM Process Bool := do
  let shown := Text.Quoted.forShell name
  if lastName name = "." || lastName name = ".." then
    let one := Text.Quoted.plain "."
    let two := Text.Quoted.plain ".."
    complainAs task.called s!"refusing to remove {one} or {two} directory: skipping {shown}"
    pure true
  else if task.recursive && task.sparesRoot && place = [] then
    let root := Text.Quoted.forShell "/"
    let same := if name = "/" then "" else s!" (same as {root})"
    complainAs task.called s!"it is dangerous to operate recursively on {shown}{same}"
    complainAs task.called "use --no-preserve-root to override this failsafe"
    pure true
  else pure false

/-- Removes what a name stands for, to a depth that no directory reaches. -/
def removeNamed (task : Task) : Nat → Bool → String → StateM Process Outcome
  | 0, _, _ => pure {}
  | depth + 1, isOperand, name => do
    let p ← get
    match p.machine.foundEntry (Text.Raw.toText name) with
    | .ok (place, .directory mode) =>
      let inside := insideOf p place mode
      if !task.recursive && !(task.emptyDirectories && inside ≠ .something) then
        fail task name (if task.emptyDirectories then .notEmpty else .isDirectory)
        pure .failure
      else if isOperand && (← refuseOperand task name place) then pure { failed := true }
      else
        match ← consentToDirectory task name inside true with
        | .refused => pure { stays := true }
        | .pointless => pure .failure
        | .given =>
          if task.asking = .always && inside = .nothing then
            conclude task name "directory " ((← get).removeDirectory (Text.Raw.toText name))
          else
            let names := if mode.mayRead then p.system.files.namesIn place else []
            let outcome ← names.foldlM (fun outcome inner => do
              let one ← removeNamed task depth false
                (name ++ (if name.toList.getLast? = some '/' then "" else "/") ++
                  Text.Raw.ofText inner)
              pure (outcome.join one)) ({} : Outcome)
            if outcome.stays then pure outcome
            else
              let p ← get
              let last ← removeEmptied task name (insideOf p place mode)
              pure (outcome.join last)
    | found => removeEntry task name found

/-! ## What the program is told -/

/-- Why an option is refused. -/
inductive Refusal where
  /-- The value does not tell when to ask. -/
  | asking (value : String)
  /-- The option that gives up the protection of the root was cut short. -/
  | shortened
  /-- The value does not tell what is protected. -/
  | sparing (value : String)

/-- When the program is to ask, as a word, perhaps cut short, says. -/
def asking? (value : String) : Option Asking :=
  match askingWords.lookup value with
  | some asking => some asking
  | none =>
    match askingWords.filter fun word => value.toList.isPrefixOf word.1.toList with
    | [] => none
    | (_, asking) :: others =>
      if others.all fun other => other.2 = asking then some asking else none

/-- What an option says. -/
def applyOption (task : Task) (found : Options.Found) : Except Refusal Task :=
  match found.name with
  | "f" => .ok { task with force := true, asking := .never }
  | "i" => .ok { task with force := false, asking := .always }
  | "I" => .ok { task with force := false, asking := .once }
  | "r" => .ok { task with recursive := true }
  | "R" => .ok { task with recursive := true }
  | "d" => .ok { task with emptyDirectories := true }
  | "v" => .ok { task with verbose := true }
  | "interactive" =>
    match found.value with
    | none => .ok { task with force := false, asking := .always }
    | some value =>
      match asking? value with
      | some asking => .ok { task with force := task.force && asking = .never, asking }
      | none => .error (.asking value)
  | "no-preserve-root" =>
    if found.source = "--no-preserve-root" then .ok { task with sparesRoot := false }
    else .error .shortened
  | "preserve-root" =>
    match found.value with
    | none => .ok { task with sparesRoot := true }
    | some value =>
      if value = "all" then .ok { task with sparesRoot := true } else .error (.sparing value)
  | _ => .ok task

/-- Complains about an option. -/
def refuse (called : String) : Refusal → StateM Process Unit
  | .asking value => do
    let kind := if value = "" then "ambiguous" else "invalid"
    let option := Text.Quoted.plain "--interactive"
    let line (words : List String) : String :=
      "  - " ++ ", ".intercalate (words.map Text.Quoted.plain) ++ "\n"
    complainAs called s!"{kind} argument {Text.Quoted.plain value} for {option}"
    printTo 2
      ("Valid arguments are:\n" ++ line ["never", "no", "none"] ++ line ["once"] ++
        line ["always", "yes"])
    pointToHelp called
  | .shortened => complainAs called "you may not abbreviate the --no-preserve-root option"
  | .sparing value =>
    complainAs called
      s!"unrecognized --preserve-root argument: {Text.Quoted.forShell value}"

/-- Whether the user agrees that so much is removed at once. -/
def agreesToAll (task : Task) (count : Nat) : StateM Process Bool :=
  if task.asking = .once ∧ (task.recursive ∨ 3 < count) then
    let what := if count = 1 then "1 argument" else s!"{count} arguments"
    let how := if task.recursive then " recursively" else ""
    ask task s!"remove {what}{how}"
  else pure true

/-- Tells how to remove the first file that the arguments name as if it were an option. -/
def pointToFile (called : String) (args : List String) : StateM Process Unit := do
  let p ← get
  let file := args.find? fun arg =>
    Options.isOption arg && (p.machine.foundEntry (Text.Raw.toText arg)).isOk
  match file with
  | none => pure ()
  | some name =>
    let advice := s!"{called} ./{Text.Quoted.whereNeeded [] name}"
    printTo 2
      s!"Try {Text.Quoted.quote}{advice}{Text.Quoted.quote} to remove the file {Text.Quoted.forShell name}.\n"

/-- The program, under the name by which it was called. -/
def run (called : String) (args : List String) : StateM Process Nat := do
  let read := options.read args
  match read.found.foldlM applyOption { called }, read.complaint, read.operands with
  | .error refusal, _, _ =>
    refuse called refusal
    pure 1
  | .ok _, some complaint, _ =>
    complainAs called complaint
    pointToFile called args
    pointToHelp called
    pure 1
  | .ok task, none, [] => if task.force then pure 0 else ChangeMode.refuse called "missing operand"
  | .ok task, none, names =>
    if ← agreesToAll task names.length then
      let outcome ← names.foldlM (fun outcome name => do
        let one ← removeNamed task ChangeMode.depthLimit true (asOperand name)
        pure (outcome.join one)) ({} : Outcome)
      pure (if outcome.failed then 1 else 0)
    else pure 0

end LineShell.Machine.Remove
