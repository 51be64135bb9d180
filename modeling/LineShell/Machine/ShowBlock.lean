/-
  LineShell.Machine.ShowBlock

  The program that prints its environment, or that starts another program with a changed
  one. Options and assignments in front of the name of the other program tell what is
  changed. One option holds a text that is cut into further arguments.
-/
import LineShell.Machine.Disposition
import LineShell.Machine.Search

namespace LineShell.Machine

/-- The environment of a program, as raw texts. -/
abbrev Variables := List (String × String)

namespace Variables

/-- Sets a variable: one that is there keeps its place, a new one comes last. -/
def set (vars : Variables) (name value : String) : Variables :=
  if (vars.lookup name).isSome then
    vars.map fun pair => (pair.1, if pair.1 = name then value else pair.2)
  else vars ++ [(name, value)]

/-- Removes a variable. -/
def unset (vars : Variables) (name : String) : Variables :=
  vars.filter fun pair => pair.1 ≠ name

end Variables

/-- The name and the value of an assignment. -/
def assignment? (text : String) : Option (String × String) :=
  match text.toList.dropWhile (· ≠ '=') with
  | [] => none
  | _ :: value => some (String.ofList (text.toList.takeWhile (· ≠ '=')), String.ofList value)

namespace ShowBlock

/-- The blanks between arguments. -/
def isBlank (c : Char) : Bool := c = ' ' || (9 ≤ c.toNat && c.toNat ≤ 13)

/-- The options of the program. A blank is an option only to be refused, with all that
    follows it. -/
def options : Options where
  letters :=
    [('C', .always), ('i', .never), ('S', .always), ('u', .always), ('v', .never),
     ('0', .never)] ++
      [' ', '\t', '\n', Char.ofNat 11, Char.ofNat 12, '\r'].map (·, .maybe)
  words :=
    [("ignore-environment", .never, "i"), ("null", .never, "0"), ("unset", .always, "u"),
     ("chdir", .always, "C"), ("default-signal", .maybe, "default-signal"),
     ("ignore-signal", .maybe, "ignore-signal"), ("block-signal", .maybe, "block-signal"),
     ("list-signal-handling", .never, "list-signal-handling"), ("debug", .never, "v"),
     ("split-string", .always, "S")]

/-! ## Cutting a text into arguments -/

/-- The quotes that a text stands in. -/
inductive Quotes where
  | none
  | single
  | double
  deriving DecidableEq, Repr

/-- A text that is being cut. -/
structure Cutting where
  /-- The arguments before the last one, the latest first. -/
  done : List String := []
  /-- The last argument, its characters last first, if one has been begun. -/
  last : Option (List Char) := none
  /-- What is told about variables on the way, in order. -/
  told : List String := []

namespace Cutting

/-- Adds characters to the last argument. -/
def add (cutting : Cutting) (chars : List Char) : Cutting :=
  { cutting with last := some (chars.reverse ++ cutting.last.getD []) }

/-- Ends the last argument. -/
def cut (cutting : Cutting) : Cutting :=
  match cutting.last with
  | none => cutting
  | some last => { cutting with done := String.ofList last.reverse :: cutting.done, last := none }

/-- All arguments. -/
def all (cutting : Cutting) : List String := cutting.cut.done.reverse

end Cutting

/-- The name in `${name}` and what follows it. -/
def readVariable? (text : List Char) : Option (String × List Char) :=
  match text with
  | '$' :: '{' :: c :: rest =>
    let isFirst := c.isAlpha || c = '_'
    let inside := rest.takeWhile fun c => c.isAlphanum || c = '_'
    match rest.dropWhile fun c => c.isAlphanum || c = '_' with
    | '}' :: later => if isFirst then some (String.ofList (c :: inside), later) else none
    | _ => none
  | _ => none

/-- The character that an escape sequence stands for. -/
def escaped? (c : Char) : Option Char :=
  match c with
  | 'f' => some (Char.ofNat 12)
  | 'n' => some '\n'
  | 'r' => some '\r'
  | 't' => some '\t'
  | 'v' => some (Char.ofNat 11)
  | _ =>
    if "\"#$".toList.contains c || c = Text.Quoted.quote || c = Text.Quoted.backslash then some c
    else none

/-- Cuts a text at blanks outside quotes. Escape sequences are replaced, and so are
    variables. The fuel is more than the length of the text. -/
def cutText (block : Variables) : Nat → Quotes → Cutting → List Char → Except String Cutting
  | 0, _, cutting, _ => .ok cutting
  | _ + 1, .none, cutting, [] => .ok cutting
  | _ + 1, _, _, [] => .error "no terminating quote in -S string"
  | fuel + 1, quotes, cutting, c :: rest =>
    if c = Text.Quoted.quote ∧ quotes ≠ .double then
      cutText block fuel (if quotes = .single then .none else .single) (cutting.add []) rest
    else if c = '"' ∧ quotes ≠ .single then
      cutText block fuel (if quotes = .double then .none else .double) (cutting.add []) rest
    else if isBlank c ∧ quotes = .none then cutText block fuel quotes cutting.cut rest
    else if c = '#' ∧ quotes = .none ∧ cutting.last.isNone then .ok cutting
    else if c = Text.Quoted.backslash ∧ (quotes ≠ .single ∨ rest.head?.any fun d =>
        d = Text.Quoted.quote || d = Text.Quoted.backslash) then
      match rest with
      | [] => .error "invalid backslash at end of string in -S"
      | '_' :: later =>
        if quotes = .double then cutText block fuel quotes (cutting.add [' ']) later
        else cutText block fuel quotes cutting.cut later
      | 'c' :: _ =>
        if quotes = .double then
          .error s!"{Text.Quoted.quote}\\c{Text.Quoted.quote} must not appear in double-quoted -S string"
        else .ok cutting
      | d :: later =>
        match escaped? d with
        | some d => cutText block fuel quotes (cutting.add [d]) later
        | none => .error s!"invalid sequence {Text.Quoted.quote}\\{d}{Text.Quoted.quote} in -S"
    else if c = '$' ∧ quotes ≠ .single then
      match readVariable? (c :: rest) with
      | none =>
        .error ("only $\x7bVARNAME\x7d expansion is supported, error at: " ++
          String.ofList (c :: rest))
      | some (name, later) =>
        match block.lookup name with
        | some value =>
          let told := "expanding $\x7b" ++ name ++ "\x7d into " ++ Text.Quoted.plain value
          cutText block fuel quotes
            { cutting.add value.toList with told := cutting.told ++ [told] } later
        | none =>
          let told := "replacing $\x7b" ++ name ++ "\x7d with null string"
          cutText block fuel quotes { cutting with told := cutting.told ++ [told] } later
    else cutText block fuel quotes (cutting.add [c]) rest

/-! ## What the program is told -/

/-- What the program is told by its options. -/
structure Task where
  called : String
  /-- Whether it starts from an empty environment. -/
  fresh : Bool := false
  unset : List String := []
  /-- Whether variables are printed with a NUL behind each. -/
  nul : Bool := false
  directory : Option String := none
  /-- Whether it tells what it does. -/
  telling : Bool := false
  /-- What is done about signals. -/
  dispositions : Dispositions := {}
  /-- Whether it tells of the signals that the other program does not notice. -/
  reporting : Bool := false

/-- How the program goes on. -/
inductive Plan where
  | exit (code : Nat)
  /-- Another program runs in its stead, with this environment. -/
  | become (block : Variables) (image : Image)

/-- The exit code if the program refuses to do anything. -/
def refusalCode : Nat := 125

/-- Refuses the arguments, after a complaint. -/
def refuse (called text : String) : StateM Process Plan := do
  complainAs called text
  pointToHelp called
  pure (.exit refusalCode)

/-- Tells what is done, if that is asked for. -/
def tell (task : Task) (text : String) : StateM Process Unit :=
  if task.telling then printTo 2 (text ++ "\n") else pure ()

/-- The advice for a first line of a script that gives more than one argument. -/
def firstLineAdvice : String := "use -[v]S to pass options in shebang lines"

/-- What an option says that has no arguments in it, or the name in it that is no name of a
    signal. -/
def applyOption (task : Task) (found : Options.Found) : Except String Task :=
  match found.name with
  | "i" => .ok { task with fresh := true }
  | "0" => .ok { task with nul := true }
  | "v" => .ok { task with telling := true }
  | "C" => .ok { task with directory := found.value }
  | "u" => .ok { task with unset := task.unset ++ found.value.toList }
  | "list-signal-handling" => .ok { task with reporting := true }
  | option =>
    (task.dispositions.apply option found.value).map fun dispositions =>
      { task with dispositions }

/-- What came of reading the options. -/
inductive Reading where
  | ready (task : Task) (operands : List String)
  | refused (plan : Plan)

/-- The arguments that a text holds, or none after a complaint about it. -/
def splitText (block : Variables) (task : Task) (text : String) :
    StateM Process (Option (List String)) := do
  let inside := text.toList.dropWhile isBlank
  match cutText block (inside.length + 1) .none {} inside with
  | .error complaint =>
    complainAs task.called complaint
    pure none
  | .ok cutting =>
    cutting.told.forM (tell task)
    if cutting.all ≠ [] then
      tell task s!"split -S:  {Text.Quoted.plain text}"
      cutting.all.zipIdx.forM fun (arg, i) =>
        tell task ((if i = 0 then " into:    " else "     &    ") ++ Text.Quoted.plain arg)
    pure (some cutting.all)

/-- Reads the options. Arguments that are held in a text take its place. -/
def readOptions (block : Variables) : Nat → Task → List String → StateM Process Reading
  | 0, task, args => pure (.ready task args)
  | fuel + 1, task, args =>
    match args with
    | [] => pure (.ready task [])
    | "--" :: operands => pure (.ready task operands)
    | arg :: rest =>
      if !Options.isOption arg then pure (.ready task args)
      else match options.readOne arg rest.head? with
        | .error complaint => .refused <$> refuse task.called complaint
        | .ok (found, taken) => do
          let rest := if taken then rest.drop 1 else rest
          let blank := found.find? fun found => found.name.toList.any isBlank
          match blank with
          | some found =>
            complainAs task.called
              s!"invalid option -- {Text.Quoted.quote}{found.name}{Text.Quoted.quote}"
            .refused <$> refuse task.called firstLineAdvice
          | none =>
            match found.foldlM applyOption task with
            | .error name =>
              .refused <$> refuse task.called s!"{Text.Quoted.plain name}: invalid signal"
            | .ok task =>
              match (found.find? (·.name = "S")).bind (·.value) with
              | none => readOptions block fuel task rest
              | some text => do
                match ← splitText block task text with
                | none => pure (.refused (.exit refusalCode))
                | some held => readOptions block fuel task (held ++ rest)

/-- How many options there may be. -/
def optionLimit : Nat := 100000

/-- The assignments in front of the other arguments, and these. -/
def splitAssignments : List String → Variables × List String
  | [] => ([], [])
  | arg :: rest =>
    match assignment? arg with
    | none => ([], arg :: rest)
    | some pair => ((pair :: (splitAssignments rest).1), (splitAssignments rest).2)

/-- Takes the variables out of the environment that are not wanted; gives none if some name
    cannot be the name of a variable. -/
def unsetAll (task : Task) : List String → Variables → StateM Process (Option Variables)
  | [], block => pure (some block)
  | name :: names, block => do
    tell task s!"unset:    {name}"
    if name = "" || name.toList.contains '=' then
      complainAs task.called s!"cannot unset {Text.Quoted.plain name}: Invalid argument"
      pure none
    else unsetAll task names (block.unset name)

/-- Starts the other program. -/
def launch (task : Task) (block : Variables) (argv : List String) : StateM Process Plan := do
  let name := argv.head?.getD ""
  tell task s!"executing: {name}"
  argv.zipIdx.forM fun (arg, i) => tell task s!"   arg[{i}]= {Text.Quoted.plain arg}"
  let p ← get
  match p.machine.searchFor ((block.lookup "PATH").getD systemSearch) name argv with
  | .ok image => pure (.become block image)
  | .error error =>
    complainAs task.called s!"{Text.Quoted.plain name}: {error.reason}"
    if error = .noEntry && name.toList.any isBlank then
      complainAs task.called firstLineAdvice
    pure (.exit (if error = .noEntry then 127 else 126))

/-- Carries out what the options and the other arguments say. -/
def carryOut (task : Task) (block : Variables) (args : List String) : StateM Process Plan := do
  let (pairs, argv) := splitAssignments args
  pairs.forM fun (name, value) => tell task s!"setenv:   {name}={value}"
  let block := pairs.foldl (fun block pair => block.set pair.1 pair.2) block
  if task.nul && argv ≠ [] then
    refuse task.called "cannot specify --null (-0) with command"
  else if task.directory.isSome && argv = [] then
    refuse task.called "must specify command with --chdir (-C)"
  else if argv = [] then
    let ending := if task.nul then (Char.ofNat 0).toString else "\n"
    printTo 1 (String.join (block.map fun (name, value) => name ++ "=" ++ value ++ ending))
    pure (.exit 0)
  else if !(← task.dispositions.carryOut task.called (tell task)) then
    pure (.exit refusalCode)
  else
    if task.reporting then reportSignals
    match task.directory with
    | none => launch task block argv
    | some directory =>
      let shown := Text.Quoted.forShell directory
      tell task s!"chdir:    {shown}"
      let p ← get
      match p.machine.enter (Text.Raw.toText directory) with
      | .ok place =>
        set { p with directory := place }
        launch task block argv
      | .error error =>
        complainAs task.called s!"cannot change directory to {shown}: {error.reason}"
        pure (.exit refusalCode)

/-- The program, with its environment and under the name by which it was called. -/
def run (block : Variables) (called : String) (args : List String) : StateM Process Plan := do
  match ← readOptions block optionLimit { called } args with
  | .refused plan => pure plan
  | .ready task args =>
    let (fresh, args) :=
      match args with
      | "-" :: rest => (true, rest)
      | _ => (task.fresh, args)
    if fresh then
      tell task "cleaning environ"
      carryOut task [] args
    else match ← unsetAll task task.unset block with
      | some block => carryOut task block args
      | none => pure (.exit refusalCode)

end ShowBlock
end LineShell.Machine
