/-
  LineShell.Machine.Script.Own.Variables

  The own commands of a script that deal with its variables, its settings and its
  arguments.
-/
import LineShell.Machine.Script.Arguments
import LineShell.Machine.Script.Fields

namespace LineShell.Machine.Script.Own

/-! ## Variables -/

/-- Prints variables in the order of their names. -/
def showVariables (lead : String) (selects : Variable → Bool) : Act Unit := do
  let selected := ((← get).vars.filter selects).mergeSort fun a b => a.name ≤ b.name
  Act.say (String.join (selected.map fun v =>
    lead ++ v.name ++ (v.value.elim "" fun value => "=" ++ inQuotes value) ++ "\n"))

/-- The name in front of an equals sign, and the value behind it if there is one. -/
def splitAssignment (text : String) : String × Option String :=
  (assignment? text).elim (text, none) fun (name, value) => (name, some value)

/-- Marks variables, which may be set as well, or shows those with the mark. -/
def declare (command : String) (mark : Variable → Variable) (selects : Variable → Bool)
    (args : List String) : Act Nat := do
  let (found, names) ← Arguments.options "p" args
  if found ≠ [] || names = [] then showVariables (command ++ " ") selects
  else
    names.forM fun text => do
      let (name, value) := splitAssignment text
      match value, (← get).binding? name with
      | none, some entry => modify fun st => st.putVariable (mark entry)
      | value, _ =>
        Act.demandName name
        Act.setVariable name value mark
  pure 0

/-- Marks variables that programs receive. -/
def exportVariables : List String → Act Nat :=
  declare "export" (fun v => { v with exported := true }) (·.exported)

/-- Marks variables that keep their values. -/
def protectVariables : List String → Act Nat :=
  declare "readonly" (fun v => { v with readOnly := true }) (·.readOnly)

/-- Gives a function variables of its own, or settings of its own. -/
def localize (args : List String) : Act Nat := do
  if (← get).scopes = [] then Act.fail "not in a function"
  args.forM fun text => do
    if text = "-" then
      modify fun st =>
        match st.scopes with
        | scope :: outer =>
          { st with scopes :=
              { scope with settings := some (scope.settings.getD st.settings) } :: outer }
        | [] => st
    else
      let (name, value) := splitAssignment text
      Act.demandName name
      Act.hide name
      match value, (← get).binding? name with
      | none, some _ => pure ()
      | value, _ => Act.setVariable name value id
  pure 0

/-- The variables that keep their marks when they are forgotten. -/
def lastingNames : List String :=
  ["IFS", "MAIL", "MAILPATH", "PATH", "PS1", "PS2", "PS4", "OPTIND"]

/-- Forgets a variable. -/
def forget (name : String) : Act Unit := do
  Act.demandName name
  Act.setVariable name none id
  if !lastingNames.contains name then modify fun st => st.dropVariable name

/-- Forgets variables or functions. -/
def unset (args : List String) : Act Nat := do
  let (found, names) ← Arguments.options "vf" args
  if found.getLast?.any (·.1 = 'f') then
    modify fun st =>
      { st with functions := st.functions.filter fun entry => !names.contains entry.1 }
  else names.forM forget
  pure 0

/-! ## Settings and arguments -/

/-- The settings by name and, for some, by letter. -/
def settings : List (String × Option Char) :=
  [("errexit", some 'e'), ("noglob", some 'f'), ("ignoreeof", some 'I'),
   ("interactive", some 'i'), ("monitor", some 'm'), ("noexec", some 'n'),
   ("stdin", some 's'), ("xtrace", some 'x'), ("verbose", some 'v'), ("vi", some 'V'),
   ("emacs", some 'E'), ("noclobber", some 'C'), ("allexport", some 'a'),
   ("notify", some 'b'), ("nounset", some 'u'), ("privileged", some 'p'), ("nolog", none),
   ("debug", none)]

/-- Switches a setting on or off. -/
def switch (letter : Char) (on : Bool) (st : State) : State :=
  let others := st.settings.filter (· ≠ letter)
  { st with settings := if on then letter :: others else others }

/-- Switches a setting by its letter. -/
def switchLetter (on : Bool) (letter : Char) : Act Unit :=
  if settings.any (·.2 = some letter) then modify (switch letter on)
  else Act.fail s!"Illegal option -{letter}"

/-- Shows all settings, as a table or as commands. -/
def showSettings (asTable : Bool) : Act Unit := do
  let st ← get
  let line (entry : String × Option Char) : String :=
    let on := entry.2.any st.settings.contains
    if asTable then
      let blanks := String.ofList (List.replicate (16 - entry.1.length) ' ')
      entry.1 ++ blanks ++ (if on then "on" else "off") ++ "\n"
    else "set " ++ (if on then "-o " else "+o ") ++ entry.1 ++ "\n"
  let title := if asTable then "Current option settings\n" else ""
  Act.say (title ++ String.join (settings.map line))

/-- Switches a setting by its name, or shows all settings if there is none. -/
def switchNamed (on : Bool) : Option String → Act Unit
  | none => showSettings on
  | some name =>
    match settings.find? (·.1 = name) with
    | some (_, some letter) => modify (switch letter on)
    | some (_, none) => pure ()
    | none => Act.fail s!"Illegal option -o {name}"

/-- Switches the settings of one argument. The arguments behind it may be names of more
    settings; gives those that are not. -/
def switchAll (on : Bool) (rest : List String) : List Char → Act (List String)
  | [] => pure rest
  | 'o' :: letters => do
    switchNamed on rest.head?
    switchAll on (rest.drop 1) letters
  | letter :: letters => do
    switchLetter on letter
    switchAll on rest letters

/-- Replaces the arguments of the script. -/
def setArguments (args : List String) : Act Unit :=
  modify fun st => { st with args, optionIndex := 1, optionOffset := none }

/-- Switches settings as arguments tell, and gives the arguments that are left; none if
    none are to be set. -/
def readSettings : Nat → List String → Act (Option (List String))
  | 0, _ => pure none
  | fuel + 1, args => do
    match args with
    | [] => pure none
    | arg :: rest =>
      match arg.toList with
      | ['-'] => do
        modify fun st => switch 'x' false (switch 'v' false st)
        pure (if rest = [] then none else some rest)
      | ['-', '-'] => pure (some rest)
      | '-' :: letters => do
        let rest ← switchAll true rest letters
        readSettings fuel rest
      | '+' :: letters => do
        let rest ← switchAll false rest letters
        readSettings fuel rest
      | _ => pure (some args)

/-- Switches settings, replaces the arguments of the script, or shows its variables. -/
def set (args : List String) : Act Nat := do
  if args = [] then showVariables "" (·.value.isSome)
  else
    match ← readSettings (args.length + 1) args with
    | some args => setArguments args
    | none => pure ()
  pure 0

/-- Drops the first arguments of the script. -/
def shift (args : List String) : Act Nat := do
  let count ←
    match args with
    | [] => pure 1
    | text :: _ => Arguments.number text
  let st ← get
  if st.args.length < count then Act.fail "can\x27t shift that many"
  setArguments (st.args.drop count)
  pure 0

/-! ## Reading -/

/-- Reads characters up to the end of a line, in which a backslash may protect some. Gives
    them as stretches of a word, how many were read, and whether the line ended. -/
def readLine (raw : Bool) : List Char → List Stretch × Nat × Bool
  | [] => ([], 0, false)
  | '\n' :: _ => ([], 1, true)
  | c :: rest =>
    if c = Char.ofNat 0 then
      let (line, count, ended) := readLine raw rest
      (line, count + 1, ended)
    else if c = Char.ofNat 0x5C && !raw then
      match rest with
      | [] => ([], 1, false)
      | d :: later =>
        let (line, count, ended) := readLine raw later
        let line := ⟨.atSeparators, []⟩ :: line
        (if d = '\n' then line else ⟨.never, [.char d true]⟩ :: line, count + 2, ended)
    else
      let (line, count, ended) := readLine raw rest
      match line with
      | ⟨.atSeparators, atoms⟩ :: line =>
        (⟨.atSeparators, .char c false :: atoms⟩ :: line, count + 1, ended)
      | line => (⟨.atSeparators, [.char c false]⟩ :: line, count + 1, ended)

/-- Sets variables to the fields of a line. -/
def setFields : List String → List String → Act Unit
  | [], _ => pure ()
  | name :: names, fields => do
    Act.demandName name
    Act.assign name (fields.headD "")
    setFields names (fields.drop 1)

/-- Reads a line into variables. The last one takes what is left of the line. -/
def read (args : List String) : Act Nat := do
  let (found, names) ← Arguments.options "p:r" args
  if names = [] then Act.fail "arg count"
  let st ← get
  let content :=
    match st.process.content 0 with
    | .ok content => content
    | .error _ => []
  let (line, count, ended) := readLine (Arguments.has found 'r') content
  Act.modifyProcess (·.skip 0 count)
  let separators := ((st.value? "IFS").getD fieldBlanks).toList
  let fields := (Fields.cut separators (some names.length) line).map Atom.text
  setFields names fields
  pure (if ended then 0 else 1)

/-! ## Reading options -/

/-- What `getopts` finds. -/
structure OptionFound where
  /-- What the variable is set to. -/
  letter : Char
  value : Option String
  complaint : Option String := none
  /-- The number of the argument that comes next. -/
  index : Nat
  /-- How far the argument before has been read, if that is not done. -/
  offset : Option Nat := none
  /-- Whether there are no more options. -/
  done : Bool := false

/-- Finds the next option among arguments, from a number and an offset on. -/
def nextOption (known : List Char) (args : Array String) (index : Nat)
    (offset : Option Nat) : OptionFound :=
  let quiet := known.head? = some ':'
  let letters := if quiet then known.drop 1 else known
  let unfinished :=
    if index ≤ 1 then []
    else offset.elim [] fun offset => (args[index - 2]?.getD "").toList.drop offset
  let argument := (args[index - 1]?.getD "").toList
  let (rest, index) :=
    if unfinished ≠ [] then (unfinished, index)
    else match argument with
      | '-' :: c :: rest => (c :: rest, index + 1)
      | _ => ([], index)
  let offsetOf (rest : List Char) : Option Nat :=
    some ((args[index - 2]?.getD "").length - rest.length)
  match rest with
  | [] => { letter := '?', value := none, index, done := true }
  | c :: rest =>
    if unfinished = [] && argument = ['-', '-'] then
      { letter := '?', value := none, index, done := true }
    else match Arguments.takesValue? letters c with
      | none =>
        if quiet then { letter := '?', value := some c.toString, index, offset := offsetOf rest }
        else
          { letter := '?', value := none, complaint := some s!"Illegal option -{c}\n", index,
            offset := offsetOf rest }
      | some false => { letter := c, value := some "", index, offset := offsetOf rest }
      | some true =>
        if rest ≠ [] then { letter := c, value := some (String.ofList rest), index }
        else match args[index - 1]? with
          | some value => { letter := c, value := some value, index := index + 1 }
          | none =>
            if quiet then
              { letter := ':', value := some c.toString, index, offset := offsetOf [] }
            else
              { letter := '?', value := none,
                complaint := some s!"No arg for -{c} option\n", index, offset := offsetOf [] }

/-- Reads the next option of the script into a variable. -/
def getopts (args : List String) : Act Nat := do
  match args with
  | known :: name :: given => do
    let st ← get
    let args := if given = [] then st.args else given
    let beyond := args.length + 1 < st.optionIndex
    let index := if beyond then 1 else st.optionIndex
    let offset := if beyond then none else st.optionOffset
    let found := nextOption known.toList args.toArray index offset
    if !found.done then
      match found.value with
      | some value => Act.assign "OPTARG" value
      | none => forget "OPTARG"
    match found.complaint with
    | some complaint => Act.print 2 complaint
    | none => pure ()
    Act.assign "OPTIND" (toString found.index)
    Act.demandName name
    Act.assign name found.letter.toString
    modify fun st => { st with optionIndex := found.index, optionOffset := found.offset }
    pure (if found.done then 1 else 0)
  | _ => Act.fail "Usage: getopts optstring var [arg...]"

end LineShell.Machine.Script.Own
