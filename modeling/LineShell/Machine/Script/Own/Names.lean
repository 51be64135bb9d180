/-
  LineShell.Machine.Script.Own.Names

  What the names of commands stand for, and the own commands of a script that tell it or
  change it.
-/
import LineShell.Machine.Script.Programs
import LineShell.Machine.Script.Arguments

namespace LineShell.Machine.Script

/-- The own commands of a script that are no part of the language. -/
def regularNames : List String :=
  ["[", "alias", "bg", "cd", "chdir", "command", "echo", "false", "fg", "getopts", "hash",
   "jobs", "kill", "printf", "pwd", "read", "test", "true", "type", "ulimit", "umask",
   "unalias", "wait"]

/-- Whether a name is that of an own command. -/
def isOwnName (name : String) : Bool :=
  specialNames.contains name || regularNames.contains name

namespace Own

/-! ## Shorthands -/

/-- A shorthand and the text that it stands for. -/
def shorthandText (entry : String × String) : String :=
  entry.1 ++ "=" ++ inQuotes entry.2

/-- Adds shorthands, or shows them. -/
def defineShorthands (args : List String) : Act Nat := do
  if args = [] then
    let entries := (← get).shorthands.mergeSort fun a b => State.listOf a.1 ≤ State.listOf b.1
    Act.say (String.join (entries.map fun entry => shorthandText entry ++ "\n"))
    pure 0
  else
    args.foldlM (fun status text => do
      let st ← get
      let first := text.toList.take 1
      let (name, value) :=
        (assignment? (String.ofList (text.toList.drop 1))).elim (text, none)
          fun (name, value) => (String.ofList first ++ name, some value)
      match value with
      | some value => do
        modify fun st =>
          { st with shorthands :=
              if (st.shorthands.lookup name).isSome then
                st.shorthands.map fun entry => if entry.1 = name then (name, value) else entry
              else st.shorthands ++ [(name, value)] }
        pure status
      | none =>
        match st.shorthands.lookup name with
        | some value => do
          Act.say (shorthandText (name, value) ++ "\n")
          pure status
        | none => do
          Act.print 2 s!"alias: {name} not found\n"
          pure 1) 0

/-- Removes shorthands. -/
def forgetShorthands (args : List String) : Act Nat := do
  let (found, names) ← Arguments.options "a" args
  if found ≠ [] then
    modify fun st => { st with shorthands := [] }
    pure 0
  else
    names.foldlM (fun status name => do
      let st ← get
      if (st.shorthands.lookup name).isSome then
        modify fun st => { st with shorthands := st.shorthands.filter (·.1 ≠ name) }
        pure status
      else
        Act.print 2 s!"unalias: {name} not found\n"
        pure 1) 0

/-! ## What a name stands for -/

/-- What the name of a command stands for. -/
inductive Meaning where
  | keyword
  | shorthand (text : String)
  | function
  | own (special : Bool)
  /-- A program; the flag tells whether it has been looked for before. -/
  | program (path : String) (known : Bool)
  | nothing
  deriving DecidableEq, Repr

/-- What a name stands for when programs are looked for along a list. -/
def meaning (st : State) (list : Option String) (name : String) : Meaning :=
  if keywords.any (·.1 = name) then .keyword
  else match st.shorthands.lookup name with
    | some text => .shorthand text
    | none =>
      if list.isNone && st.functions.any (·.1 = name) then .function
      else if isOwnName name then .own (specialNames.contains name)
      else
        let known := list.isNone && st.found.any (·.1 = name)
        if '/' ∈ name.toList then
          if st.process.machine.pathExists (Text.Raw.toText name) then .program name false
          else .nothing
        else match Programs.find st.process (list.getD st.search) name with
          | .ok path => .program path known
          | .error _ => .nothing

/-- A long description of what a name stands for. -/
def longText (name : String) : Meaning → String
  | .keyword => s!"{name} is a shell keyword"
  | .shorthand text => s!"{name} is an alias for {text}"
  | .function => s!"{name} is a shell function"
  | .own true => s!"{name} is a special shell builtin"
  | .own false => s!"{name} is a shell builtin"
  | .program path true => s!"{name} is a tracked alias for {path}"
  | .program path false => s!"{name} is {path}"
  | .nothing => s!"{name}: not found"

/-- A short description of what a name stands for. -/
def shortText (name : String) : Meaning → String
  | .shorthand text => "alias " ++ shorthandText (name, text)
  | .program path _ => path
  | _ => name

/-- Describes what a name stands for. -/
def describe (list : Option String) (long : Bool) (name : String) : Act Nat := do
  let found := meaning (← get) list name
  if list.isNone && '/' ∉ name.toList then
    match found with
    | .program _ false => modify fun st => { st with found := st.found ++ [(name, false)] }
    | _ => pure ()
  if found ≠ .nothing then
    Act.say ((if long then longText name found else shortText name found) ++ "\n")
    pure 0
  else
    if long then Act.say (longText name found ++ "\n")
    pure Programs.absent

/-- Describes what names stand for. -/
def type (names : List String) : Act Nat :=
  names.foldlM (fun status name => do
    pure (status ||| (← describe none true name))) 0

/-- Describes what a name stands for. The case of a command that is to be carried out is
    dealt with before. -/
def command (args : List String) : Act Nat := do
  let (found, operands) ← Arguments.options "pvV" args
  let list := if Arguments.has found 'p' then some programSearch else none
  match found.filter (·.1 ≠ 'p'), operands with
  | [], _ => pure 0
  | _, [] => pure 0
  | verify, name :: _ => describe list (Arguments.has verify 'V') name

/-- Shows or forgets the programs that have been found, or looks for some. -/
def hash (args : List String) : Act Nat := do
  let (found, names) ← Arguments.options "r" args
  let st ← get
  if found ≠ [] then
    modify fun st => { st with found := [] }
    pure 0
  else if names = [] then
    let entries := st.found.mergeSort fun a b => State.listOf a.1 ≤ State.listOf b.1
    Act.say (String.join (entries.map fun (name, changed) =>
      (match Programs.find st.process st.search name with
        | .ok path => path
        | .error _ => name) ++ (if changed then "*" else "") ++ "\n"))
    pure 0
  else
    names.foldlM (fun status name => do
      match meaning (← get) none name with
      | .nothing => do
        Act.complain s!"{name}: not found"
        pure 1
      | .program _ _ => do
        modify fun st =>
          { st with found := st.found.filter (·.1 ≠ name) ++ [(name, false)] }
        pure status
      | _ => pure status) 0

end Own
end LineShell.Machine.Script
