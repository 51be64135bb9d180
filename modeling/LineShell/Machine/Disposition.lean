/-
  LineShell.Machine.Disposition

  What a program that starts another one is told to do about signals before: some are to be
  ignored, some are to do again what they usually do, and some are to be held back.
-/
import LineShell.Machine.ChangeMode

namespace LineShell.Machine

/-! ## The names of signals -/

namespace Signal

/-- The names under which programs report signals where these differ from those of scripts,
    and further names. -/
def furtherNames : List (String × Nat) :=
  [("STKFLT", 16), ("POLL", 29), ("CLD", 17), ("IOT", 6)]

/-- The signals about which something can be arranged, as far as anybody knows. -/
def arrangeable : List Nat :=
  (List.range names.length).filter fun number => !([0, 32, 33].contains number)

/-- The name under which a program reports a signal. -/
def reportedName (number : Nat) : String :=
  match furtherNames.find? (·.2 = number), names[number]? with
  | some (name, 16), _ => name
  | some (name, 29), _ => name
  | _, some name => name
  | _, none => s!"SIG{number}"

/-- The signal that a number stands for, which may be the status that the signal leaves. -/
def ofStatus (number : Nat) : Nat :=
  if 255 ≤ number then number % 256 else number % 128

/-- The signal that is called by its number or by its name, in any case of letters and
    perhaps with `SIG` in front. -/
def named? (text : String) : Option Nat :=
  let number? : Option Nat :=
    if isNumber text then some (ofStatus (text.toNat?.getD 0))
    else
      let name := text.toUpper
      let bare := if name.startsWith "SIG" then (name.drop 3).toString else name
      match furtherNames.lookup bare, names.idxOf? bare with
      | some number, _ => some number
      | none, some number => if isNumber bare then none else some number
      | none, none => none
  number?.filter fun number => arrangeable.contains number

end Signal

/-! ## What is arranged -/

/-- What is done about a signal. -/
structure Disposition where
  /-- Whether it is ignored, or else does what it usually does. -/
  ignored : Bool
  /-- Whether it matters if that is impossible. -/
  strict : Bool
  deriving DecidableEq, Repr

/-- What is done about signals. -/
structure Dispositions where
  /-- What is done about single signals; of two entries for a signal the first counts. -/
  actions : List (Nat × Disposition) := []
  blocked : List Nat := []
  unblocked : List Nat := []
  deriving DecidableEq, Repr

namespace Dispositions

/-- Arranges that all signals are ignored or do what they usually do. -/
def arrangeAll (all : Dispositions) (ignored : Bool) : Dispositions :=
  { all with actions := Signal.arrangeable.map (·, ⟨ignored, false⟩) }

/-- Arranges that a signal is ignored or does what it usually does. -/
def arrange (ignored : Bool) (all : Dispositions) (signal : Nat) : Dispositions :=
  { all with actions := (signal, ⟨ignored, true⟩) :: all.actions }

/-- Arranges that all signals are held back, or that none is. -/
def blockAll (all : Dispositions) (blocked : Bool) : Dispositions :=
  if blocked then { all with blocked := Signal.arrangeable, unblocked := [] }
  else { all with blocked := [], unblocked := Signal.arrangeable }

/-- Arranges that a signal is held back or is not. -/
def block (blocked : Bool) (all : Dispositions) (signal : Nat) : Dispositions :=
  if blocked then
    { all with blocked := signal :: all.blocked, unblocked := all.unblocked.filter (· ≠ signal) }
  else
    { all with blocked := all.blocked.filter (· ≠ signal), unblocked := signal :: all.unblocked }

/-- Arranges something about each signal in a list of names, or about all signals if there
    is no list. Gives the first name that is none if there is one. -/
def arrangeListed (all : Dispositions) (value : Option String)
    (forAll : Dispositions → Dispositions) (forOne : Dispositions → Nat → Dispositions) :
    Except String Dispositions :=
  match value with
  | none => .ok (forAll all)
  | some value =>
    ((Text.segments ',' value.toList).filter (· ≠ [])).foldlM (fun all chars =>
      let name := String.ofList chars
      match Signal.named? name with
      | some signal => .ok (forOne all signal)
      | none => .error name) all

/-- What an option arranges that is called by its name. -/
def apply (all : Dispositions) (option : String) (value : Option String) :
    Except String Dispositions :=
  match option with
  | "ignore-signal" => all.arrangeListed value (·.arrangeAll true) (arrange true)
  | "default-signal" => do
    let all ← all.arrangeListed value (·.arrangeAll false) (arrange false)
    all.arrangeListed value (·.blockAll false) (block false)
  | "block-signal" => all.arrangeListed value (·.blockAll true) (block true)
  | _ => .ok all

/-- Carries out what was arranged about one signal. Gives what is told about it, or the
    complaint. -/
def carryOutOne (p : Process) (signal : Nat) (action : Disposition) :
    Except String (Process × String) :=
  let impossible := Signal.unstoppable.contains signal
  if impossible && action.strict then
    .error s!"failed to set signal action for signal {signal}: {IoError.badArgument.reason}"
  else
    let others := p.ignored.filter (· ≠ signal)
    let p :=
      if impossible then p
      else { p with ignored := if action.ignored then signal :: others else others }
    let what := if action.ignored then "IGNORE" else "DEFAULT"
    let failure := if impossible then " (failure ignored)" else ""
    .ok (p, s!"Reset signal {Signal.reportedName signal} ({signal}) to {what}{failure}")

/-- Carries out what was arranged about the signals that are ignored or not, telling of each
    through `tell`. Gives whether that was possible. -/
def carryOutActions (called : String) (tell : String → StateM Process Unit)
    (all : Dispositions) : List Nat → StateM Process Bool
  | [] => pure true
  | signal :: signals =>
    match all.actions.lookup signal with
    | none => carryOutActions called tell all signals
    | some action => do
      match carryOutOne (← get) signal action with
      | .error complaint =>
        complainAs called complaint
        pure false
      | .ok (p, text) =>
        set p
        tell text
        carryOutActions called tell all signals

/-- Carries out everything that was arranged, telling of each step through `tell`. Gives
    whether that was possible. -/
def carryOut (called : String) (tell : String → StateM Process Unit) (all : Dispositions) :
    StateM Process Bool := do
  if !(← carryOutActions called tell all Signal.arrangeable) then pure false
  else
    Signal.arrangeable.forM fun signal => do
      let name := Signal.reportedName signal
      if all.blocked.contains signal then
        tell s!"signal {name} ({signal}) mask set to BLOCK"
      else if all.unblocked.contains signal then
        tell s!"signal {name} ({signal}) mask set to UNBLOCK"
    let blocked := all.blocked.filter fun signal => !Signal.unstoppable.contains signal
    modify fun p =>
      { p with blocked := blocked ++ p.blocked.filter fun signal => !all.unblocked.contains signal }
    pure true

end Dispositions

/-- Tells of each signal that is ignored or held back. -/
def reportSignals : StateM Process Unit := do
  let p ← get
  Signal.arrangeable.forM fun signal => do
    let words :=
      (if p.blocked.contains signal then ["BLOCK"] else []) ++
        (if p.ignored.contains signal then ["IGNORE"] else [])
    if words ≠ [] then
      let name := Signal.reportedName signal
      let space := String.ofList (List.replicate (10 - name.length) ' ')
      let number := if signal < 10 then s!" {signal}" else s!"{signal}"
      printTo 2 (s!"{name}{space} ({number}): " ++ ",".intercalate words ++ "\n")

end LineShell.Machine
