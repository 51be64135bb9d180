/-
  LineShell.Machine.Script.Own.Signals

  The own commands of a script that send signals, that arrange for signals, and that wait
  for commands which were started without waiting for them.
-/
import LineShell.Machine.Script.Arguments

namespace LineShell.Machine.Script.Own

/-! ## Sending -/

/-- How signals are sent. -/
def killUsage : String :=
  "Usage: kill [-s sigspec | -signum | -sigspec] [pid | job]... or\nkill -l [exitstatus]"

/-- The job that a text with a percent sign stands for. -/
def jobOf (text : String) : Act Job := do
  let jobs := (← get).jobs
  let name := String.ofList (text.toList.drop 1)
  let job? :=
    if Signal.isNumber name then jobs.find? (·.slot = name.toNat?.getD 0)
    else if name = "" || name = "%" || name = "+" then jobs.getLast?
    else none
  match job? with
  | some job => pure job
  | none => Act.fail s!"No such job: {text}"

/-- The number of the process that a text stands for; none for a group of processes. -/
def receiverOf (text : String) : Act (Option Nat) := do
  match text.toList with
  | '%' :: _ => pure (some (← jobOf text).process)
  | '-' :: digits =>
    let _ ← Arguments.number (String.ofList digits)
    pure none
  | _ => some <$> Arguments.number text

/-- Sends a signal to a process; tells whether there is one. -/
def sendTo (signal : Nat) : Option Nat → Act Bool
  | none => pure false
  | some receiver => do
    let st ← get
    if receiver = st.process.number then
      Act.receive signal
      pure true
    else if st.process.ancestors.contains receiver then
      Act.modifyProcess fun p =>
        { p with system :=
            { p.system with signals := p.system.signals ++ [(receiver, signal)] } }
      pure true
    else pure (st.jobs.any (·.process = receiver))

/-- Sends a signal to processes. -/
def send (signal : Nat) (receivers : List String) : Act Nat :=
  receivers.foldlM (fun status text => do
    if ← sendTo signal (← receiverOf text) then pure status
    else
      Act.complain "No such process\n"
      pure 1) 0

/-- Shows the names of all signals, or of one. -/
def showSignals : List String → Act Nat
  | [] => do
    Act.say ("0\n" ++ String.join ((Signal.names.drop 1).map (· ++ "\n")))
    pure 0
  | text :: _ => do
    let number ← Arguments.number text
    let number := if 128 < number then number - 128 else number
    match if number = 0 then none else Signal.names[number]? with
    | some name => do
      Act.say (name ++ "\n")
      pure 0
    | none => Act.fail s!"invalid signal number or exit status: {text}"

/-- Sends signals, or shows their names. -/
def kill (args : List String) : Act Nat := do
  let first := (args.headD "").toList
  let direct? :=
    if first.head? = some '-' then Signal.number? 1 (String.ofList (first.drop 1)) else none
  match direct? with
  | some signal => if args.length < 2 then Act.fail killUsage else send signal (args.drop 1)
  | none =>
    let (found, operands) ← if first.head? = some '-' then Arguments.options "ls:" args
      else pure ([], args)
    let named := found.filterMap (·.2)
    let signals ← named.mapM fun name =>
      match Signal.number? 1 name with
      | some signal => pure signal
      | none => Act.fail s!"invalid signal number or name: {name}"
    match Arguments.has found 'l', operands with
    | true, operands => if signals = [] then showSignals operands else Act.fail killUsage
    | false, [] => Act.fail killUsage
    | false, operands => send (signals.getLast?.getD Signal.terminate) operands

/-! ## Arranging -/

/-- Shows what has been arranged. -/
def showTraps : Act Unit := do
  let traps := (← get).traps.mergeSort fun a b => a.1 ≤ b.1
  Act.say (String.join (traps.map fun (signal, text) =>
    "trap -- " ++ inQuotes text ++ " " ++ (Signal.names[signal]?.getD "") ++ "\n"))

/-- Arranges for signals, or takes back what was arranged. -/
def arrange (action : Option String) : List String → Act Nat
  | [] => pure 0
  | name :: names => do
    match Signal.number? 0 name with
    | none => do
      Act.print 2 s!"trap: {name}: bad trap\n"
      pure 1
    | some signal => do
      modify fun st =>
        let others := st.traps.filter (·.1 ≠ signal)
        { st with traps := others ++ (action.map fun text => (signal, text)).toList }
      arrange action names

/-- Arranges for signals, or shows what has been arranged. -/
def trap (args : List String) : Act Nat := do
  let (_, operands) ← Arguments.options "" args
  match operands with
  | [] => do
    showTraps
    pure 0
  | action :: names =>
    if names = [] || Signal.isNumber action && (Signal.number? 0 action).isSome then
      arrange none operands
    else arrange (if action = "-" then none else some action) names

/-! ## Waiting -/

/-- Waits for the end of a job; gives its status. -/
def waitFor (job : Job) : Act Nat := do
  if !job.noticed then Act.noticeEnd job.ending
  modify fun st =>
    { st with jobs := st.jobs.map fun other =>
        if other.process = job.process then { other with noticed := true, waited := true }
        else other }
  pure job.ending.status

/-- The status of a job that is not known. -/
def unknownJob : Nat := 127

/-- Waits for the ends of jobs. -/
def wait (args : List String) : Act Nat := do
  let (_, operands) ← Arguments.options "" args
  if operands = [] then
    modify fun st =>
      { st with jobs := st.jobs.map fun job => { job with noticed := true, waited := true } }
    pure 0
  else
    operands.foldlM (fun status text => do
      if text.toList.head? = some '%' then waitFor (← jobOf text)
      else
        let number ← Arguments.number text
        match (← get).jobs.find? (·.process = number) with
        | some job => waitFor job
        | none => pure status) unknownJob

/-- Refuses to bring a job back, since no job is under control. -/
def bringBack (args : List String) : Act Nat := do
  match args with
  | [] =>
    if (← get).jobs.isEmpty then Act.fail "No current job"
    else Act.fail "job (null) not created under job control"
  | name :: _ =>
    let _ ← jobOf name
    Act.fail s!"job {name} not created under job control"

/-- Shows the jobs that are still running. There are none. -/
def showJobs (args : List String) : Act Nat := do
  let _ ← Arguments.options "lp" args
  pure 0

end LineShell.Machine.Script.Own
