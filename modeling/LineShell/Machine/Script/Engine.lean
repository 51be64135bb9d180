/-
  LineShell.Machine.Script.Engine

  What carrying out a command rests on: processes that a script starts and waits for,
  signals and what a script does about them, and texts that are carried out as scripts of
  their own. Commands inside other commands are carried out by an `Engine`.
-/
import LineShell.Machine.Script.State

namespace LineShell.Machine.Script

/-- How a command is carried out. -/
structure Manner where
  /-- Whether its failure is looked at, so that it does not end the script. -/
  tested : Bool := false
  /-- Whether nothing of the script follows it. -/
  last : Bool := false
  deriving DecidableEq, Repr

/-- How commands inside a command are carried out, and how programs run. -/
structure Engine where
  carryOut : Manner → Command → Act Unit
  /-- Runs a program in a process that has been made for it. -/
  runProgram : Variables → Image → EStateM Unit Process Ending

/-! ## Signals -/

namespace Act

/-- The number of the signal that tells of the end of a child. -/
def childSignal : Nat := 17

/-- Receives a signal: does what has been arranged for it, or else what signals do. -/
def receive (signal : Nat) : Act Unit := do
  let st ← get
  if Signal.unstoppable.contains signal then
    if Signal.stopping.contains signal then pure () else throw (.ended (.signaled signal))
  else if st.process.ignored.contains signal || st.process.blocked.contains signal then
    pure ()
  else match st.traps.lookup signal with
    | some "" => pure ()
    | some _ => set { st with arrived := st.arrived ++ [signal] }
    | none =>
      if Signal.harmless.contains signal || Signal.stopping.contains signal then pure ()
      else throw (.ended (.signaled signal))

/-- Receives the signals that others have sent to this process. -/
def receiveSent : Act Unit := do
  let number := (← get).process.number
  let sent := (← get).process.system.signals
  modifyProcess fun p =>
    { p with system := { p.system with signals := sent.filter (·.1 ≠ number) } }
  (sent.filter (·.1 = number)).forM fun signal => receive signal.2

/-- The signals of which nothing is said when they end a child. -/
def silentSignals : List Nat := [2, 13]

/-- The number of the next job. The numbers of jobs that have been waited for are given
    again, and these jobs forgotten. -/
def claimSlot : Act Nat := do
  let st ← get
  let isFree (slot : Nat) : Bool := st.jobs.all fun job => job.slot ≠ slot || job.waited
  let slot := ((List.range (st.jobs.length + 1)).map (· + 1)).find? isFree
  let slot := slot.getD 1
  set { st with jobs := st.jobs.filter (·.slot ≠ slot) }
  pure slot

/-- Takes notice of the end of a child. -/
def noticeEnd (ending : Ending) : Act Unit := do
  modify fun st => { st with jobs := st.jobs.map fun job => { job with noticed := true } }
  match ending with
  | .exited _ => pure ()
  | .signaled signal =>
    if silentSignals.contains signal then pure () else print 2 s!"{Signal.text signal}\n"
  if (← get).traps.any fun entry => entry.1 = childSignal && entry.2 ≠ "" then
    receive childSignal
  receiveSent

end Act

/-! ## Scripts inside scripts -/

namespace Engine

/-- Carries out the lines of a source one by one. The manner holds for the last one. Gives
    whether there was any command. The fuel is more than the length of the source. -/
def runLines (engine : Engine) (manner : Manner) : Nat → Bool → Source → Act Bool
  | 0, any, _ => pure any
  | fuel + 1, any, source => do
    let st ← get
    let source := { source with documents := st.documents, shorthands := st.shorthands }
    match source.readLine with
    | .error fault => Act.refuse fault
    | .ok (ended, command, later) => do
      modify fun st => { st with documents := later.documents, sourceLine := later.line }
      if source.shown && st.settings.contains 'v' then
        Act.print 2 (String.ofList (source.rest.take (source.rest.length - later.rest.length)))
      match command with
      | none => if ended then pure any else engine.runLines manner fuel any later
      | some command => do
        engine.carryOut { manner with last := manner.last && later.rest = [] } command
        engine.runLines manner fuel true later

/-- Carries out a source. Its status is that of its last command, or zero. -/
def runSource (engine : Engine) (manner : Manner) (source : Source) : Act Unit := do
  let sourceLine := (← get).sourceLine
  let any ← Act.ensure (engine.runLines manner (source.rest.length + 2) false source)
    (modify fun st => { st with sourceLine })
  if !any then Act.setStatus 0

/-- Carries out a text. -/
def runText (engine : Engine) (manner : Manner) (text : String) : Act Unit :=
  engine.runSource manner { rest := text.toList }

/-- Carries out a text that comes from a file. NUL is passed over. -/
def runContent (engine : Engine) (content : List Char) : Act Unit :=
  engine.runSource {} { rest := content.filter (· ≠ Char.ofNat 0), shown := true }

/-- Does what has been arranged for the signals that have arrived. -/
def attend (engine : Engine) : Act Unit := do
  let st ← get
  if st.arrived = [] then pure ()
  else
    let status := st.statusBefore.getD st.status
    set { st with arrived := [], statusBefore := some status }
    let arrived := st.arrived.eraseDups.mergeSort fun a b => a ≤ b
    arrived.forM fun signal => do
      match (← get).traps.lookup signal with
      | some text => do
        engine.runText {} text
        Act.setStatus status
      | none => pure ()
    modify fun later => { later with statusBefore := st.statusBefore }

/-- Does what has been arranged for the end of the script, of which the status has been
    noted. -/
def finish (engine : Engine) : Act Ending := do
  let st ← get
  let ending : Ending := .exited st.status
  match st.traps.lookup 0 with
  | none => pure ending
  | some text => do
    set { st with traps := st.traps.filter (·.1 ≠ 0), statusBefore := some st.status }
    try
      engine.runText {} text
      pure ending
    catch stop =>
      match stop with
      | .exit => pure (.exited (← get).status)
      | .failure => pure (.exited (← get).status)
      | .ended ending => pure ending
      | .exhausted => throw .exhausted
      | _ => pure ending

/-- Carries out an action as everything that a process does; gives how the process ends. -/
def whole (engine : Engine) (action : Act Unit) : Act Ending := do
  let ended? ← try
      action
      pure none
    catch stop =>
      match stop with
      | .ended ending => pure (some ending)
      | .exhausted => throw .exhausted
      | _ => pure none
  match ended? with
  | some ending => pure ending
  | none => engine.finish

/-! ## Children -/

/-- The state of a child at its start. It keeps no arrangements but to ignore signals. -/
def childState (st : State) : State :=
  { st with
    process := st.process.child
    traps := st.traps.filter (·.2 = "")
    arrived := []
    statusBefore := none
    jobs := [] }

/-- Carries out an action in a child, and waits for its end. -/
def inChild (engine : Engine) (action : Act Unit) : Act Ending := do
  let st ← get
  match (engine.whole action).run (childState st) with
  | .ok ending child => do
    set { st with process := st.process.absorb child.process }
    pure ending
  | .error _ child => do
    set { st with process := st.process.absorb child.process }
    throw .exhausted

/-- The signals that the programs which a script starts do not notice. -/
def ignored (st : State) : List Nat :=
  st.process.ignored ++ ((st.traps.filter (·.2 = "")).map (·.1))

/-- Runs a program instead of the script. -/
def become (engine : Engine) (image : Image) : Act Unit := do
  let st ← get
  match (engine.runProgram st.block image).run { st.process with ignored := ignored st } with
  | .ok ending p => do
    set { st with process := p }
    throw (.ended ending)
  | .error _ p => do
    set { st with process := p }
    throw .exhausted

/-- Waits for the end of a child that has been run, whose status becomes the last one. -/
def await (ending : Ending) : Act Unit := do
  Act.noticeEnd ending
  Act.setStatus ending.status

/-- Runs a program, and waits for its end unless nothing of the script follows. -/
def runImage (engine : Engine) (manner : Manner) (image : Image) : Act Unit := do
  if manner.last && (← get).traps.all (·.2 = "") then engine.become image
  else
    let _ ← Act.claimSlot
    let ending ← engine.inChild (engine.become image)
    await ending

/-- What commands inside a word print. -/
def output (engine : Engine) : Option Command → Act String
  | none => pure ""
  | some command => do
    let st ← get
    let (p, _, writing) := st.process.addPipe
    set { st with process := p }
    let _ ← Act.claimSlot
    let ending ← engine.inChild do
      Act.modifyProcess fun p => p.assign 1 writing
      engine.carryOut { last := true } command
    let pipes := (← get).process.system.pipes
    Act.noticeEnd ending
    modify fun st => { st with innerStatus := ending.status }
    pure (pipes[st.process.system.pipes.size]?.getD "")

end Engine
end LineShell.Machine.Script
