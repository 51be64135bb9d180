/-
  LineShell.Machine.Script.Evaluation

  Carrying out the commands of a script.
-/
import LineShell.Machine.Script.Own
import LineShell.Machine.Script.Redirect

namespace LineShell.Machine.Script

/-! ## What a simple command calls -/

/-- What the arguments of a simple command call. -/
structure Callee where
  /-- The name of what is called, and its arguments. -/
  argv : List String := []
  /-- Whether the name was given to `command`, so that it is that of no function and a
      misuse does not end the script. -/
  plain : Bool := false
  /-- Where programs are looked for, if that is not told by the script. -/
  list : Option String := none

namespace Callee

/-- The arguments of `command` behind its options, and whether these ask for the usual
    list; none if nothing is to be carried out. -/
def behindOptions? (usual : Bool) : List String → Option (Bool × List String)
  | [] => none
  | arg :: rest =>
    match arg.toList with
    | ['-', '-'] => if rest = [] then none else some (usual, rest)
    | '-' :: c :: letters =>
      if (c :: letters).all (· = 'p') then behindOptions? true rest else none
    | _ => some (usual, arg :: rest)

/-- What arguments call. The fuel is more than their number. -/
def ofArguments (st : State) : Nat → Callee → Callee
  | 0, callee => callee
  | fuel + 1, callee =>
    match callee.argv with
    | "command" :: rest =>
      if !callee.plain && st.functions.any (·.1 = "command") then callee
      else match behindOptions? false rest with
        | some (usual, argv) =>
          ofArguments st fuel
            { argv, plain := true, list := if usual then some programSearch else callee.list }
        | none => callee
    | _ => callee

/-- What arguments call. -/
def of (st : State) (args : List String) : Callee :=
  ofArguments st (args.length + 1) { argv := args }

/-- The body of the function that is called. -/
def function? (st : State) (callee : Callee) : Option Command :=
  if callee.plain then none else callee.argv.head?.bind fun name => st.functions.lookup name

/-- The own command that is called. -/
def own? (st : State) (callee : Callee) : Option Own :=
  if (callee.function? st).isSome then none else callee.argv.head?.bind Script.own?

/-- Whether what is called is a part of the language, so that a misuse ends the script. -/
def isSpecial (st : State) (callee : Callee) : Bool :=
  !callee.plain && (callee.own? st).any (·.special)

/-- Whether what is called takes assignments as arguments. -/
def declares (st : State) (callee : Callee) : Bool :=
  (callee.own? st).any (·.declares)

/-- Whether another program takes the place of the script, or its descriptors stay as they
    are redirected. -/
def replaces (st : State) (callee : Callee) : Bool :=
  (callee.own? st).isSome && callee.argv.head? = some "exec"

end Callee

namespace Engine

/-- Replaces the words of a simple command by arguments. -/
def arguments (engine : Engine) (args : List String) : List Word → Act (List String)
  | [] => pure args
  | word :: words => do
    let st ← get
    let declares := args ≠ [] && (Callee.of st args).declares st
    let more ←
      if declares && (assignmentOf? word).isSome then
        (fun text => [text]) <$> Expansion.textOf engine.output .declaration word
      else Expansion.fieldsOf engine.output word
    engine.arguments (args ++ more) words

/-! ## Tracing -/

/-- What stands in front of a traced command. -/
def traceLead (engine : Engine) : Act String := do
  let st ← get
  let text := (st.value? "PS4").getD ""
  match readText text with
  | none => pure text
  | some word => do
    modify fun st => Own.switch 'x' false st
    let lead ← Expansion.textOf engine.output .document word
    modify fun later => { later with settings := st.settings }
    pure lead

/-- Tells what is carried out, if the script wants that, to where complaints went before
    any redirections. -/
def trace (engine : Engine) (descriptors : List (Nat × Nat)) (parts : List String) :
    Act Unit := do
  if ← Act.isOn 'x' then
    let lead ← engine.traceLead
    let now := (← get).process.descriptors
    Act.modifyProcess fun p => { p with descriptors }
    Act.print 2 (lead ++ " ".intercalate parts ++ "\n")
    Act.modifyProcess fun p => { p with descriptors := now }

/-! ## Simple commands -/

/-- Sets the variables that a command sets, and gives the assignments as texts. -/
def assignAll (engine : Engine) (isLocal exported : Bool) :
    List (String × Word) → Act (List String)
  | [] => pure []
  | (name, word) :: later => do
    let value ← Expansion.textOf engine.output .assignment word
    if isLocal then Act.hide name
    Act.setVariable name (some value) fun v =>
      { v with exported := v.exported || isLocal || exported }
    let others ← engine.assignAll isLocal exported later
    pure ((name ++ "=" ++ value) :: others)

/-- Carries out a function. -/
def callFunction (engine : Engine) (manner : Manner) (args : List String) (body : Command) :
    Act Unit := do
  let st ← get
  set { st with args, loops := 0, optionIndex := 1, optionOffset := none }
  Act.ensure
    (try
      engine.carryOut { tested := manner.tested } body
    catch stop =>
      match stop with
      | .leaveFunction => pure ()
      | stop => throw stop)
    (modify fun later =>
      { later with
        args := st.args
        loops := st.loops
        optionIndex := st.optionIndex
        optionOffset := st.optionOffset })

/-- Carries out an own command. A misuse does not end the script unless the command is
    special. -/
def callOwn (engine : Engine) (manner : Manner) (special : Bool) (own : Own)
    (argv : List String) : Act Unit := do
  let name := argv.headD ""
  Act.named (some name) do
    try
      let status ← own.run engine manner (argv.drop 1)
      let failed := (← get).writingFailed
      modify fun st => { st with writingFailed := false }
      if failed then Act.complain s!"{name}: I/O error"
      Act.setStatus (if failed then status ||| 1 else status)
    catch stop =>
      match stop with
      | .failure => if special then throw .failure else pure ()
      | stop => throw stop

/-- Carries out what is called. -/
def call (engine : Engine) (manner : Manner) (callee : Callee) : Act Unit := do
  let st ← get
  match callee.argv with
  | [] => Act.setStatus st.innerStatus
  | _ :: args =>
    match callee.function? st, callee.own? st with
    | some body, _ => engine.callFunction manner args body
    | none, some own => engine.callOwn manner (callee.isSpecial st) own callee.argv
    | none, none => Programs.run engine manner (callee.list.getD st.search) callee.argv

/-- Carries out an action in a scope of its own, if it needs one. -/
def inScope (needed : Bool) (action : Act Unit) : Act Unit := do
  if needed then
    Act.openScope
    Act.ensure action Act.closeScope
  else action

/-- Carries out a simple command. -/
def simple (engine : Engine) (manner : Manner) (line : Nat)
    (assignments : List (String × Word)) (words : List Word)
    (redirections : List Redirection) : Act Unit := do
  modify fun st => { st with line, innerStatus := 0 }
  let args ← engine.arguments [] words
  let st ← get
  let callee := Callee.of st args
  let special := callee.isSpecial st
  let replaces := callee.replaces st
  let isLocal := args ≠ [] && !special
  let descriptors := st.process.descriptors
  let action : Act Unit := do
    let targets ← engine.targets redirections
    if ← engine.redirected targets then
      inScope (isLocal && (assignments.length ≠ 0 || (callee.function? st).isSome)) do
        let exported := replaces && 1 < callee.argv.length
        let told ← engine.assignAll isLocal exported assignments
        engine.trace descriptors (told ++ args)
        engine.call manner callee
    else if special then throw .failure
  if replaces then action else restoring action

/-! ## Compound commands -/

/-- What comes after a round of a loop. -/
inductive Round where
  | goOn
  | again
  | leave
  deriving DecidableEq, Repr

/-- Carries out a part of a loop. -/
def inRound (action : Act Unit) : Act Round := do
  try
    action
    pure .goOn
  catch stop =>
    match stop with
    | .leaveLoops count => if count ≤ 1 then pure .leave else throw (.leaveLoops (count - 1))
    | .nextRound count => if count ≤ 1 then pure .again else throw (.nextRound (count - 1))
    | stop => throw stop

/-- Carries out an action as a loop. -/
def inLoop (action : Act Unit) : Act Unit := do
  modify fun st => { st with loops := st.loops + 1 }
  Act.ensure action (modify fun st => { st with loops := st.loops - 1 })

/-- Carries out a command, if there is one. -/
def carryOut? (engine : Engine) (manner : Manner) : Option Command → Act Unit
  | some command => engine.carryOut manner command
  | none => pure ()

/-- Repeats a body as long as the condition holds, or as long as it does not. The status is
    that of the last round. -/
def rounds (engine : Engine) (manner : Manner) (untilHolds : Bool)
    (condition body : Option Command) : Nat → Nat → Act Unit
  | 0, _ => throw .exhausted
  | more + 1, status => do
    match ← inRound (engine.carryOut? { tested := true } condition) with
    | .leave => Act.setStatus status
    | .again => engine.rounds manner untilHolds condition body more status
    | .goOn =>
      let holds := (← get).status = 0
      if holds = untilHolds then Act.setStatus status
      else match ← inRound (engine.carryOut? manner body) with
        | .leave => Act.setStatus (← get).status
        | _ => engine.rounds manner untilHolds condition body more (← get).status

/-- How many rounds a loop may take. -/
def roundLimit : Nat := 10000000

/-- Carries out a body for each of some texts. -/
def forAll (engine : Engine) (manner : Manner) (name : String) (body : Option Command) :
    List String → Act Unit
  | [] => pure ()
  | text :: later => do
    Act.assign name text
    match ← inRound (engine.carryOut? manner body) with
    | .leave => pure ()
    | _ => engine.forAll manner name body later

/-- Whether one of some patterns matches a text. -/
def matchesAny (engine : Engine) (subject : String) : List Word → Act Bool
  | [] => pure false
  | pattern :: later => do
    let pattern ← Expansion.patternOf engine.output pattern
    if Pattern.matchesText pattern subject then pure true
    else engine.matchesAny subject later

/-- Carries out the first body of which a pattern matches a text. -/
def choose (engine : Engine) (manner : Manner) (subject : String) :
    List (List Word × Option Command) → Act Unit
  | [] => Act.setStatus 0
  | (patterns, body) :: later => do
    if ← engine.matchesAny subject patterns then
      match body with
      | some body => engine.carryOut manner body
      | none => Act.setStatus 0
    else engine.choose manner subject later

/-- Carries out commands in order. The manner holds for the last one. -/
def inSequence (engine : Engine) (manner : Manner) : List Command → Act Unit
  | [] => pure ()
  | [command] => engine.carryOut manner command
  | command :: later => do
    engine.carryOut { tested := manner.tested } command
    engine.inSequence manner later

/-- Carries out a command in a child of the script. -/
def inSubshell (engine : Engine) (manner : Manner) (command : Option Command)
    (redirections : List Redirection) : Act Unit := do
  let targets ← engine.targets redirections
  let action : Act Unit := do
    engine.redirect targets
    engine.carryOut? { manner with last := true } command
  if manner.last && (← get).traps.all (·.2 = "") then
    action
    throw .exit
  else
    let _ ← Act.claimSlot
    let ending ← engine.inChild action
    await ending

/-- Carries out the stages of a pipeline, each in a child. A stage reads what the one before
    it has written. Gives how they end. -/
def throughStages (engine : Engine) (manner : Manner) (reading : Option Nat) :
    List Command → Act (List Ending)
  | [] => pure []
  | stage :: later => do
    let (p, next, writing) := (← get).process.addPipe
    let isLast := later.isEmpty
    if !isLast then Act.modifyProcess fun _ => p
    let ending ← engine.inChild do
      match reading with
      | some reading => Act.modifyProcess fun p => p.assign 0 reading
      | none => pure ()
      if !isLast then Act.modifyProcess fun p => p.assign 1 writing
      engine.carryOut { manner with last := true } stage
    let endings ← engine.throughStages manner (if isLast then none else some next) later
    pure (ending :: endings)

/-- The signals that a command which is not waited for does not notice. -/
def keyboardSignals : List Nat := [2, 3]

/-- Starts a command that is not waited for. It has nothing to read. -/
def inBackground (engine : Engine) (command : Option Command)
    (redirections : List Redirection) : Act Unit := do
  let targets ← engine.targets redirections
  let slot ← Act.claimSlot
  let number := (← get).process.system.processes + 1
  let ending ← engine.inChild do
    Act.modifyProcess fun p =>
      let (p, nothing) := p.addOpening { stream := .special .null, reads := true, writes := false }
      { p.assign 0 nothing with ignored := p.ignored ++ keyboardSignals }
    engine.redirect targets
    engine.carryOut? { last := true } command
  modify fun st =>
    { st with
      jobs := st.jobs ++ [{ slot, process := number, ending }]
      lastJob := some number }
  Act.receiveSent
  Act.setStatus 0

/-- Ends the script if a command has failed and the script wants that. -/
def demandSuccess (manner : Manner) (status : Nat) : Act Unit := do
  if status ≠ 0 && !manner.tested && (← Act.isOn 'e') then Act.finish status

/-- Carries out a command; gives whether its failure may end the script. -/
def perform (engine : Engine) (manner : Manner) : Command → Act Bool
  | .simple line assignments words redirections => do
    engine.simple manner line assignments words redirections
    pure true
  | .pipeline stages => do
    let _ ← Act.claimSlot
    let endings ← engine.throughStages manner none stages
    endings.forM Act.noticeEnd
    Act.setStatus ((endings.getLast?.map Ending.status).getD 0)
    pure true
  | .sequence commands => do
    engine.inSequence manner commands
    pure false
  | .andThen first later => do
    engine.carryOut { tested := true } first
    if (← get).status = 0 then engine.carryOut manner later
    pure false
  | .orElse first later => do
    engine.carryOut { tested := true } first
    if (← get).status ≠ 0 then engine.carryOut manner later
    pure false
  | .negated command => do
    engine.carryOut { tested := true } command
    Act.setStatus (if (← get).status = 0 then 1 else 0)
    pure false
  | .conditional condition body otherwise => do
    engine.carryOut? { tested := true } condition
    if (← get).status = 0 then engine.carryOut? manner body
    else match otherwise with
      | some otherwise => engine.carryOut manner otherwise
      | none => Act.setStatus 0
    pure false
  | .repeated untilHolds condition body => do
    inLoop (engine.rounds { tested := manner.tested } untilHolds condition body roundLimit 0)
    pure false
  | .forEach line name items body => do
    modify fun st => { st with line }
    let texts ← Expansion.allFieldsOf engine.output items
    if texts = [] then Act.setStatus 0
    else inLoop (engine.forAll { tested := manner.tested } name body texts)
    pure false
  | .choice line subject branches => do
    modify fun st => { st with line }
    let subject ← Expansion.textOf engine.output .text subject
    engine.choose manner subject branches
    pure false
  | .redirected line command redirections => do
    modify fun st => { st with line }
    restoring do
      let targets ← engine.targets redirections
      if ← engine.redirected targets then
        engine.carryOut? { tested := manner.tested } command
        pure false
      else pure true
  | .subshell line command redirections => do
    modify fun st => { st with line }
    engine.inSubshell manner command redirections
    pure true
  | .background command redirections => do
    engine.inBackground command redirections
    pure true
  | .function name body => do
    modify fun st =>
      { st with functions := (name, body) :: st.functions.filter (·.1 ≠ name) }
    Act.setStatus 0
    pure false

/-- Carries out a command, and attends to signals before and after it. -/
def carryOutWith (engine : Engine) (manner : Manner) (command : Command) : Act Unit := do
  if ← Act.isOn 'n' then pure ()
  else
    engine.attend
    let mayEnd ← engine.perform manner command
    let status := (← get).status
    engine.attend
    if mayEnd then demandSuccess manner status

end Engine
end LineShell.Machine.Script
