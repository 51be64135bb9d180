/-
  LineShell.Proofs.Command

  What one command can come to.

  `Shell.attempt` is a command before anything is made of its result: the action of the
  builtin that accepts it, or else the search, start and end of a program. `Shell.Ends`
  lists the four ways from there to the end of the command, and `Shell.ends_iff` says that
  these rules describe `Shell.run` on every command with a name. All that is proved of
  commands goes by cases on the four rules; nothing else opens `Shell.run`.
-/
import LineShell.Program
import LineShell.Proofs.Stream

namespace LineShell

/-! ## Failures as the shell reports them -/

namespace Failure

/-- Whether the shell stops at a failure without reporting it. -/
def isFatal : Failure → Bool
  | shell error => error.isFatal
  | _ => false

/-- The text of the report on a failure. -/
def message : Failure → String
  | shell error => error.message
  | failure => failure.fullText

/-- The status that a reported failure gives a command. -/
def status : Failure → Status
  | shell error => error.status
  | _ => Status.failure

/-- Only a lost process is fatal. -/
theorem isFatal_iff (failure : Failure) :
    failure.isFatal = true ↔ ∃ error, failure = .shell (.wait error) := by
  cases failure with
  | shell error =>
    cases error with
    | wait error => exact ⟨fun _ => ⟨error, rfl⟩, fun _ => rfl⟩
    | _ => simp [isFatal, ShellError.isFatal]
  | _ => simp [isFatal]

end Failure

/-- What a command comes to by the fate of its program. -/
def Fate.result : Fate → Except ShellError Status
  | refused error => .error (ShellError.ofStartError error)
  | lost error => .error (.wait error)
  | ended word => .ok (ProcessEnd.ofWord word).status

namespace State

variable {σ : Type}

/-- The state after a program was started and has ended. -/
def started (st : State σ) (child : Child) (world : σ) : State σ :=
  { st with
    world
    out := st.out.receive child.report.out
    err := st.err.receive child.report.err
    children := st.children ++ [child] }

/-- Records the status of a command, also as that of a program if it was none of the
    builtins. -/
def note (st : State σ) (isBuiltin : Bool) (status : Status) : State σ :=
  if isBuiltin then st.record status else st.recordExternal status

@[simp] theorem lastStatus_note (st : State σ) (isBuiltin : Bool) (status : Status) :
    (st.note isBuiltin status).env.lastStatus = status := by
  cases isBuiltin <;> rfl

theorem lastExternalStatus_note (st : State σ) (isBuiltin : Bool) (status : Status) :
    (st.note isBuiltin status).env.lastExternalStatus
      = if isBuiltin then st.env.lastExternalStatus else status := by
  cases isBuiltin <;> rfl

@[simp] theorem vars_note (st : State σ) (isBuiltin : Bool) (status : Status) :
    (st.note isBuiltin status).env.vars = st.env.vars := by
  cases isBuiltin <;> rfl

@[simp] theorem shouldExit_note (st : State σ) (isBuiltin : Bool) (status : Status) :
    (st.note isBuiltin status).env.shouldExit = st.env.shouldExit := by
  cases isBuiltin <;> rfl

@[simp] theorem out_note (st : State σ) (isBuiltin : Bool) (status : Status) :
    (st.note isBuiltin status).out = st.out := by
  cases isBuiltin <;> rfl

@[simp] theorem err_note (st : State σ) (isBuiltin : Bool) (status : Status) :
    (st.note isBuiltin status).err = st.err := by
  cases isBuiltin <;> rfl

@[simp] theorem world_note (st : State σ) (isBuiltin : Bool) (status : Status) :
    (st.note isBuiltin status).world = st.world := by
  cases isBuiltin <;> rfl

@[simp] theorem children_note (st : State σ) (isBuiltin : Bool) (status : Status) :
    (st.note isBuiltin status).children = st.children := by
  cases isBuiltin <;> rfl

end State

namespace Shell

variable {σ : Type} {sh : Shell σ} {name : String} {args : List String} {st st₁ : State σ}

/-! ## Before the result counts -/

/-- Whether a builtin accepts a command. -/
def accepts (sh : Shell σ) (env : Environment) (name : String) (args : List String) : Bool :=
  (Builtin.dispatch sh.builtins env name args).isSome

/-- Carries out a command without making anything of its result. -/
def attempt (sh : Shell σ) (name : String) (args : List String) (st : State σ) :
    Except Failure Status × State σ :=
  match Builtin.dispatch sh.builtins st.env name args with
  | none => sh.runExternal name args st
  | some action => perform action st

/-- Who carries out an attempt: a program does, or a builtin of the shell, by the action that
    it offered. -/
theorem attempt_cases {result : Except Failure Status}
    (h : sh.attempt name args st = (result, st₁)) :
    sh.runExternal name args st = (result, st₁)
      ∨ ∃ builtin ∈ sh.builtins, ∃ action,
          builtin.offer st.env name args = some action ∧ perform action st = (result, st₁) := by
  unfold attempt at h
  split at h
  · exact .inl h
  · next action hoffer =>
    obtain ⟨builtin, hmem, hoffered⟩ := List.exists_of_findSome?_eq_some hoffer
    exact .inr ⟨builtin, hmem, action, hoffered, h⟩

/-- The flow after a command that succeeded. A builtin ends the shell if the request to do
    so stands. -/
def flowAfter (isBuiltin : Bool) (env : Environment) (status : Status) : Flow :=
  if isBuiltin && env.shouldExit then .terminate status else .resume status

@[simp] theorem status_flowAfter (isBuiltin : Bool) (env : Environment) (status : Status) :
    (flowAfter isBuiltin env status).status = status := by
  unfold flowAfter
  split <;> rfl

/-- How a command ends, by what its attempt came to: it succeeds; its failure is fatal; its
    failure is reported and gives it a status; the report cannot be written. -/
inductive Ends (sh : Shell σ) (name : String) (args : List String) (st : State σ) :
    Except Failure Flow → State σ → Prop where
  | succeeds {status : Status} {st₁ : State σ}
      (attempted : sh.attempt name args st = (.ok status, st₁)) :
      Ends sh name args st
        (.ok (flowAfter (sh.accepts st.env name args) st₁.env status))
        (st₁.note (sh.accepts st.env name args) status)
  | fatal {failure : Failure} {st₁ : State σ}
      (attempted : sh.attempt name args st = (.error failure, st₁))
      (isFatal : failure.isFatal = true) :
      Ends sh name args st (.error failure) st₁
  | reported {failure : Failure} {st₁ : State σ} {err : Sink}
      (attempted : sh.attempt name args st = (.error failure, st₁))
      (notFatal : failure.isFatal = false)
      (written : st₁.err.writeAll (reportPieces sh.config.programName name failure.message)
        = (.ok (), err)) :
      Ends sh name args st (.ok (.resume failure.status))
        ({ st₁ with err }.note (sh.accepts st.env name args) failure.status)
  | unreported {failure : Failure} {st₁ : State σ} {error : IoError} {err : Sink}
      (attempted : sh.attempt name args st = (.error failure, st₁))
      (notFatal : failure.isFatal = false)
      (written : st₁.err.writeAll (reportPieces sh.config.programName name failure.message)
        = (.error error, err)) :
      Ends sh name args st (.error (.io error)) { st₁ with err }

/-- A report on a command as one text. -/
def reportText (programName name message : String) : String :=
  programName ++ ": 1: " ++ name ++ ": " ++ message ++ "\n"

/-- The pieces of a report are the text, cut. -/
theorem flatten_reportPieces (programName name message : String) :
    (reportPieces programName name message).flatten
      = Utf8.encode (reportText programName name message) := by
  simp [reportPieces, reportText, List.append_assoc]

/-- A failure that is not fatal is reported; a fatal one is passed on. -/
theorem recover_eq (sh : Shell σ) (name : String) (failure : Failure) (st : State σ) :
    sh.recover name failure st
      = if failure.isFatal then (.error failure, st)
        else match st.err.writeAll
            (reportPieces sh.config.programName name failure.message) with
          | (.ok (), err) => (.ok failure.status, { st with err })
          | (.error error, err) => (.error (.io error), { st with err }) := by
  -- A report is a write whose success gives the status.
  have hreport : ∀ (message : String) (status : Status),
      sh.report name message status st
        = match st.err.writeAll (reportPieces sh.config.programName name message) with
          | (.ok (), err) => (.ok status, { st with err })
          | (.error error, err) => (.error (.io error), { st with err }) := by
    intro message status
    rw [report, State.complain]
    rcases st.err.writeAll (reportPieces sh.config.programName name message)
      with ⟨_ | _, err⟩ <;> rfl
  cases failure with
  | shell error =>
    rw [recover, Failure.isFatal]
    split
    · rfl
    · exact hreport _ _
  | _ => exact hreport _ _

/-- What the attempt and the recovery from its failure make of a command. -/
theorem run_cons (sh : Shell σ) (name : String) (args : List String) (st : State σ) :
    sh.run (name :: args) st
      = match sh.attempt name args st with
        | (.ok status, st₁) =>
          (.ok (flowAfter (sh.accepts st.env name args) st₁.env status),
            st₁.note (sh.accepts st.env name args) status)
        | (.error failure, st₁) =>
          match sh.recover name failure st₁ with
          | (.ok status, st₂) =>
            (.ok (.resume status), st₂.note (sh.accepts st.env name args) status)
          | (.error failure, st₂) => (.error failure, st₂) := by
  rw [run, attempt, accepts]
  -- Builtins and programs differ only in what records the status.
  cases Builtin.dispatch sh.builtins st.env name args with
  | none =>
    simp only [runProgram, Option.isSome_none]
    rcases sh.runExternal name args st with ⟨failure | status, st₁⟩
    · simp only [settle]
      rcases sh.recover name failure st₁ with ⟨_ | _, st₂⟩ <;> rfl
    · rfl
  | some action =>
    simp only [runBuiltin, Option.isSome_some]
    rcases perform action st with ⟨failure | status, st₁⟩
    · rfl
    · simp only [flowAfter, Bool.true_and]
      rfl

/-- The four rules describe the end of every command that has a name. -/
theorem ends_iff {result : Except Failure Flow} {final : State σ} :
    Ends sh name args st result final ↔ sh.run (name :: args) st = (result, final) := by
  rw [run_cons]
  constructor
  · intro h
    cases h with
    | succeeds attempted => rw [attempted]
    | fatal attempted isFatal =>
      rw [attempted]
      simp only
      rw [recover_eq, if_pos isFatal]
    | reported attempted notFatal written =>
      rw [attempted]
      simp only
      rw [recover_eq, notFatal, written]
      rfl
    | unreported attempted notFatal written =>
      rw [attempted]
      simp only
      rw [recover_eq, notFatal, written]
      rfl
  · intro h
    -- The rule is found by the attempt, then by whether its failure is fatal, and then by
    -- whether the report comes through.
    rcases attempted : sh.attempt name args st with ⟨failure | status, st₁⟩
    · rw [attempted] at h
      simp only at h
      rw [recover_eq] at h
      cases isFatal : failure.isFatal with
      | true =>
        rw [isFatal] at h
        cases h
        exact .fatal attempted isFatal
      | false =>
        rw [isFatal] at h
        rcases written : st₁.err.writeAll
          (reportPieces sh.config.programName name failure.message) with ⟨error | _, err⟩
        · rw [written] at h
          cases h
          exact .unreported attempted isFatal written
        · rw [written] at h
          cases h
          exact .reported attempted isFatal written
    · rw [attempted] at h
      cases h
      exact .succeeds attempted

/-- Where standard error works, a failure that is not fatal costs one report and gives the
    command a status. -/
theorem run_of_failure {failure : Failure}
    (attempted : sh.attempt name args st = (.error failure, st₁))
    (notFatal : failure.isFatal = false) (herr : st₁.err.device.AlwaysWrites) :
    ∃ err, sh.run (name :: args) st
        = (.ok (.resume failure.status),
            { st₁ with err }.note (sh.accepts st.env name args) failure.status)
      ∧ err.own = st₁.err.own
          ++ Utf8.encode (reportText sh.config.programName name failure.message)
      ∧ err.shown = st₁.err.shown
          ++ Utf8.encode (reportText sh.config.programName name failure.message) := by
  rcases written : st₁.err.writeAll (reportPieces sh.config.programName name failure.message)
    with ⟨answer, err⟩
  obtain ⟨rfl, hown, hshown⟩ := Sink.writeAll_of_alwaysWrites herr written
  rw [flatten_reportPieces] at hown hshown
  exact ⟨err, ends_iff.mp (.reported attempted notFatal written), hown, hshown⟩

/-! ## The start of a program -/

/-- An order with NUL fails; any other is given to the machine, and the fate of the program
    is what the command comes to. -/
theorem execute_eq (command : External) (host : Host σ) (st : State σ) :
    External.execute command host st
      = if (command.launch st.env).hasNul then (.error (.exec External.nulError), st)
        else
          let (report, world) := host.start st.world (command.launch st.env)
          (report.fate.result, st.started ⟨command.launch st.env, report⟩ world) := by
  simp only [External.execute, State.started]
  by_cases hn : (command.launch st.env).hasNul = true
  · rw [if_pos hn, if_pos hn]
  · rw [if_neg hn, if_neg hn]
    cases hf : (host.start st.world (command.launch st.env)).1.fate <;> simp only [Fate.result]

/-- The only failure of a search is that nothing was found. -/
theorem notFound_of_find {pathExists : String → Bool} {search : Option String}
    {error : ShellError} (h : Lookup.find pathExists search name = .error error) :
    error = .notFound := by
  unfold Lookup.find at h
  repeat' split at h
  all_goals cases h
  all_goals rfl

/-- A program that was not started is not lost. -/
theorem ofStartError_ne_wait (error lost : IoError) :
    ShellError.ofStartError error ≠ .wait lost := by
  unfold ShellError.ofStartError
  split <;> simp

/-- An order comes to the loss of a process only where the machine says so. -/
theorem lost_of_execute {command : External} {host : Host σ} {error : IoError}
    (h : External.execute command host st = (.error (.wait error), st₁)) :
    ∃ world launch, (host.start world launch).1.fate = .lost error := by
  rw [execute_eq] at h
  split at h
  · cases h
  · -- What the command came to is the fate that the machine reported.
    have hresult := congrArg Prod.fst h
    simp only at hresult
    refine ⟨st.world, command.launch st.env, ?_⟩
    cases hfate : (host.start st.world (command.launch st.env)).1.fate with
    | refused refusal =>
      rw [hfate, Fate.result] at hresult
      exact absurd (Except.error.inj hresult) (ofStartError_ne_wait refusal error)
    | lost lost =>
      rw [hfate] at hresult
      cases hresult
      rfl
    | ended word =>
      rw [hfate] at hresult
      cases hresult

/-- A command that is a program is lost only where the machine says so. -/
theorem lost_of_runExternal {error : IoError}
    (h : sh.runExternal name args st = (.error (.shell (.wait error)), st₁)) :
    ∃ world launch, (sh.host.start world launch).1.fate = .lost error := by
  unfold runExternal at h
  split at h
  · next failed hfind =>
    rw [notFound_of_find hfind] at h
    cases h
  · simp only [State.flush] at h
    rcases hf : st.out.flush with ⟨_ | _, out⟩ <;> rw [hf] at h
    · cases h
    · simp only at h
      rcases he : External.execute ⟨name, _, args⟩ sh.host { st with out := out }
        with ⟨error | status, st₂⟩ <;> rw [he] at h <;> cases h
      exact lost_of_execute he

/-! ## What a command leaves alone -/

/-- A program that was started leaves the shell its environment, and nothing more is asked
    of the streams. -/
theorem frame_of_execute {command : External} {host : Host σ}
    {result : Except ShellError Status} {st₁ : State σ}
    (h : External.execute command host st = (result, st₁)) :
    st₁.env = st.env ∧ st₁.out.faults = st.out.faults
      ∧ st₁.err.device = st.err.device ∧ st₁.err.own = st.err.own := by
  rw [execute_eq] at h
  split at h
  · cases h
    exact ⟨rfl, rfl, rfl, rfl⟩
  · cases h
    exact ⟨rfl, rfl, rfl, Sink.own_receive ..⟩

/-- The search, start and end of a program: nothing but the flush before the start is
    asked of the streams, and if it fails, so does the command, and no program is started. -/
theorem frame_of_runExternal {result : Except Failure Status}
    (h : sh.runExternal name args st = (result, st₁)) :
    st₁.env = st.env ∧ st₁.err.device = st.err.device ∧ st₁.err.own = st.err.own
      ∧ ((st₁.out.faults = st.out.faults ∧ ∀ error, result ≠ .error (.io error))
        ∨ ∃ error out, result = .error (.io error) ∧ st₁ = { st with out }
            ∧ out.faults = error :: st.out.faults) := by
  unfold runExternal at h
  split at h
  · -- Nothing was found, and nothing was asked of the streams.
    cases h
    exact ⟨rfl, rfl, rfl, .inl ⟨rfl, by simp⟩⟩
  · simp only [State.flush] at h
    rcases hf : st.out.flush with ⟨answer, out⟩
    rw [hf] at h
    have hfaults := Sink.faults_of_flush hf
    cases answer with
    | error error =>
      cases h
      exact ⟨rfl, rfl, rfl, .inr ⟨error, out, rfl, rfl, hfaults⟩⟩
    | ok =>
      simp only at h
      rcases he : External.execute ⟨name, _, args⟩ sh.host { st with out := out }
        with ⟨executed, st₂⟩
      rw [he] at h
      obtain ⟨henv, hout, hdevice, hown⟩ := frame_of_execute he
      cases executed with
      | error error =>
        cases h
        exact ⟨henv, hdevice, hown, .inl ⟨hout.trans hfaults, by simp⟩⟩
      | ok status =>
        cases h
        exact ⟨henv, hdevice, hown, .inl ⟨hout.trans hfaults, by simp⟩⟩

/-- What an action does to the state of the shell. -/
theorem perform_eq (action : Action) (st : State σ) :
    perform action st
      = ((action.perform st.out).result,
          { st with env := (action.perform st.out).env, out := (action.perform st.out).out }) :=
  rfl

/-- Until a failure is reported, a command writes nothing of its own to standard error. -/
theorem err_of_attempt {result : Except Failure Status} {st₁ : State σ}
    (h : sh.attempt name args st = (result, st₁)) :
    st₁.err.device = st.err.device ∧ st₁.err.own = st.err.own := by
  rcases attempt_cases h with hprogram | ⟨_, _, action, _, hperformed⟩
  · obtain ⟨-, hdevice, hown, -⟩ := frame_of_runExternal hprogram
    exact ⟨hdevice, hown⟩
  · rw [perform_eq] at hperformed
    cases hperformed
    exact ⟨rfl, rfl⟩

/-- After its attempt a command only reports its failure and records its status. -/
theorem frame_of_run {result : Except Failure Status}
    (attempted : sh.attempt name args st = (result, st₁)) :
    (sh.run (name :: args) st).2.out = st₁.out
      ∧ (sh.run (name :: args) st).2.env.vars = st₁.env.vars
      ∧ (sh.run (name :: args) st).2.env.shouldExit = st₁.env.shouldExit
      ∧ (sh.run (name :: args) st).2.world = st₁.world
      ∧ (sh.run (name :: args) st).2.children = st₁.children := by
  rw [run_cons, attempted]
  cases result with
  | ok status => simp
  | error failure =>
    -- A report goes to standard error, and a record to the registers of the statuses.
    simp only
    rw [recover_eq]
    cases failure.isFatal with
    | true => simp
    | false =>
      rcases st₁.err.writeAll (reportPieces sh.config.programName name failure.message)
        with ⟨_ | _, err⟩ <;> simp

/-- A command ends the shell just if it is a builtin that succeeds while the request to end
    the shell stands. -/
theorem run_terminate_iff {status : Status} :
    (sh.run (name :: args) st).1 = .ok (.terminate status)
      ↔ ∃ st₁, sh.attempt name args st = (.ok status, st₁)
        ∧ sh.accepts st.env name args = true ∧ st₁.env.shouldExit = true := by
  rw [run_cons]
  rcases sh.attempt name args st with ⟨failure | answered, st₁⟩
  · -- A command that fails is never the end of the shell.
    simp only
    rcases sh.recover name failure st₁ with ⟨_ | _, st₂⟩ <;> simp
  · simp only [flowAfter]
    constructor
    · intro h
      split at h
      · next hends =>
        cases h
        rw [Bool.and_eq_true] at hends
        exact ⟨st₁, rfl, hends⟩
      · cases h
    · rintro ⟨_, hattempt, hends⟩
      cases hattempt
      rw [if_pos (by simpa using hends)]

/-- A command does not change how standard error answers. -/
theorem Ends.err_device {result : Except Failure Flow} {final : State σ}
    (h : Ends sh name args st result final) : final.err.device = st.err.device := by
  cases h with
  | succeeds attempted =>
    rw [State.err_note]
    exact (err_of_attempt attempted).1
  | fatal attempted isFatal => exact (err_of_attempt attempted).1
  | reported attempted notFatal written =>
    rw [State.err_note]
    exact (Sink.device_of_writeAll written).trans (err_of_attempt attempted).1
  | unreported attempted notFatal written =>
    exact (Sink.device_of_writeAll written).trans (err_of_attempt attempted).1

end Shell

/-! ## A small shell -/

namespace Sample

/-- A machine with one program, `/bin/false`. -/
def host : Host Unit where
  pathExists _ path := path = "/bin/false"
  start _ _ := (⟨[], [], .ended 0x100⟩, ())

/-- The shell on this machine. -/
def shell : Shell Unit := Program.shell host "sh" false

/-- Its first state. -/
def state : State Unit := Program.start () [Utf8.encode "PATH=/bin"]

/-- Its first state, where standard output is full. -/
def fullState : State Unit :=
  { state with out := { device := .limited 0 (.custom .other "full") } }

/-- Its first state, where standard error takes four bytes. -/
def deafState : State Unit :=
  { state with err := { device := .limited 4 (.custom .other "full") } }

end Sample
end LineShell
