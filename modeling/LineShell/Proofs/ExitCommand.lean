/-
  LineShell.Proofs.ExitCommand

  The command `exit`, for every list of arguments.

  `Shell.Answers` is what can be seen of a command that starts no program: its flow, the
  environment that it leaves and the texts that it writes. The main statement gives these
  for `exit` from its arguments as a whole, and says that no other command ends the shell
  or asks for it.
-/
import LineShell.Proofs.ArgumentReading
import LineShell.Proofs.Decimal
import LineShell.Proofs.Registers

namespace LineShell.Shell

open Builtin

variable {σ : Type} {sh : Shell σ} {name : String} {args argv : List String} {st : State σ}
  {flow : Flow} {env : Environment}

/-- A command is answered with a flow, leaves an environment and writes two texts, one to
    each stream, and the machine is not involved. -/
structure Answers (sh : Shell σ) (argv : List String) (st : State σ) (flow : Flow)
    (env : Environment) (outText errText : String) : Prop where
  flow : (sh.run argv st).1 = .ok flow
  env : (sh.run argv st).2.env = env
  out : (sh.run argv st).2.out.shown = st.out.shown ++ Utf8.encode outText
  err : (sh.run argv st).2.err.shown = st.err.shown ++ Utf8.encode errText
  world : (sh.run argv st).2.world = st.world
  children : (sh.run argv st).2.children = st.children

/-! ## By what the action comes to -/

/-- An `exit` that writes nothing and succeeds ends the shell. -/
theorem answers_of_leave (hsh : sh.builtins = Builtin.standard) {status : Status}
    (h : (Exit.action st.env args).perform st.out
      = ⟨.ok status, { st.env with shouldExit := true }, st.out⟩) :
    Answers sh ("exit" :: args) st (.terminate status)
      { st.env with lastStatus := status, shouldExit := true } "" "" := by
  have attempted : sh.attempt "exit" args st
      = (.ok status, { st with env := { st.env with shouldExit := true } }) := by
    rw [attempt_exit hsh, perform_eq, h]
  have hrun := ends_iff.mp (.succeeds attempted)
  rw [accepts_standard hsh] at hrun
  constructor <;> rw [hrun]
  · rfl
  · rfl
  · exact (List.append_nil _).symm
  · exact (List.append_nil _).symm
  · rfl
  · rfl

/-- An `exit` that succeeds without a request to end the shell goes on. -/
theorem answers_of_help (hsh : sh.builtins = Builtin.standard)
    (hflag : st.env.shouldExit = false) {text : String} (out : Sink)
    (hshown : out.shown = st.out.shown ++ Utf8.encode text)
    (h : (Exit.action st.env args).perform st.out = ⟨.ok 0, st.env, out⟩) :
    Answers sh ("exit" :: args) st (.resume 0) { st.env with lastStatus := 0 } text "" := by
  have attempted : sh.attempt "exit" args st = (.ok 0, { st with out }) := by
    rw [attempt_exit hsh, perform_eq, h]
  have hrun := ends_iff.mp (.succeeds attempted)
  rw [accepts_standard hsh, flowAfter, hflag] at hrun
  constructor <;> rw [hrun]
  · rfl
  · rfl
  · exact hshown
  · exact (List.append_nil _).symm
  · rfl
  · rfl

/-- An `exit` that fails is reported on standard error. -/
theorem answers_of_rejection (hsh : sh.builtins = Builtin.standard)
    (herr : st.err.device.AlwaysWrites) (error : ShellError) (hfatal : error.isFatal = false)
    (h : (Exit.action st.env args).perform st.out = ⟨.error (.shell error), st.env, st.out⟩) :
    Answers sh ("exit" :: args) st (.resume error.status)
      { st.env with lastStatus := error.status } ""
      (reportText sh.config.programName "exit" error.message) := by
  have attempted : sh.attempt "exit" args st = (.error (.shell error), st) := by
    rw [attempt_exit hsh, perform_eq, h]
  obtain ⟨err, hrun, -, hshown⟩ := run_of_failure attempted hfatal herr
  rw [accepts_standard hsh] at hrun
  constructor <;> rw [hrun]
  · rfl
  · rfl
  · exact (List.append_nil _).symm
  · exact hshown
  · rfl
  · rfl

/-! ## By the arguments -/

/-- An option, or a second operand, makes the arguments unfit. -/
theorem answers_of_refused (hsh : sh.builtins = Builtin.standard)
    (herr : st.err.device.AlwaysWrites)
    (h : Arguments.hasOption args = true ∨ 1 < (Arguments.positionals args).length) :
    ∃ refusal : Arguments.Refusal, (∀ a ∈ refusal.arg?, a ∈ args)
      ∧ Answers sh ("exit" :: args) st (.resume 2) { st.env with lastStatus := 2 } ""
          (reportText sh.config.programName "exit" (ShellError.usage refusal.text).message) := by
  obtain ⟨refusal, hread, hnamed⟩ := Arguments.read_of_refused h
  refine ⟨refusal, hnamed, answers_of_rejection hsh herr (.usage refusal.text) rfl ?_⟩
  rw [Exit.perform_action, hread]

/-- Otherwise a word that asks for help makes `exit` print it. -/
theorem answers_of_asksHelp (hsh : sh.builtins = Builtin.standard)
    (hflag : st.env.shouldExit = false) (hout : st.out.device.AlwaysWrites)
    (hoption : Arguments.hasOption args = false)
    (hlen : (Arguments.positionals args).length ≤ 1) (hhelp : Arguments.asksHelp args = true) :
    Answers sh ("exit" :: args) st (.resume 0) { st.env with lastStatus := 0 }
      Exit.helpText "" := by
  have hread : Arguments.read 1 args = .ok .help := by
    rw [Arguments.read_of_accepted hoption hlen, if_pos hhelp]
  rcases hw : st.out.writeAll [Utf8.encode Exit.helpText] with ⟨answer, out⟩
  obtain ⟨rfl, -, hshown⟩ := Sink.writeAll_of_alwaysWrites hout hw
  refine answers_of_help hsh hflag out (by simpa using hshown) ?_
  rw [Exit.perform_action, hread]
  exact congrArg (Action.printed st.env 0) hw

/-- Without operands `exit` ends the shell with the status of the last program. -/
theorem answers_of_none (hsh : sh.builtins = Builtin.standard)
    (hoption : Arguments.hasOption args = false) (hhelp : Arguments.asksHelp args = false)
    (h : Arguments.positionals args = []) :
    Answers sh ("exit" :: args) st (.terminate st.env.lastExternalStatus)
      { st.env with lastStatus := st.env.lastExternalStatus, shouldExit := true } "" "" := by
  have hread : Arguments.read 1 args = .ok (.operands []) := by
    rw [Arguments.read_of_accepted hoption (by rw [h]; exact Nat.zero_le 1), hhelp, h]
    rfl
  refine answers_of_leave hsh ?_
  rw [Exit.perform_action, hread]

/-- With one operand it depends on whether this is a number. -/
theorem answers_of_operand (hsh : sh.builtins = Builtin.standard)
    (herr : st.err.device.AlwaysWrites)
    (hoption : Arguments.hasOption args = false) (hhelp : Arguments.asksHelp args = false)
    {text : String} (h : Arguments.positionals args = [text]) :
    (Exit.isNumber text = true →
      Answers sh ("exit" :: args) st (.terminate (Exit.statusOf (Exit.decimalValue text)))
        { st.env with lastStatus := Exit.statusOf (Exit.decimalValue text), shouldExit := true }
        "" "")
      ∧ (Exit.isNumber text = false →
        Answers sh ("exit" :: args) st (.resume 2) { st.env with lastStatus := 2 } ""
          (reportText sh.config.programName "exit" ("Illegal number: " ++ text))) := by
  have hread : Arguments.read 1 args = .ok (.operands [text]) := by
    rw [Arguments.read_of_accepted hoption (by rw [h]; exact Nat.le_refl 1), hhelp, h]
    rfl
  constructor
  · intro hnumber
    refine answers_of_leave hsh ?_
    rw [Exit.perform_action, hread]
    simp only
    rw [Exit.parseStatus_eq, if_pos hnumber]
  · intro hnumber
    refine answers_of_rejection hsh herr (.illegalNumber text) rfl ?_
    rw [Exit.perform_action, hread]
    simp only
    rw [Exit.parseStatus_eq, if_neg (by rw [hnumber]; exact Bool.false_ne_true)]

/-! ## The request to end the shell -/

/-- The request to end the shell stands after a command just if the command ends it. -/
theorem shouldExit_iff (hsh : sh.builtins = Builtin.standard)
    (hflag : st.env.shouldExit = false) (name : String) (args : List String) :
    (sh.run (name :: args) st).2.env.shouldExit = true
      ↔ ∃ status, (sh.run (name :: args) st).1 = .ok (.terminate status) := by
  constructor
  · intro hstands
    -- Nothing but an attempt that succeeds can have left the request.
    rcases attempted : sh.attempt name args st with ⟨result, st₁⟩
    rw [(frame_of_run attempted).2.2.1] at hstands
    rcases env_of_attempt hsh attempted with henv | ⟨hname, ⟨status, rfl⟩, -⟩
    · rw [henv, hflag] at hstands
      cases hstands
    · refine ⟨status, run_terminate_iff.mpr ⟨st₁, attempted, ?_, hstands⟩⟩
      rw [accepts_standard hsh, hname]
      rfl
  · rintro ⟨status, hterminate⟩
    obtain ⟨st₁, attempted, -, hexit⟩ := run_terminate_iff.mp hterminate
    rw [(frame_of_run attempted).2.2.1, hexit]

/-- No command but `exit` asks the shell to end. -/
theorem shouldExit_of_ne_exit (hsh : sh.builtins = Builtin.standard)
    (hflag : st.env.shouldExit = false) (hname : name ≠ "exit") (args : List String) :
    (sh.run (name :: args) st).2.env.shouldExit = false := by
  rcases attempted : sh.attempt name args st with ⟨result, st₁⟩
  rw [(frame_of_run attempted).2.2.1]
  rcases env_of_attempt hsh attempted with henv | ⟨hexit, -⟩
  · rw [henv, hflag]
  · exact absurd hexit hname

/-- An `exit` leaves the status of the last program. -/
theorem lastExternalStatus_of_exit (hsh : sh.builtins = Builtin.standard) (args : List String)
    (st : State σ) :
    (sh.run ("exit" :: args) st).2.env.lastExternalStatus = st.env.lastExternalStatus := by
  rcases hrun : sh.run ("exit" :: args) st with ⟨failure | flow, final⟩
  · exact (registers_of_error hsh hrun).2
  · rw [(registers_of_ok hsh hrun).2, if_pos (.inl rfl)]

/-- **The command `exit`.** Whatever its arguments, an option or a second operand has it
    rejected; otherwise a word that asks for help makes it print the help; otherwise it ends
    the shell, with the status of the last program or with the number that its operand
    denotes, modulo 256, and is rejected if the operand is no number. The request to end the
    shell stands afterwards just if it ended the shell, the variables and the status of the
    last program stay, and no other command does anything of the kind. -/
theorem run_exit (hsh : sh.builtins = Builtin.standard) (hflag : st.env.shouldExit = false)
    (hout : st.out.device.AlwaysWrites) (herr : st.err.device.AlwaysWrites)
    (args : List String) :
    ((Arguments.hasOption args = true ∨ 2 ≤ (Arguments.positionals args).length) →
        ∃ refusal : Arguments.Refusal, (∀ a ∈ refusal.arg?, a ∈ args)
          ∧ Answers sh ("exit" :: args) st (.resume 2) { st.env with lastStatus := 2 } ""
              (reportText sh.config.programName "exit"
                (ShellError.usage refusal.text).message))
      ∧ (Arguments.hasOption args = false → (Arguments.positionals args).length < 2 →
          (Arguments.asksHelp args = true →
            Answers sh ("exit" :: args) st (.resume 0) { st.env with lastStatus := 0 }
              Exit.helpText "")
          ∧ (Arguments.asksHelp args = false →
            (Arguments.positionals args = [] →
              Answers sh ("exit" :: args) st (.terminate st.env.lastExternalStatus)
                { st.env with lastStatus := st.env.lastExternalStatus, shouldExit := true }
                "" "")
            ∧ ∀ text, Arguments.positionals args = [text] →
              (Exit.isNumber text = true →
                Answers sh ("exit" :: args) st
                  (.terminate (Exit.statusOf (Exit.decimalValue text)))
                  { st.env with
                    lastStatus := Exit.statusOf (Exit.decimalValue text), shouldExit := true }
                  "" "")
              ∧ (Exit.isNumber text = false →
                Answers sh ("exit" :: args) st (.resume 2) { st.env with lastStatus := 2 } ""
                  (reportText sh.config.programName "exit" ("Illegal number: " ++ text)))))
      ∧ ((sh.run ("exit" :: args) st).2.env.shouldExit = true
          ↔ ∃ status, (sh.run ("exit" :: args) st).1 = .ok (.terminate status))
      ∧ (sh.run ("exit" :: args) st).2.env.vars = st.env.vars
      ∧ (sh.run ("exit" :: args) st).2.env.lastExternalStatus = st.env.lastExternalStatus
      ∧ ∀ name args, name ≠ "exit" →
          (sh.run (name :: args) st).2.env.shouldExit = false
          ∧ ∀ status, (sh.run (name :: args) st).1 ≠ .ok (.terminate status) := by
  refine ⟨answers_of_refused hsh herr, ?_, shouldExit_iff hsh hflag "exit" args,
    vars_of_run hsh _ st, lastExternalStatus_of_exit hsh args st, ?_⟩
  · intro hoption hlen
    refine ⟨answers_of_asksHelp hsh hflag hout hoption (Nat.le_of_lt_succ hlen), ?_⟩
    intro hhelp
    refine ⟨answers_of_none hsh hoption hhelp, ?_⟩
    intro text htext
    exact answers_of_operand hsh herr hoption hhelp htext
  · intro name args hname
    have hflag' := shouldExit_of_ne_exit hsh hflag hname args
    refine ⟨hflag', ?_⟩
    intro status hterminate
    -- If the command ended the shell, the request would stand.
    have hstands := (shouldExit_iff hsh hflag name args).mpr ⟨status, hterminate⟩
    rw [hflag'] at hstands
    cases hstands

theorem run_exit_number :
    Sample.shell.builtins = Builtin.standard ∧ Sample.state.env.shouldExit = false
      ∧ Sample.state.out.device.AlwaysWrites ∧ Sample.state.err.device.AlwaysWrites
      ∧ Answers Sample.shell ["exit", "300", "--"] Sample.state (.terminate 44)
          { Sample.state.env with lastStatus := 44, shouldExit := true } "" ""
      ∧ (Sample.shell.run ["exit", "1", "2", "--help"] Sample.state).1 = .ok (.resume 2) := by
  have h := run_exit (rfl : Sample.shell.builtins = Builtin.standard)
    (rfl : Sample.state.env.shouldExit = false) Device.alwaysWrites_reliable
    Device.alwaysWrites_reliable
  refine ⟨rfl, rfl, Device.alwaysWrites_reliable, Device.alwaysWrites_reliable, ?_, ?_⟩
  · have hoperand := ((h ["300", "--"]).2.1 rfl (by decide)).2 rfl
    exact (hoperand.2 "300" rfl).1 rfl
  · obtain ⟨refusal, -, hanswers⟩ := (h ["1", "2", "--help"]).1 (.inr (by decide))
    exact hanswers.flow

end LineShell.Shell
