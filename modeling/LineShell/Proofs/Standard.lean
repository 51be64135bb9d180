/-
  LineShell.Proofs.Standard

  The builtins `exit` and `env` as seen from the shell: which of them accepts a command,
  and what they may change. Neither touches a variable or a register. The one trace that
  they can leave in the environment is the request to end the shell, and only an `exit`
  that succeeds leaves it.
-/
import LineShell.Proofs.Command

namespace LineShell

/-! ## Which builtin accepts a command -/

namespace Builtin

/-- `exit` and `env` accept exactly the commands with their name. -/
theorem dispatch_standard (env : Environment) (name : String) (args : List String) :
    dispatch standard env name args
      = if name = "exit" then some (Exit.action env args)
        else if name = "env" then some (Env.action env args) else none := by
  by_cases hexit : name = "exit"
  · rw [if_pos hexit]
    simp [dispatch, standard, Exit.builtin, named, hexit]
  · rw [if_neg hexit]
    by_cases henv : name = "env"
    · rw [if_pos henv]
      simp [dispatch, standard, Exit.builtin, Env.builtin, named, henv]
    · rw [if_neg henv]
      simp [dispatch, standard, Exit.builtin, Env.builtin, named, hexit, henv]

/-- What one of them offers is its action. -/
theorem action_of_standard {builtin : Builtin} (h : builtin ∈ standard) {env : Environment}
    {name : String} {args : List String} {action : Action}
    (hoffer : builtin.offer env name args = some action) :
    action = Exit.action env args ∨ action = Env.action env args := by
  rw [standard, List.mem_cons, List.mem_singleton] at h
  rcases h with rfl | rfl
  · simp only [Exit.builtin, named, Option.ite_none_right_eq_some, Option.some.injEq] at hoffer
    exact .inl hoffer.2.symm
  · simp only [Env.builtin, named, Option.ite_none_right_eq_some, Option.some.injEq] at hoffer
    exact .inr hoffer.2.symm

/-! ## What they do -/

/-- `env` writes the variables. -/
theorem Env.perform_action (env : Environment) (args : List String) (out : Sink) :
    (Env.action env args).perform out
      = Action.printed env 0 (out.writeAll (env.vars.flatMap Env.pieces)) := by
  rw [Env.action, Action.perform_print]

/-- `exit` writes nothing but its help. -/
theorem Exit.perform_action (env : Environment) (args : List String) (out : Sink) :
    (Exit.action env args).perform out
      = match Arguments.read 1 args with
        | .error refusal => ⟨.error (.shell (.usage refusal.text)), env, out⟩
        | .ok .help => Action.printed env 0 (out.writeAll [Utf8.encode Exit.helpText])
        | .ok (.operands []) => ⟨.ok env.lastExternalStatus, { env with shouldExit := true }, out⟩
        | .ok (.operands (text :: _)) =>
          match Exit.parseStatus text with
          | .ok status => ⟨.ok status, { env with shouldExit := true }, out⟩
          | .error error => ⟨.error (.shell error), env, out⟩ := by
  rw [Exit.action]
  rcases Arguments.read 1 args with refusal | (_ | (_ | ⟨text, rest⟩))
  · rfl
  · exact Action.perform_print ..
  · rfl
  · simp only
    cases Exit.parseStatus text <;> rfl

/-- `exit` is rejected, prints its help, or asks the shell to end. -/
theorem Exit.perform_cases (env : Environment) (args : List String) (out : Sink) :
    (∃ failure, failure.isFatal = false
        ∧ (Exit.action env args).perform out = ⟨.error failure, env, out⟩)
      ∨ (Exit.action env args).perform out
        = Action.printed env 0 (out.writeAll [Utf8.encode Exit.helpText])
      ∨ ∃ status, (Exit.action env args).perform out
        = ⟨.ok status, { env with shouldExit := true }, out⟩ := by
  rw [Exit.perform_action]
  rcases Arguments.read 1 args with refusal | (_ | (_ | ⟨text, rest⟩))
  · exact .inl ⟨_, rfl, rfl⟩
  · exact .inr (.inl rfl)
  · exact .inr (.inr ⟨_, rfl⟩)
  · -- An operand is a number, or it is rejected.
    simp only
    cases hp : Exit.parseStatus text with
    | ok status => exact .inr (.inr ⟨_, rfl⟩)
    | error error =>
      refine .inl ⟨_, ?_, rfl⟩
      unfold Exit.parseStatus at hp
      split at hp <;> cases hp
      rfl

/-- `env` leaves the environment as it is. -/
theorem Env.env_of_perform (env : Environment) (args : List String) (out : Sink) :
    ((Env.action env args).perform out).env = env := by
  rw [Env.perform_action]
  exact Action.env_printed ..

/-- `exit` leaves the environment as it is, or it succeeds and asks the shell to end. -/
theorem Exit.env_of_perform (env : Environment) (args : List String) (out : Sink) :
    ((Exit.action env args).perform out).env = env
      ∨ ((∃ status, ((Exit.action env args).perform out).result = .ok status)
          ∧ ((Exit.action env args).perform out).env = { env with shouldExit := true }) := by
  rcases Exit.perform_cases env args out with ⟨failure, -, h⟩ | h | ⟨status, h⟩ <;> rw [h]
  · exact .inl rfl
  · exact .inl (Action.env_printed ..)
  · exact .inr ⟨⟨status, rfl⟩, rfl⟩

/-- `env` asks nothing of a stream that fails, or it comes to that failure. -/
theorem Env.faults_of_perform (env : Environment) (args : List String) (out : Sink) :
    ((Env.action env args).perform out).out.faults = out.faults
      ∨ ∃ error later, (Env.action env args).perform out = ⟨.error (.io error), env, later⟩
          ∧ later.faults = error :: out.faults := by
  rw [Env.perform_action]
  exact Action.faults_printed ..

/-- `exit` asks nothing of a stream that fails, or it comes to that failure. -/
theorem Exit.faults_of_perform (env : Environment) (args : List String) (out : Sink) :
    ((Exit.action env args).perform out).out.faults = out.faults
      ∨ ∃ error later, (Exit.action env args).perform out = ⟨.error (.io error), env, later⟩
          ∧ later.faults = error :: out.faults := by
  rcases Exit.perform_cases env args out with ⟨failure, -, h⟩ | h | ⟨status, h⟩ <;> rw [h]
  · exact .inl rfl
  · exact Action.faults_printed ..
  · exact .inl rfl

/-- `env` loses no process. -/
theorem Env.isFatal_of_perform {env : Environment} {args : List String} {out : Sink}
    {failure : Failure} (h : ((Env.action env args).perform out).result = .error failure) :
    failure.isFatal = false := by
  rw [Env.perform_action] at h
  obtain ⟨error, rfl⟩ := Action.error_of_printed h
  rfl

/-- `exit` loses no process. -/
theorem Exit.isFatal_of_perform {env : Environment} {args : List String} {out : Sink}
    {failure : Failure} (h : ((Exit.action env args).perform out).result = .error failure) :
    failure.isFatal = false := by
  rcases Exit.perform_cases env args out with ⟨failed, hfatal, hp⟩ | hp | ⟨status, hp⟩ <;>
    rw [hp] at h
  · cases h
    exact hfatal
  · obtain ⟨error, rfl⟩ := Action.error_of_printed h
    rfl
  · cases h

end Builtin

namespace Shell

variable {σ : Type} {sh : Shell σ} {name : String} {args : List String} {st st₁ : State σ}

theorem accepts_standard (hsh : sh.builtins = Builtin.standard) (env : Environment)
    (name : String) (args : List String) :
    sh.accepts env name args = decide (name = "exit" ∨ name = "env") := by
  rw [accepts, hsh, Builtin.dispatch_standard]
  by_cases hexit : name = "exit"
  · simp [hexit]
  · by_cases henv : name = "env"
    · simp [henv]
    · simp [hexit, henv]

/-- The attempt of an `exit` is its action. -/
theorem attempt_exit (hsh : sh.builtins = Builtin.standard) (args : List String)
    (st : State σ) :
    sh.attempt "exit" args st = perform (Builtin.Exit.action st.env args) st := by
  rw [attempt, hsh, Builtin.dispatch_standard, if_pos rfl]

/-- The attempt of an `env` is its action. -/
theorem attempt_env (hsh : sh.builtins = Builtin.standard) (args : List String)
    (st : State σ) :
    sh.attempt "env" args st = perform (Builtin.Env.action st.env args) st := by
  rw [attempt, hsh, Builtin.dispatch_standard, if_neg (by decide), if_pos rfl]

/-- Any other command is a program. -/
theorem attempt_program (hsh : sh.builtins = Builtin.standard) (hexit : name ≠ "exit")
    (henv : name ≠ "env") (args : List String) (st : State σ) :
    sh.attempt name args st = sh.runExternal name args st := by
  rw [attempt, hsh, Builtin.dispatch_standard, if_neg hexit, if_neg henv]

/-- Only an `exit` that succeeds changes the environment before the result is recorded. -/
theorem env_of_attempt (hsh : sh.builtins = Builtin.standard)
    {result : Except Failure Status} (h : sh.attempt name args st = (result, st₁)) :
    st₁.env = st.env
      ∨ (name = "exit" ∧ (∃ status, result = .ok status)
          ∧ st₁.env = { st.env with shouldExit := true }) := by
  -- By who carries out the command: `exit`, `env` or a program.
  by_cases hexit : name = "exit"
  · rw [hexit, attempt_exit hsh, perform_eq] at h
    cases h
    rcases Builtin.Exit.env_of_perform st.env args st.out with henv | ⟨hok, henv⟩
    · exact .inl henv
    · exact .inr ⟨hexit, hok, henv⟩
  · left
    by_cases henv : name = "env"
    · rw [henv, attempt_env hsh, perform_eq] at h
      cases h
      exact Builtin.Env.env_of_perform st.env args st.out
    · rw [attempt_program hsh hexit henv] at h
      exact (frame_of_runExternal h).1

/-- Neither register is touched before the result is recorded. -/
theorem registers_of_attempt (hsh : sh.builtins = Builtin.standard)
    {result : Except Failure Status} (h : sh.attempt name args st = (result, st₁)) :
    st₁.env.lastStatus = st.env.lastStatus
      ∧ st₁.env.lastExternalStatus = st.env.lastExternalStatus
      ∧ st₁.env.vars = st.env.vars := by
  rcases env_of_attempt hsh h with henv | ⟨-, -, henv⟩
  · rw [henv]
    exact ⟨rfl, rfl, rfl⟩
  · rw [henv]
    exact ⟨rfl, rfl, rfl⟩

/-- With these builtins a process is lost only where the machine says so. -/
theorem lost_of_attempt (hsh : sh.builtins = Builtin.standard) {error : IoError}
    (h : sh.attempt name args st = (.error (.shell (.wait error)), st₁)) :
    ∃ world launch, (sh.host.start world launch).1.fate = .lost error := by
  by_cases hexit : name = "exit"
  · rw [hexit, attempt_exit hsh, perform_eq] at h
    cases Builtin.Exit.isFatal_of_perform (congrArg Prod.fst h)
  by_cases henv : name = "env"
  · rw [henv, attempt_env hsh, perform_eq] at h
    cases Builtin.Env.isFatal_of_perform (congrArg Prod.fst h)
  rw [attempt_program hsh hexit henv] at h
  exact lost_of_runExternal h

/-! ## Failures of standard output -/

/-- A program, an `exit` or an `env` asks nothing of standard output that fails, or it comes
    to that failure and leaves all else as it was. -/
theorem faults_of_attempt {result : Except Failure Status}
    (hdefault : ∀ action ∈ Builtin.dispatch sh.builtins st.env name args,
      action = Builtin.Exit.action st.env args ∨ action = Builtin.Env.action st.env args)
    (h : sh.attempt name args st = (result, st₁)) :
    st₁.out.faults = st.out.faults
      ∨ ∃ error out, result = .error (.io error) ∧ st₁ = { st with out }
          ∧ out.faults = error :: st.out.faults := by
  -- A builtin answers for the stream that it was given.
  have hperform : ∀ action : Action, perform action st = (result, st₁) →
      ((action.perform st.out).out.faults = st.out.faults
        ∨ ∃ error later, action.perform st.out = ⟨.error (.io error), st.env, later⟩
            ∧ later.faults = error :: st.out.faults) →
      st₁.out.faults = st.out.faults
        ∨ ∃ error out, result = .error (.io error) ∧ st₁ = { st with out }
            ∧ out.faults = error :: st.out.faults := by
    intro action hp hfaults
    rw [perform_eq] at hp
    cases hp
    rcases hfaults with hkept | ⟨error, later, heq, hmore⟩
    · exact .inl hkept
    · refine .inr ⟨error, later, ?_, ?_, hmore⟩ <;> rw [heq]
  unfold attempt at h
  split at h
  · obtain ⟨-, -, -, ⟨hkept, -⟩ | hfailed⟩ := frame_of_runExternal h
    · exact .inl hkept
    · exact .inr hfailed
  · next action hoffer =>
    rcases hdefault action hoffer with rfl | rfl
    · exact hperform _ h (Builtin.Exit.faults_of_perform st.env args st.out)
    · exact hperform _ h (Builtin.Env.faults_of_perform st.env args st.out)

/-- Where standard error works, a program, an `exit` or an `env` that standard output failed
    gets the status 1, and one report tells why. -/
theorem run_of_fault (herr : st.err.device.AlwaysWrites)
    (hdefault : ∀ action ∈ Builtin.dispatch sh.builtins st.env name args,
      action = Builtin.Exit.action st.env args ∨ action = Builtin.Env.action st.env args)
    (hfault : (sh.run (name :: args) st).2.out.faults ≠ st.out.faults) :
    ∃ error, (sh.run (name :: args) st).1 = .ok (.resume 1)
      ∧ (sh.run (name :: args) st).2.env.lastStatus = 1
      ∧ (sh.run (name :: args) st).2.out.faults = error :: st.out.faults
      ∧ (sh.run (name :: args) st).2.err.shown
        = st.err.shown ++ Utf8.encode (reportText sh.config.programName name error.text) := by
  rcases attempted : sh.attempt name args st with ⟨result, st₁⟩
  -- The attempt is the only part of a command that asks anything of standard output.
  rcases faults_of_attempt hdefault attempted with hkept | ⟨error, out, rfl, rfl, hfaults⟩
  · rw [(frame_of_run attempted).1] at hfault
    exact absurd hkept hfault
  · obtain ⟨err, hrun, -, hshown⟩ := run_of_failure attempted rfl herr
    rw [hrun]
    refine ⟨error, rfl, State.lastStatus_note .., ?_, ?_⟩
    · rw [State.out_note]
      exact hfaults
    · rw [State.err_note]
      exact hshown

/-! ## The variables -/

/-- No command changes the variables. -/
theorem vars_of_run (hsh : sh.builtins = Builtin.standard) (argv : List String)
    (st : State σ) : (sh.run argv st).2.env.vars = st.env.vars := by
  cases argv with
  | nil => rfl
  | cons name args =>
    rcases attempted : sh.attempt name args st with ⟨result, st₁⟩
    rw [(frame_of_run attempted).2.1, (registers_of_attempt hsh attempted).2.2]

end Shell
end LineShell
