/-
  LineShell.Proofs.Atomicity

  A failure leaves the environment as it was.

  A call of the shell that fails has recorded nothing: the status of a command is recorded
  last, after the failure was reported. So a call that fails changes no more of the
  environment than the builtins do where they fail. `Builtin.Spares` says that a builtin
  leaves a part of the environment alone there, and the step from one command to a whole
  loop is made once, for any such part. `exit` and `env` spare all of it. Hence the main
  statement: with them a failed command or line changes nothing, and a failed loop leaves
  what the last line left that could be carried out.
-/
import LineShell.Builtin.Scripted
import LineShell.Proofs.Executions
import LineShell.Proofs.Standard

namespace LineShell

/-! ## What a builtin does not touch -/

namespace Builtin

variable {α : Type}

/-- Where the builtin fails, it leaves this part of the environment as it was. -/
def Spares (part : Environment → α) (builtin : Builtin) : Prop :=
  ∀ env name args action, builtin.offer env name args = some action →
    ∀ out failure, (action.perform out).result = .error failure →
      part (action.perform out).env = part env

/-- The builtin never assigns the status of the last command. -/
def KeepsLastStatus (builtin : Builtin) : Prop :=
  ∀ env name args action, builtin.offer env name args = some action →
    ∀ out, (action.perform out).env.lastStatus = env.lastStatus

theorem KeepsLastStatus.spares {builtin : Builtin} (h : builtin.KeepsLastStatus) :
    builtin.Spares Environment.lastStatus :=
  fun env name args action hoffer out _ _ => h env name args action hoffer out

/-- `exit` and `env` fail without a trace. -/
theorem spares_of_standard {builtin : Builtin} (h : builtin ∈ standard) :
    builtin.Spares id := by
  intro env name args action hoffer out failure hfailed
  rcases action_of_standard h hoffer with rfl | rfl
  · rcases Exit.env_of_perform env args out with henv | ⟨⟨status, hok⟩, -⟩
    · exact henv
    · rw [hok] at hfailed
      cases hfailed
  · exact Env.env_of_perform env args out

/-- Setting a variable leaves the status of the last command. -/
theorem Scripted.lastStatus_update (script : Scripted) (env : Environment) :
    (script.update env).lastStatus = env.lastStatus := by
  have hset : ∀ (pairs : List (String × String)) (env : Environment),
      (env.setAll pairs).lastStatus = env.lastStatus := by
    intro pairs
    induction pairs with
    | nil => intro env; rfl
    | cons pair pairs ih => intro env; exact ih _
  exact hset script.assignments env

/-- The status of the last command is nothing that a described builtin could set. -/
theorem Scripted.keepsLastStatus (script : Scripted) : script.builtin.KeepsLastStatus := by
  intro env name args action hoffer out
  simp only [builtin, Option.ite_none_right_eq_some, Option.some.injEq] at hoffer
  obtain ⟨-, rfl⟩ := hoffer
  rw [Action.perform_print_next]
  rcases out.writeAll (script.pieces args) with ⟨_ | _, later⟩
  · rfl
  · exact script.lastStatus_update env

end Builtin

/-- A shell with a builtin that loses its process, after it has assigned a register. -/
def Sample.losingShell : Shell Unit :=
  { Sample.shell with
    builtins := [Builtin.Scripted.builtin
      { name := "lose", lastExternalStatus := some 7,
        result := .error (.shell (.wait (.system 10))) }] }

/-! ## What a failed call does not touch -/

namespace Execution

variable {σ : Type} {execution : Execution σ}

/-- The environment that the last line left which could be carried out, or the given one
    if there is no such line. -/
def settled (env : Environment) (executions : List (Execution σ)) : Environment :=
  ((executions.filter fun execution => execution.result.isOk).getLast?.map
    fun execution => execution.after.env).getD env

theorem settled_of_ok (h : execution.result.isOk = true) (env : Environment)
    (later : List (Execution σ)) :
    settled env (execution :: later) = settled execution.after.env later := by
  rw [settled, settled, List.filter_cons_of_pos (by exact h), List.getLast?_cons]
  cases (later.filter fun execution => execution.result.isOk).getLast? <;> rfl

end Execution

namespace Shell

variable {σ : Type} {sh : Shell σ} {st final : State σ} {failure : Failure}

section
variable {α : Type} {part : Environment → α}
  (hspares : ∀ builtin ∈ sh.builtins, builtin.Spares part)
include hspares

/-- An attempt that fails. -/
theorem part_of_attempt {name : String} {args : List String}
    (h : sh.attempt name args st = (.error failure, final)) :
    part final.env = part st.env := by
  rcases attempt_cases h with hprogram | ⟨builtin, hmem, action, hoffered, hperformed⟩
  · rw [(frame_of_runExternal hprogram).1]
  · obtain ⟨hresult, rfl⟩ := Prod.mk.inj ((perform_eq action st).symm.trans hperformed)
    exact hspares builtin hmem st.env name args action hoffered st.out failure hresult

/-- A command that fails. -/
theorem part_of_run {argv : List String} (h : sh.run argv st = (.error failure, final)) :
    part final.env = part st.env := by
  cases argv with
  | nil => cases h
  | cons name args =>
    cases ends_iff.mpr h with
    | fatal attempted isFatal => exact part_of_attempt hspares attempted
    | @unreported _ st₁ _ _ attempted _ _ =>
      -- The report goes to standard error, which is no part of the environment.
      have hattempt : part st₁.env = part st.env := part_of_attempt hspares attempted
      exact hattempt

/-- A line that fails. -/
theorem part_of_executeLine {line : String}
    (h : sh.executeLine line st = (.error failure, final)) :
    part final.env = part st.env :=
  part_of_run hspares h

/-- What the executions of a loop leave is what the last line left that could be carried
    out. -/
theorem part_of_executions (lines : List Bytes) (st : State σ) :
    part (Execution.last st (sh.executions lines st)).env
      = part (Execution.settled st.env (sh.executions lines st)) := by
  induction lines generalizing st with
  | nil => rfl
  | cons line later ih =>
    rcases prompted : sh.promptUser st with ⟨_ | _, before⟩
    · rw [executions_of_unprompted line later prompted]
      rfl
    · have hbefore : before.env = st.env := by rw [frame_of_promptUser prompted]
      rcases executed : sh.executeLine (Utf8.decodeLossy line) before
        with ⟨failure | status | status, next⟩ <;>
        rw [executions_of_prompted later prompted executed]
      · -- The line failed, so it left what was there before the prompt.
        have hfailed := part_of_executeLine hspares executed
        rw [hbefore] at hfailed
        exact hfailed
      · -- The line was carried out, so it counts unless a later one does.
        rw [Execution.settled_of_ok rfl]
        exact ih next
      · rfl

/-- A loop, however it ends. -/
theorem part_of_repl (input : Input) (st : State σ) :
    part (sh.repl input st).2.env
      = part (Execution.settled st.env (sh.executions input.lines st)) := by
  rw [repl_eq_executions, env_stopAt]
  exact part_of_executions hspares input.lines st

end

/-- **A failure leaves the environment as it was.** With `exit` and `env` as builtins a
    command or a line that fails changes nothing in it, and a loop that fails leaves it as
    the last line did that could be carried out. With any builtins that do not assign the
    status of the last command, the same holds of this status. -/
theorem env_of_failure (sh : Shell σ) :
    (sh.builtins = Builtin.standard →
        (∀ argv st failure final, sh.run argv st = (.error failure, final) →
          final.env = st.env)
        ∧ (∀ line st failure final, sh.executeLine line st = (.error failure, final) →
          final.env = st.env)
        ∧ ∀ input st failure final, sh.repl input st = (.error failure, final) →
          final.env = Execution.settled st.env (sh.executions input.lines st))
      ∧ ((∀ builtin ∈ sh.builtins, builtin.KeepsLastStatus) →
        (∀ argv st failure final, sh.run argv st = (.error failure, final) →
          final.env.lastStatus = st.env.lastStatus)
        ∧ (∀ line st failure final, sh.executeLine line st = (.error failure, final) →
          final.env.lastStatus = st.env.lastStatus)
        ∧ ∀ input st failure final, sh.repl input st = (.error failure, final) →
          final.env.lastStatus
            = (Execution.settled st.env (sh.executions input.lines st)).lastStatus) := by
  constructor
  · intro hsh
    have hspares : ∀ builtin ∈ sh.builtins, builtin.Spares id := by
      rw [hsh]
      intro builtin hmem
      exact Builtin.spares_of_standard hmem
    refine ⟨fun _ _ _ _ h => part_of_run hspares h,
      fun _ _ _ _ h => part_of_executeLine hspares h, ?_⟩
    intro input st failure final h
    have hrepl := part_of_repl hspares input st
    rw [h] at hrepl
    exact hrepl
  · intro hkeeps
    have hspares : ∀ builtin ∈ sh.builtins, builtin.Spares Environment.lastStatus := by
      intro builtin hmem
      exact (hkeeps builtin hmem).spares
    refine ⟨fun _ _ _ _ h => part_of_run hspares h,
      fun _ _ _ _ h => part_of_executeLine hspares h, ?_⟩
    intro input st failure final h
    have hrepl := part_of_repl hspares input st
    rw [h] at hrepl
    exact hrepl

theorem env_of_failure_deaf :
    Sample.shell.builtins = Builtin.standard
      ∧ (∃ failure final,
        Sample.shell.run ["exit", "abc"] Sample.deafState = (.error failure, final)
          ∧ final.env = Sample.deafState.env)
      ∧ (∃ failure final,
        Sample.shell.repl ⟨Utf8.encode "false\nexit abc\nenv\n", none⟩ Sample.deafState
            = (.error failure, final)
          ∧ final.env
            = { Sample.deafState.env with lastStatus := 1, lastExternalStatus := 1 })
      ∧ (∀ builtin ∈ Sample.losingShell.builtins, builtin.KeepsLastStatus)
      ∧ ∃ failure final,
        Sample.losingShell.run ["lose"] Sample.state = (.error failure, final)
          ∧ final.env.lastStatus = Sample.state.env.lastStatus
          ∧ final.env.lastExternalStatus = 7 := by
  have hkeeps : ∀ builtin ∈ Sample.losingShell.builtins, builtin.KeepsLastStatus := by
    intro builtin hmem
    rw [List.mem_singleton.mp hmem]
    exact Builtin.Scripted.keepsLastStatus _
  obtain ⟨hrun, -, hrepl⟩ := (env_of_failure Sample.shell).1 rfl
  refine ⟨rfl, ?_, ?_, hkeeps, ?_⟩
  · exact ⟨_, _, rfl, hrun ["exit", "abc"] Sample.deafState _ _ rfl⟩
  · have hresult : (Sample.shell.repl ⟨Utf8.encode "false\nexit abc\nenv\n", none⟩
        Sample.deafState).1 = .error (.io (.custom .other "full")) := by
      rw [repl_of_executions rfl]
      rfl
    have hfailed : Sample.shell.repl ⟨Utf8.encode "false\nexit abc\nenv\n", none⟩
        Sample.deafState = (.error (.io (.custom .other "full")), _) :=
      Prod.ext hresult rfl
    exact ⟨_, _, hfailed, hrepl _ _ _ _ hfailed⟩
  · obtain ⟨hlost, -, -⟩ := (env_of_failure Sample.losingShell).2 hkeeps
    exact ⟨_, _, rfl, hlost ["lose"] Sample.state _ _ rfl, rfl⟩

end Shell
end LineShell
