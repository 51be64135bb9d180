/-
  LineShell.Proofs.Attribution

  Which command is to blame where a command ends the shell.

  The request to end the shell is a flag in the environment, and nothing takes it back: not
  the end of the shell, nor the failure of the builtin that raised it. A builtin ends the
  shell whenever it succeeds while the flag stands. So in a session the flag may have been
  raised by an earlier command.

  `Session.allDeeds` lists the commands of a session one by one, also those of an input, and
  `Session.Chain` says that each of them starts in the environment that the one before it
  left. A walk along the chain finds the command that raised the flag. The main statement
  tells where it stands, and when it must be the command itself that ends the shell.
-/
import LineShell.Proofs.Atomicity
import LineShell.Proofs.ExternalCommand
import LineShell.Session

namespace LineShell

/-! ## The flag over one command -/

/-- A builtin that leaves the whole environment alone where it fails leaves every part of it
    alone. -/
theorem Builtin.Spares.part {α : Type} {builtin : Builtin} (h : builtin.Spares id)
    (part : Environment → α) : builtin.Spares part := by
  intro env name args action hoffer out failure hfailed
  exact congrArg part (h env name args action hoffer out failure hfailed)

namespace Shell

variable {σ : Type} {sh : Shell σ} {name : String} {args argv : List String}
  {st st₁ final : State σ}

/-- A program leaves the flag alone. -/
theorem shouldExit_of_declined (hdeclined : sh.accepts st.env name args = false) :
    (sh.run (name :: args) st).2.env.shouldExit = st.env.shouldExit := by
  rcases attempted : sh.attempt name args st with ⟨result, st₁⟩
  obtain ⟨-, -, hflag, -, -⟩ := frame_of_run attempted
  rw [attempt_of_declined hdeclined] at attempted
  rw [hflag, (frame_of_runExternal attempted).1]

/-- With builtins that do not touch the flag where they fail, a command that lets the shell
    go on does not raise the flag, and neither does one that fails. -/
theorem shouldExit_of_goesOn
    (hspares : ∀ builtin ∈ sh.builtins, builtin.Spares Environment.shouldExit)
    {result : Except Failure Flow} (ran : sh.run argv st = (result, final))
    (hgoes : ∀ status, result ≠ .ok (.terminate status))
    (hdown : st.env.shouldExit = false) : final.env.shouldExit = false := by
  cases argv with
  | nil =>
    cases ran
    exact hdown
  | cons name args =>
    cases ends_iff.mpr ran with
    | @succeeds status st₁ attempted =>
      rw [State.shouldExit_note]
      cases haccepts : sh.accepts st.env name args with
      | true =>
        -- A builtin that succeeds while the flag stands would have ended the shell.
        cases hup : st₁.env.shouldExit with
        | false => rfl
        | true =>
          refine absurd ?_ (hgoes status)
          rw [flowAfter, haccepts, hup]
          rfl
      | false =>
        rw [attempt_of_declined haccepts] at attempted
        rw [(frame_of_runExternal attempted).1]
        exact hdown
    | fatal attempted isFatal =>
      rw [part_of_attempt hspares attempted]
      exact hdown
    | reported attempted notFatal written =>
      rw [State.shouldExit_note, part_of_attempt hspares attempted]
      exact hdown
    | unreported attempted notFatal written =>
      rw [part_of_attempt hspares attempted]
      exact hdown

/-- The flow of a command that asks for nothing: it ends the shell just if the flag stands
    already. -/
def staleFlow (env : Environment) : Flow := if env.shouldExit then .terminate 0 else .resume 0

/-- A builtin that comes to nothing but a text, which it could write, asks for nothing. -/
theorem flow_of_printed {action : Action} {out : Sink}
    (offered : Builtin.dispatch sh.builtins st.env name args = some action)
    (printed : action.perform st.out = Action.printed st.env 0 (.ok (), out)) :
    (sh.run (name :: args) st).1 = .ok (staleFlow st.env) := by
  have attempted : sh.attempt name args st = (.ok 0, { st with out }) := by
    rw [attempt, offered]
    simp only
    rw [perform_eq, printed]
    rfl
  have haccepts : sh.accepts st.env name args = true := by rw [accepts, offered]; rfl
  rw [ends_iff.mp (.succeeds attempted), haccepts]
  rfl

/-- An `env` whose writes succeed asks for nothing. -/
theorem flow_of_env (hsh : sh.builtins = Builtin.standard) {out : Sink}
    (written : st.out.writeAll (st.env.vars.flatMap Builtin.Env.pieces) = (.ok (), out)) :
    (sh.run ("env" :: args) st).1 = .ok (staleFlow st.env) := by
  have offered : Builtin.dispatch sh.builtins st.env "env" args
      = some (Builtin.Env.action st.env args) := by
    rw [hsh, Builtin.dispatch_standard, if_neg (by decide), if_pos rfl]
  have printed : (Builtin.Env.action st.env args).perform st.out
      = Action.printed st.env 0 (.ok (), out) := by
    rw [Builtin.Env.perform_action, written]
  exact flow_of_printed offered printed

/-- An `exit` that prints its help asks for nothing. -/
theorem flow_of_help (hsh : sh.builtins = Builtin.standard) {out : Sink}
    (hhelp : Arguments.read 1 args = .ok .help)
    (written : st.out.writeAll [Utf8.encode Builtin.Exit.helpText] = (.ok (), out)) :
    (sh.run ("exit" :: args) st).1 = .ok (staleFlow st.env) := by
  have offered : Builtin.dispatch sh.builtins st.env "exit" args
      = some (Builtin.Exit.action st.env args) := by
    rw [hsh, Builtin.dispatch_standard, if_pos rfl]
  have printed : (Builtin.Exit.action st.env args).perform st.out
      = Action.printed st.env 0 (.ok (), out) := by
    rw [Builtin.Exit.perform_action, hhelp]
    exact congrArg (Action.printed st.env 0) written
  exact flow_of_printed offered printed

end Shell

/-- The shell of the sample with one more builtin, which asks the shell to end and fails. -/
def Sample.quittingShell : Shell Unit :=
  { Sample.shell with
    builtins := Builtin.standard ++ [Builtin.Scripted.builtin
      { name := "quit", shouldExit := some true, result := .error (.general ["no"]) }] }

namespace Session

/-! ## The commands of a session -/

/-- A command that was carried out. -/
structure Deed (σ : Type) where
  words : List String
  before : State σ
  result : Except Failure Flow
  after : State σ

variable {σ : Type} {sh : Shell σ} {st : State σ} {deed : Deed σ}
  {deeds later : List (Deed σ)} {env last : Environment}

namespace Deed

/-- The words carried out in a state. -/
def of (sh : Shell σ) (words : List String) (st : State σ) : Deed σ :=
  ⟨words, st, (sh.run words st).1, (sh.run words st).2⟩

/-- Whether the command raised the flag. -/
def Raises (deed : Deed σ) : Prop :=
  deed.before.env.shouldExit = false ∧ deed.after.env.shouldExit = true

/-- Whether a builtin carried out the command. -/
def ByBuiltin (sh : Shell σ) (deed : Deed σ) : Prop :=
  ∃ name args, deed.words = name :: args ∧ sh.accepts deed.before.env name args = true

/-- Whether the command is what the shell makes of its words. -/
def Ran (sh : Shell σ) (deed : Deed σ) : Prop :=
  sh.run deed.words deed.before = (deed.result, deed.after)

/-- Only a builtin raises the flag. -/
theorem Ran.byBuiltin_of_raises (ran : deed.Ran sh) (h : deed.Raises) : deed.ByBuiltin sh := by
  obtain ⟨words, before, result, after⟩ := deed
  obtain ⟨hdown, hup⟩ := h
  cases words with
  | nil =>
    have hsame : before = after := congrArg Prod.snd ran
    rw [← hsame, hdown] at hup
    cases hup
  | cons name args =>
    refine ⟨name, args, rfl, ?_⟩
    cases haccepts : sh.accepts before.env name args with
    | true => rfl
    | false =>
      have hkept := Shell.shouldExit_of_declined haccepts
      rw [show sh.run (name :: args) before = (result, after) from ran] at hkept
      rw [hkept, hdown] at hup
      cases hup

/-- With `exit` and `env` only an `exit` raises the flag. -/
theorem Ran.exit_of_raises (hsh : sh.builtins = Builtin.standard) (ran : deed.Ran sh)
    (h : deed.Raises) : ∃ args, deed.words = "exit" :: args := by
  obtain ⟨name, args, hwords, -⟩ := ran.byBuiltin_of_raises h
  obtain ⟨words, before, result, after⟩ := deed
  obtain ⟨hdown, hup⟩ := h
  cases hwords
  rcases attempted : sh.attempt name args before with ⟨outcome, st₁⟩
  obtain ⟨-, -, hflag, -, -⟩ := Shell.frame_of_run attempted
  rw [show sh.run (name :: args) before = (result, after) from ran, hup] at hflag
  rcases Shell.env_of_attempt hsh attempted with henv | ⟨rfl, -⟩
  · rw [henv, hdown] at hflag
    cases hflag
  · exact ⟨args, rfl⟩

/-- A command that ends the shell is a builtin that succeeded, and the flag stands after
    it. -/
theorem Ran.of_terminate (ran : deed.Ran sh) {status : Status}
    (hends : deed.result = .ok (.terminate status)) :
    deed.ByBuiltin sh ∧ deed.after.env.shouldExit = true := by
  obtain ⟨words, before, result, after⟩ := deed
  cases hends
  cases words with
  | nil => cases congrArg Prod.fst ran
  | cons name args =>
    obtain ⟨st₁, attempted, haccepts, hup⟩ :=
      Shell.run_terminate_iff.mp (congrArg Prod.fst ran)
    obtain ⟨-, -, hflag, -, -⟩ := Shell.frame_of_run attempted
    rw [show sh.run (name :: args) before = _ from ran] at hflag
    exact ⟨⟨name, args, rfl, haccepts⟩, hflag.trans hup⟩

end Deed

/-- The command of a line that a loop carried out. -/
def deedOf (execution : Execution σ) : Deed σ :=
  ⟨Line.tokens (Utf8.decodeLossy execution.line), execution.before, execution.result,
    execution.after⟩

/-- The commands that one request carries out. -/
def stepDeeds (sh : Shell σ) (st : State σ) : Step → List (Deed σ)
  | .line text => [.of sh (Line.tokens text) st]
  | .command argv => [.of sh argv st]
  | .input input => (sh.executions input.lines st).map deedOf

/-- The commands that the requests of a session carry out. -/
def allDeeds (sh : Shell σ) (st : State σ) : List Step → List (Deed σ)
  | [] => []
  | step :: steps => stepDeeds sh st step ++ allDeeds sh (perform sh st step).2 steps

/-! ## Chains -/

/-- Commands that were carried out one after the other: each starts in the environment that
    the one before it left. -/
inductive Chain (sh : Shell σ) : Environment → List (Deed σ) → Environment → Prop where
  | nil (env : Environment) : Chain sh env [] env
  | cons {deed : Deed σ} {later : List (Deed σ)} {env last : Environment}
      (starts : deed.before.env = env) (ran : deed.Ran sh)
      (rest : Chain sh deed.after.env later last) : Chain sh env (deed :: later) last

namespace Chain

/-- Chains that meet make one chain. -/
theorem append {middle : Environment} (first : Chain sh env deeds middle)
    (second : Chain sh middle later last) : Chain sh env (deeds ++ later) last := by
  induction first with
  | nil => exact second
  | cons starts ran _ ih => exact .cons starts ran (ih second)

/-- A chain can be cut before each of its commands. -/
theorem split (h : Chain sh env (deeds ++ deed :: later) last) :
    Chain sh env deeds deed.before.env ∧ deed.Ran sh := by
  induction deeds generalizing env with
  | nil =>
    cases h with
    | cons starts ran rest => exact ⟨starts ▸ .nil _, ran⟩
  | cons first others ih =>
    cases h with
    | cons starts ran rest =>
      obtain ⟨hothers, hdeed⟩ := ih rest
      exact ⟨.cons starts ran hothers, hdeed⟩

/-- If the flag stands behind a chain, it has stood all the time, or there is a last command
    that raised it. -/
theorem exists_raiser (h : Chain sh env deeds last) (hup : last.shouldExit = true) :
    (env.shouldExit = true ∧ ∀ deed ∈ deeds, deed.after.env.shouldExit = true)
      ∨ ∃ first raiser rest, deeds = first ++ raiser :: rest ∧ raiser.Raises
        ∧ raiser.ByBuiltin sh ∧ ∀ deed ∈ rest, deed.after.env.shouldExit = true := by
  induction h with
  | nil => exact .inl ⟨hup, List.forall_mem_nil _⟩
  | @cons deed later env last starts ran _ ih =>
    rcases ih hup with ⟨hafter, hlater⟩ | ⟨first, raiser, rest, rfl, hraises, hby, hrest⟩
    · -- The flag stands from this command on: the command found it so, or it raised it.
      cases hbefore : env.shouldExit with
      | true => exact .inl ⟨rfl, List.forall_mem_cons.mpr ⟨hafter, hlater⟩⟩
      | false =>
        have hraises : deed.Raises := ⟨starts ▸ hbefore, hafter⟩
        exact .inr ⟨[], deed, later, rfl, hraises, ran.byBuiltin_of_raises hraises, hlater⟩
    · exact .inr ⟨deed :: first, raiser, rest, rfl, hraises, hby, hrest⟩

/-- Where no command ends the shell, the flag stays down, if the builtins do not touch it
    where they fail. -/
theorem shouldExit_of_goesOn
    (hspares : ∀ builtin ∈ sh.builtins, builtin.Spares Environment.shouldExit)
    (h : Chain sh env deeds last) (hdown : env.shouldExit = false)
    (hgoes : ∀ deed ∈ deeds, ∀ status, deed.result ≠ .ok (.terminate status)) :
    last.shouldExit = false := by
  induction h with
  | nil => exact hdown
  | cons starts ran rest ih =>
    obtain ⟨hfirst, hlater⟩ := List.forall_mem_cons.mp hgoes
    rw [← starts] at hdown
    exact ih (Shell.shouldExit_of_goesOn hspares ran hfirst hdown) hlater

end Chain

/-- The lines that a loop carries out are a chain. -/
theorem chain_executions (sh : Shell σ) (lines : List Bytes) (st : State σ) :
    Chain sh st.env ((sh.executions lines st).map deedOf)
      (Execution.last st (sh.executions lines st)).env := by
  induction lines generalizing st with
  | nil => exact .nil st.env
  | cons line later ih =>
    rcases prompted : sh.promptUser st with ⟨_ | _, before⟩
    · rw [Shell.executions_of_unprompted line later prompted]
      exact .nil st.env
    · rcases executed : sh.executeLine (Utf8.decodeLossy line) before with ⟨result, next⟩
      rw [Shell.executions_of_prompted later prompted executed]
      have hbefore : before.env = st.env := by rw [Shell.frame_of_promptUser prompted]
      refine .cons hbefore executed ?_
      split
      · exact ih next
      · exact .nil next.env

/-- The commands of one request are a chain, to the environment that the request leaves. -/
theorem chain_stepDeeds (sh : Shell σ) (st : State σ) (step : Step) :
    Chain sh st.env (stepDeeds sh st step) (perform sh st step).2.env := by
  cases step with
  | line text => exact .cons rfl rfl (.nil _)
  | command argv => exact .cons rfl rfl (.nil _)
  | input input =>
    have hleft : (perform sh st (.input input)).2.env
        = (Execution.last st (sh.executions input.lines st)).env := by
      change (sh.repl input st).2.env = _
      rw [Shell.repl_eq_executions, Shell.env_stopAt]
    rw [hleft]
    exact chain_executions sh input.lines st

/-- The commands of a session are a chain. -/
theorem chain_allDeeds (sh : Shell σ) (st : State σ) (steps : List Step) :
    Chain sh st.env (allDeeds sh st steps) (play sh st steps).2.env := by
  induction steps generalizing st with
  | nil => exact .nil st.env
  | cons step steps ih => exact (chain_stepDeeds sh st step).append (ih _)

/-! ## Who ended the shell -/

/-- **The end of the shell and its cause.** In a session that starts with the flag down, a
    command that ends the shell is a builtin that succeeded. Either it raised the flag
    itself, or an earlier command of the session did, which also was a builtin, and the flag
    has stood ever since; what came of that command, success, failure or the end of the
    shell, makes no difference. The command must have raised the flag itself if no command
    before it left the flag up. So it is, as long as no command before it has ended the
    shell, if the builtins do not touch the flag where they fail; with `exit` and `env` it
    then is an `exit`. But an `env` whose writes succeed ends the shell just if the flag
    stands already. -/
theorem cause_of_terminate (hdown : st.env.shouldExit = false) {steps : List Step}
    {done : List (Deed σ)} (hdeeds : allDeeds sh st steps = done ++ deed :: later)
    {status : Status} (hends : deed.result = .ok (.terminate status)) :
    deed.ByBuiltin sh
      ∧ (deed.Raises ∨ ∃ first raiser rest, done = first ++ raiser :: rest ∧ raiser.Raises
        ∧ raiser.ByBuiltin sh ∧ ∀ other ∈ rest, other.after.env.shouldExit = true)
      ∧ ((∀ other ∈ done, other.after.env.shouldExit = false) → deed.Raises)
      ∧ ((∀ builtin ∈ sh.builtins, builtin.Spares Environment.shouldExit) →
        (∀ other ∈ done, ∀ status, other.result ≠ .ok (.terminate status)) → deed.Raises)
      ∧ (sh.builtins = Builtin.standard → deed.Raises → ∃ args, deed.words = "exit" :: args)
      ∧ (sh.builtins = Builtin.standard → ∀ (args : List String) (st : State σ) (out : Sink),
        (st.out.writeAll (st.env.vars.flatMap Builtin.Env.pieces) = (.ok (), out) →
          (sh.run ("env" :: args) st).1 = .ok (Shell.staleFlow st.env))
        ∧ (Arguments.read 1 args = .ok .help →
          st.out.writeAll [Utf8.encode Builtin.Exit.helpText] = (.ok (), out) →
          (sh.run ("exit" :: args) st).1 = .ok (Shell.staleFlow st.env))) := by
  have hchain := chain_allDeeds sh st steps
  rw [hdeeds] at hchain
  obtain ⟨hdone, ran⟩ := hchain.split
  obtain ⟨hby, hafter⟩ := ran.of_terminate hends
  -- A command that finds the flag up has got it from an earlier one.
  have hearlier : deed.before.env.shouldExit = true →
      ∃ first raiser rest, done = first ++ raiser :: rest ∧ raiser.Raises
        ∧ raiser.ByBuiltin sh ∧ ∀ other ∈ rest, other.after.env.shouldExit = true := by
    intro hbefore
    rcases hdone.exists_raiser hbefore with ⟨hstart, -⟩ | hraiser
    · rw [hdown] at hstart
      cases hstart
    · exact hraiser
  -- And one that finds it down has raised it.
  have hraises : deed.before.env.shouldExit = false → deed.Raises := fun hbefore =>
    ⟨hbefore, hafter⟩
  refine ⟨hby, ?_, ?_, ?_, ?_, ?_⟩
  · cases hbefore : deed.before.env.shouldExit with
    | false => exact .inl (hraises hbefore)
    | true => exact .inr (hearlier hbefore)
  · intro hall
    cases hbefore : deed.before.env.shouldExit with
    | false => exact hraises hbefore
    | true =>
      obtain ⟨first, raiser, rest, rfl, ⟨-, hup⟩, -, -⟩ := hearlier hbefore
      rw [hall raiser (List.mem_append_right _ List.mem_cons_self)] at hup
      cases hup
  · intro hspares hgoes
    exact hraises (hdone.shouldExit_of_goesOn hspares hdown hgoes)
  · intro hsh hr
    exact ran.exit_of_raises hsh hr
  · intro hsh args st out
    exact ⟨Shell.flow_of_env hsh, Shell.flow_of_help hsh⟩

/-- An `exit` behind a program has itself raised the flag. -/
theorem cause_of_terminate_exit :
    Sample.state.env.shouldExit = false
      ∧ ∃ first deed, allDeeds Sample.shell Sample.state [.line "false", .line "exit"]
          = [first] ++ [deed]
        ∧ deed.result = .ok (.terminate 1) ∧ deed.Raises := by
  have hdown : Sample.state.env.shouldExit = false := rfl
  have hspares : ∀ builtin ∈ Sample.shell.builtins, builtin.Spares Environment.shouldExit := by
    intro builtin hmem
    exact (Builtin.spares_of_standard hmem).part Environment.shouldExit
  have hplayed : ∃ first deed, allDeeds Sample.shell Sample.state [.line "false", .line "exit"]
        = [first] ++ [deed]
      ∧ first.result = .ok (.resume 1) ∧ deed.result = .ok (.terminate 1) :=
    ⟨_, _, rfl, rfl, rfl⟩
  obtain ⟨first, deed, hdeeds, hfirst, hends⟩ := hplayed
  obtain ⟨-, -, -, hown, -⟩ := cause_of_terminate hdown hdeeds hends
  refine ⟨hdown, first, deed, hdeeds, hends, hown hspares ?_⟩
  intro other hmem status
  rw [List.mem_singleton.mp hmem, hfirst]
  exact nofun

/-- An `env` behind an `exit` ends the shell once more, and so does an `env` behind a builtin
    that raised the flag and failed, although neither `env` has raised it. -/
theorem terminate_of_stale_flag :
    Sample.state.env.shouldExit = false
      ∧ (∃ exit deed, allDeeds Sample.shell Sample.state [.line "exit 3", .line "env"]
            = [exit, deed]
          ∧ exit.result = .ok (.terminate 3)
          ∧ deed.words = ["env"] ∧ deed.result = .ok (.terminate 0) ∧ ¬ deed.Raises)
      ∧ ∃ quit deed, allDeeds Sample.quittingShell Sample.state
            [.line "quit", .line "env"] = [quit, deed]
          ∧ quit.result = .ok (.resume 1)
          ∧ deed.words = ["env"] ∧ deed.result = .ok (.terminate 0) ∧ ¬ deed.Raises := by
  refine ⟨rfl, ⟨_, _, rfl, rfl, rfl, rfl, ?_⟩, ⟨_, _, rfl, rfl, rfl, rfl, ?_⟩⟩
  · rintro ⟨hdown, -⟩
    cases hdown
  · rintro ⟨hdown, -⟩
    cases hdown

end Session
end LineShell
