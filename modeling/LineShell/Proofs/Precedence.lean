/-
  LineShell.Proofs.Precedence

  Which builtin carries out a command, and which builtins a shell could do without.

  All that a shell knows of its builtins is what they offer for a command and an environment,
  and of that only the first offer (`Builtin.dispatch`). So a list behind another one matters
  where the first has nothing to offer, and there it is all that matters. Two lists with the
  same first offers, `Builtin.SameOffers`, make the same shell: it is so for a command, hence
  for a turn of the loop, hence for any number of turns and for a session. A builtin adds
  nothing to the offers where it accepts only what one before it accepts as well
  (`sameOffers_insert`), which variables it looks at and whatever it would do.
-/
import LineShell.Builtin.Scripted
import LineShell.Builtin.Standard
import LineShell.Proofs.History

namespace LineShell

namespace Builtin

variable {first second before after : List Builtin} {builtin : Builtin} {env : Environment}
  {name : String} {args : List String} {action : Action}

/-! ## The first offer -/

/-- Whether a builtin accepts a command. -/
def Accepts (builtin : Builtin) (env : Environment) (name : String) (args : List String) : Prop :=
  ∃ action, builtin.offer env name args = some action

theorem not_accepts_iff : ¬ builtin.Accepts env name args ↔ builtin.offer env name args = none := by
  rw [Accepts, Option.eq_none_iff_forall_ne_some, not_exists]

theorem accepts_named_iff {accepted : String} {does : Environment → List String → Action} :
    (named accepted does).Accepts env name args ↔ name = accepted := by
  rw [Accepts, named]
  by_cases h : name = accepted <;> simp [h]

theorem dispatch_append (first second : List Builtin) (env : Environment) (name : String)
    (args : List String) :
    dispatch (first ++ second) env name args
      = (dispatch first env name args).or (dispatch second env name args) :=
  List.findSome?_append

theorem dispatch_eq_none_iff :
    dispatch first env name args = none ↔ ∀ builtin ∈ first, ¬ builtin.Accepts env name args := by
  rw [dispatch, List.findSome?_eq_none_iff]
  exact forall₂_congr fun _ _ => not_accepts_iff.symm

/-- What is offered is the offer of the first builtin that accepts the command. -/
theorem dispatch_eq_some_iff :
    dispatch first env name args = some action
      ↔ ∃ before builtin after, first = before ++ builtin :: after
          ∧ (∀ earlier ∈ before, ¬ earlier.Accepts env name args)
          ∧ builtin.offer env name args = some action := by
  rw [dispatch, List.findSome?_eq_some_iff]
  constructor
  · rintro ⟨before, builtin, after, hlist, hoffer, hbefore⟩
    exact ⟨before, builtin, after, hlist, fun b hb => not_accepts_iff.mpr (hbefore b hb), hoffer⟩
  · rintro ⟨before, builtin, after, hlist, hbefore, hoffer⟩
    exact ⟨before, builtin, after, hlist, hoffer, fun b hb => not_accepts_iff.mp (hbefore b hb)⟩

theorem exists_accepts_iff :
    (∃ builtin ∈ first, builtin.Accepts env name args)
      ↔ ∃ action, dispatch first env name args = some action := by
  rw [← Option.isSome_iff_exists, ← Option.ne_none_iff_isSome, Ne, dispatch_eq_none_iff]
  simp

/-! ## The same offers -/

/-- Whether two lists of builtins come to the same offer for every command. -/
def SameOffers (first second : List Builtin) : Prop :=
  ∀ env name args, dispatch first env name args = dispatch second env name args

/-- A builtin that accepts only what the builtins before it accept has no say. -/
theorem sameOffers_insert (h : ∀ env name args, builtin.Accepts env name args →
      ∃ earlier ∈ before, earlier.Accepts env name args) :
    SameOffers (before ++ builtin :: after) (before ++ after) := by
  intro env name args
  rw [dispatch_append, dispatch_append]
  cases hbefore : dispatch before env name args with
  | some action => rfl
  | none =>
    have hnone := dispatch_eq_none_iff.mp hbefore
    have hdeclines : builtin.offer env name args = none := by
      rw [← not_accepts_iff]
      intro haccepts
      obtain ⟨earlier, hmem, hearlier⟩ := h env name args haccepts
      exact hnone earlier hmem hearlier
    rw [Option.none_or, Option.none_or, dispatch, List.findSome?_cons, hdeclines]
    rfl

end Builtin

namespace Shell

variable {σ : Type} {sh : Shell σ} {first second : List Builtin} {name : String}
  {args : List String} {action : Action} {st st' : State σ} {input input' : Input} {n : Nat}

/-- The shell with other builtins. -/
def withBuiltins (sh : Shell σ) (builtins : List Builtin) : Shell σ := { sh with builtins }

/-! ## One command -/

/-- Of its builtins the shell uses no more than the first offer, and only for a command. -/
theorem run_cons_withBuiltins (sh : Shell σ) (builtins : List Builtin) (name : String)
    (args : List String) (st : State σ) :
    (sh.withBuiltins builtins).run (name :: args) st
      = match Builtin.dispatch builtins st.env name args with
        | none => sh.runProgram name args st
        | some action => sh.runBuiltin name action st :=
  rfl

theorem run_of_dispatch
    (h : Builtin.dispatch first st.env name args = Builtin.dispatch second st.env name args) :
    (sh.withBuiltins first).run (name :: args) st
      = (sh.withBuiltins second).run (name :: args) st := by
  rw [run_cons_withBuiltins, run_cons_withBuiltins, h]

/-- A builtin starts no program, and what is written to standard output is what its action
    writes. -/
theorem frame_of_runBuiltin (sh : Shell σ) (name : String) (action : Action) (st : State σ) :
    (sh.runBuiltin name action st).2.out = (action.perform st.out).out
      ∧ (sh.runBuiltin name action st).2.children = st.children
      ∧ (sh.runBuiltin name action st).2.world = st.world := by
  rw [runBuiltin, perform]
  rcases action.perform st.out with ⟨failure | status, env, out⟩
  · -- The report on a failure goes to standard error.
    simp only [recover_eq]
    cases failure.isFatal with
    | true => exact ⟨rfl, rfl, rfl⟩
    | false =>
      rcases hwrite : st.err.writeAll
        (reportPieces sh.config.programName name failure.message) with ⟨_ | _, err⟩ <;>
        exact ⟨rfl, rfl, rfl⟩
  · exact ⟨rfl, rfl, rfl⟩

/-! ## Any number of commands -/

theorem run_of_sameOffers (h : Builtin.SameOffers first second) (argv : List String)
    (st : State σ) :
    (sh.withBuiltins first).run argv st = (sh.withBuiltins second).run argv st := by
  cases argv with
  | nil => rfl
  | cons name args => exact run_of_dispatch (h st.env name args)

/-- Prompting, reading and taking leave are the same for all builtins, so a turn is if its
    line is. -/
theorem turn_of_sameOffers (h : Builtin.SameOffers first second) (input : Input) (st : State σ) :
    (sh.withBuiltins first).turn input st = (sh.withBuiltins second).turn input st := by
  have hline : ∀ line (st : State σ), (sh.withBuiltins first).executeLine line st
      = (sh.withBuiltins second).executeLine line st := fun line st =>
    run_of_sameOffers h (Line.tokens line) st
  have hprompt : (sh.withBuiltins first).promptUser st
      = (sh.withBuiltins second).promptUser st := rfl
  rw [turn, turn, hprompt]
  rcases (sh.withBuiltins second).promptUser st with ⟨_ | _, prompted⟩
  · rfl
  · simp only [hline]
    rfl

theorem reaches_of_sameOffers (h : Builtin.SameOffers first second)
    (reached : (sh.withBuiltins first).Reaches n input st input' st') :
    (sh.withBuiltins second).Reaches n input st input' st' := by
  induction reached with
  | here input st => exact .here input st
  | later turned _ ih =>
    rw [turn_of_sameOffers h] at turned
    exact .later turned ih

theorem repl_of_sameOffers (h : Builtin.SameOffers first second) (input : Input) (st : State σ) :
    (sh.withBuiltins first).repl input st = (sh.withBuiltins second).repl input st := by
  obtain ⟨n, input', st', -, reached, hstop⟩ := exists_stop (sh.withBuiltins first) input st
  rw [turn_of_sameOffers h] at hstop
  rw [repl_of_reaches (reaches_of_sameOffers h reached), repl_of_stop hstop]

end Shell

namespace Session

variable {σ : Type} {sh : Shell σ} {first second : List Builtin}

theorem perform_of_sameOffers (h : Builtin.SameOffers first second) (st : State σ)
    (step : Step) :
    perform (sh.withBuiltins first) st step = perform (sh.withBuiltins second) st step := by
  cases step with
  | line text =>
    rw [perform, perform, Shell.executeLine, Shell.executeLine, Shell.run_of_sameOffers h]
  | command argv => rw [perform, perform, Shell.run_of_sameOffers h]
  | input input => rw [perform, perform, Shell.repl_of_sameOffers h]

/-- Shells with the same offers cannot be told apart in a session. -/
theorem play_of_sameOffers (h : Builtin.SameOffers first second) (st : State σ)
    (steps : List Step) :
    play (sh.withBuiltins first) st steps = play (sh.withBuiltins second) st steps := by
  induction steps generalizing st with
  | nil => rfl
  | cons step steps ih => simp only [play, perform_of_sameOffers h, ih]

end Session

namespace Shell

variable {σ : Type}

/-- **Precedence of builtins.** A command is carried out with the builtins of two lists as with
    those of the first, if one of these accepts it in the environment before it, and otherwise
    as with those of the second. It is carried out by the first builtin that accepts it, by
    this one alone and as a program only if there is none. In a session, a builtin that
    declines everything can be inserted at any place, and one that accepts only what an earlier
    one accepts can be appended, and nothing changes. -/
theorem builtin_precedence (sh : Shell σ) (fs gs : List Builtin) :
    (∀ st, (sh.withBuiltins (fs ++ gs)).run [] st = (sh.withBuiltins fs).run [] st
        ∧ (sh.withBuiltins (fs ++ gs)).run [] st = (sh.withBuiltins gs).run [] st)
      ∧ (∀ name args st, (∃ f ∈ fs, f.Accepts st.env name args) →
        (sh.withBuiltins (fs ++ gs)).run (name :: args) st
          = (sh.withBuiltins fs).run (name :: args) st)
      ∧ (∀ name args st, (¬ ∃ f ∈ fs, f.Accepts st.env name args) →
        (sh.withBuiltins (fs ++ gs)).run (name :: args) st
          = (sh.withBuiltins gs).run (name :: args) st)
      ∧ (∀ name args st, (∀ f ∈ fs, ¬ f.Accepts st.env name args) →
        (sh.withBuiltins fs).run (name :: args) st = sh.runProgram name args st)
      ∧ (∀ name args st, (∃ f ∈ fs, f.Accepts st.env name args) →
        ∃ before f after action, fs = before ++ f :: after
          ∧ (∀ earlier ∈ before, ¬ earlier.Accepts st.env name args)
          ∧ f.offer st.env name args = some action
          ∧ (sh.withBuiltins fs).run (name :: args) st
              = (sh.withBuiltins [f]).run (name :: args) st
          ∧ (sh.withBuiltins fs).run (name :: args) st = sh.runBuiltin name action st
          ∧ (sh.runBuiltin name action st).2.out = (action.perform st.out).out
          ∧ (sh.runBuiltin name action st).2.children = st.children
          ∧ (sh.runBuiltin name action st).2.world = st.world)
      ∧ (∀ before idle after, fs = before ++ after →
        (∀ env name args, ¬ Builtin.Accepts idle env name args) → ∀ st steps,
          Session.play (sh.withBuiltins (before ++ idle :: after)) st steps
            = Session.play (sh.withBuiltins fs) st steps)
      ∧ (∀ earlier ∈ fs, ∀ last, (∀ env name args,
          Builtin.Accepts last env name args → earlier.Accepts env name args) → ∀ st steps,
          Session.play (sh.withBuiltins (fs ++ [last])) st steps
            = Session.play (sh.withBuiltins fs) st steps) := by
  refine ⟨?_, ?_, ?_, ?_, ?_, ?_, ?_⟩
  · intro st
    exact ⟨rfl, rfl⟩
  · intro name args st haccepts
    obtain ⟨action, haction⟩ := Builtin.exists_accepts_iff.mp haccepts
    apply run_of_dispatch
    rw [Builtin.dispatch_append, haction, Option.some_or]
  · intro name args st hnone
    have hdeclined : Builtin.dispatch fs st.env name args = none := by
      rw [Builtin.dispatch_eq_none_iff]
      exact fun f hf haccepts => hnone ⟨f, hf, haccepts⟩
    apply run_of_dispatch
    rw [Builtin.dispatch_append, hdeclined, Option.none_or]
  · intro name args st hnone
    rw [run_cons_withBuiltins, Builtin.dispatch_eq_none_iff.mpr hnone]
  · intro name args st haccepts
    obtain ⟨action, haction⟩ := Builtin.exists_accepts_iff.mp haccepts
    obtain ⟨before, f, after, hlist, hbefore, hoffer⟩ := Builtin.dispatch_eq_some_iff.mp haction
    refine ⟨before, f, after, action, hlist, hbefore, hoffer, run_of_dispatch ?_, ?_,
      frame_of_runBuiltin sh name action st⟩
    · rw [haction, Builtin.dispatch, List.findSome?_cons, hoffer]
    · rw [run_cons_withBuiltins, haction]
  · rintro before idle after rfl hidle st steps
    exact Session.play_of_sameOffers
      (Builtin.sameOffers_insert fun env name args h => absurd h (hidle env name args)) st steps
  · intro earlier hmem last hcovered st steps
    have hsame : Builtin.SameOffers (fs ++ [last]) (fs ++ []) :=
      Builtin.sameOffers_insert fun env name args h => ⟨earlier, hmem, hcovered env name args h⟩
    rw [List.append_nil] at hsame
    exact Session.play_of_sameOffers hsame st steps

/-- A builtin `false` for those who have the variable `GATE`. -/
def gatedFalse : Builtin := Builtin.Scripted.builtin { name := "false", needs := some "GATE" }

/-- An `exit` that does not end the shell. -/
def idleExit : Builtin := Builtin.named "exit" fun env _ => Action.succeed env 0

/-- Without `GATE` the program `/bin/false` is started, with it the builtin is carried out; and
    behind `exit` there is no place for another `exit`. -/
theorem builtin_precedence_gated :
    let opened := { Sample.state with env := Sample.state.env.set "GATE" "" }
    (Sample.shell.withBuiltins ([gatedFalse] ++ Builtin.standard)).run ["false"] Sample.state
        = (Sample.shell.withBuiltins Builtin.standard).run ["false"] Sample.state
      ∧ (Sample.shell.withBuiltins ([gatedFalse] ++ Builtin.standard)).run ["false"] opened
        = (Sample.shell.withBuiltins [gatedFalse]).run ["false"] opened
      ∧ Session.play (Sample.shell.withBuiltins (Builtin.standard ++ [idleExit])) Sample.state
          [.line "exit 3", .line "false"]
        = Session.play (Sample.shell.withBuiltins Builtin.standard) Sample.state
          [.line "exit 3", .line "false"] := by
  obtain ⟨-, haccepted, hdeclined, -⟩ :=
    builtin_precedence Sample.shell [gatedFalse] Builtin.standard
  obtain ⟨-, -, -, -, -, -, happended⟩ :=
    builtin_precedence Sample.shell Builtin.standard []
  refine ⟨hdeclined "false" [] _ ?_, haccepted "false" [] _ ?_,
    happended Builtin.Exit.builtin List.mem_cons_self idleExit ?_ _ _⟩
  · rintro ⟨_, hmem, haccepts⟩
    rw [List.mem_singleton.mp hmem] at haccepts
    exact Builtin.not_accepts_iff.mpr rfl haccepts
  · exact ⟨gatedFalse, List.mem_singleton_self _, _, rfl⟩
  · intro env name args haccepts
    exact Builtin.accepts_named_iff.mpr (Builtin.accepts_named_iff.mp haccepts)

end Shell
end LineShell
