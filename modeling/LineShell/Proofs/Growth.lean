/-
  LineShell.Proofs.Growth

  What a shell brings about stays.

  `State.Grows` says that both streams show what they showed before and perhaps more, and
  that the list of started programs has got longer, if anything. Every call of a shell lets
  its state grow. `State.effect` is what has come in addition between two states; where
  the state has only grown, the effects of two steps add up to the effect of both
  (`effect_append`).
-/
import LineShell.Proofs.Executions

namespace LineShell

/-! ## Streams -/

namespace Sink

variable {sink next : Sink} {bytes : Bytes} {pieces : List Bytes} {answer : Except IoError Unit}

theorem shown_of_write (h : sink.write bytes = (answer, next)) : sink.shown <+: next.shown := by
  cases writes_of_write h with
  | nothing empty => exact List.prefix_refl _
  | all nonempty accepted =>
    rw [shown_add, shown_ask]
    exact List.prefix_append ..
  | part nonempty failed =>
    rw [shown_add, shown_ask]
    exact List.prefix_append ..

theorem shown_of_writeAll (h : sink.writeAll pieces = (answer, next)) :
    sink.shown <+: next.shown :=
  writeAll_preserves (fun later => sink.shown <+: later.shown)
    (fun hw hgrown => hgrown.trans (shown_of_write hw)) h (List.prefix_refl _)

theorem shown_of_flush (h : sink.flush = (answer, next)) : sink.shown <+: next.shown := by
  have hsame : next.shown = sink.shown := by rw [(ask_of_flush h).1, shown_ask]
  exact hsame ▸ List.prefix_refl sink.shown

theorem shown_of_receive (sink : Sink) (bytes : Bytes) :
    sink.shown <+: (sink.receive bytes).shown := by
  rw [receive, shown_add]
  exact List.prefix_append ..

end Sink

theorem Action.shown_of_perform (action : Action) (out : Sink) :
    out.shown <+: (action.perform out).out.shown :=
  action.perform_preserves (fun later => out.shown <+: later.shown)
    (fun hw hgrown => hgrown.trans (Sink.shown_of_write hw))
    (fun hf hgrown => hgrown.trans (Sink.shown_of_flush hf)) (List.prefix_refl _)

/-! ## States -/

namespace State

variable {σ : Type}

/-- A later state of the same shell, by what has come through and what was started. -/
structure Grows (before after : State σ) : Prop where
  out : before.out.shown <+: after.out.shown
  err : before.err.shown <+: after.err.shown
  children : before.children <+: after.children

theorem Grows.refl (st : State σ) : st.Grows st :=
  ⟨List.prefix_refl _, List.prefix_refl _, List.prefix_refl _⟩

theorem Grows.trans {before middle after : State σ} (first : before.Grows middle)
    (second : middle.Grows after) : before.Grows after :=
  ⟨first.out.trans second.out, first.err.trans second.err,
    first.children.trans second.children⟩

theorem grows_of_out {st : State σ} {out : Sink} (h : st.out.shown <+: out.shown) :
    st.Grows { st with out } :=
  ⟨h, List.prefix_refl _, List.prefix_refl _⟩

theorem grows_of_err {st : State σ} {err : Sink} (h : st.err.shown <+: err.shown) :
    st.Grows { st with err } :=
  ⟨List.prefix_refl _, h, List.prefix_refl _⟩

theorem grows_note (st : State σ) (isBuiltin : Bool) (status : Status) :
    st.Grows (st.note isBuiltin status) := by
  constructor <;> simp

end State

/-- What was brought about between two states: the bytes that came through the two streams,
    and the programs that were started. -/
structure Effect where
  out : Bytes
  err : Bytes
  children : List Child
  deriving DecidableEq, Repr

/-- One effect after another. -/
instance : Append Effect where
  append first second :=
    ⟨first.out ++ second.out, first.err ++ second.err, first.children ++ second.children⟩

/-- What has come in addition to an earlier state. -/
def State.effect {σ : Type} (before after : State σ) : Effect where
  out := after.out.shown.drop before.out.shown.length
  err := after.err.shown.drop before.err.shown.length
  children := after.children.drop before.children.length

/-- What is behind a beginning, cut at a longer beginning. -/
theorem drop_append_drop {α : Type} {first second third : List α} (h : first <+: second)
    (h' : second <+: third) :
    third.drop first.length
      = second.drop first.length ++ third.drop second.length := by
  obtain ⟨more, rfl⟩ := h
  obtain ⟨rest, rfl⟩ := h'
  rw [List.drop_left, List.drop_left, List.append_assoc, List.drop_left]

/-- The effects of two steps add up. -/
theorem State.effect_append {σ : Type} {before middle after : State σ}
    (first : before.Grows middle) (second : middle.Grows after) :
    before.effect after = before.effect middle ++ middle.effect after := by
  rw [effect, drop_append_drop first.out second.out, drop_append_drop first.err second.err,
    drop_append_drop first.children second.children]
  rfl

namespace Shell

variable {σ : Type} {sh : Shell σ} {st final : State σ}

/-! ## Commands -/

theorem grows_of_execute {command : External} {host : Host σ}
    {result : Except ShellError Status}
    (h : External.execute command host st = (result, final)) : st.Grows final := by
  rw [execute_eq] at h
  split at h
  · cases h
    exact .refl st
  · cases h
    exact ⟨Sink.shown_of_receive .., Sink.shown_of_receive .., List.prefix_append ..⟩

theorem grows_of_runExternal {name : String} {args : List String}
    {result : Except Failure Status}
    (h : sh.runExternal name args st = (result, final)) : st.Grows final := by
  unfold runExternal at h
  split at h
  · cases h
    exact .refl st
  · simp only [State.flush] at h
    rcases hf : st.out.flush with ⟨answer, out⟩
    rw [hf] at h
    -- The flush and the program behind it each let something more come through, or nothing.
    have hflushed : st.Grows { st with out } := State.grows_of_out (Sink.shown_of_flush hf)
    cases answer with
    | error error =>
      cases h
      exact hflushed
    | ok =>
      simp only at h
      rcases he : External.execute ⟨name, _, args⟩ sh.host { st with out := out }
        with ⟨_ | _, st₂⟩ <;> rw [he] at h <;> cases h <;>
        exact hflushed.trans (grows_of_execute he)

theorem grows_of_attempt {name : String} {args : List String}
    {result : Except Failure Status}
    (h : sh.attempt name args st = (result, final)) : st.Grows final := by
  rcases attempt_cases h with hprogram | ⟨_, _, action, _, hperformed⟩
  · exact grows_of_runExternal hprogram
  · rw [perform_eq] at hperformed
    cases hperformed
    exact ⟨action.shown_of_perform st.out, List.prefix_refl _, List.prefix_refl _⟩

theorem grows_of_run {argv : List String} {result : Except Failure Flow}
    (h : sh.run argv st = (result, final)) : st.Grows final := by
  cases argv with
  | nil =>
    cases h
    exact .refl st
  | cons name args =>
    cases ends_iff.mpr h with
    | succeeds attempted => exact (grows_of_attempt attempted).trans (State.grows_note ..)
    | fatal attempted isFatal => exact grows_of_attempt attempted
    | reported attempted notFatal written =>
      have hreport := State.grows_of_err (Sink.shown_of_writeAll written)
      exact (grows_of_attempt attempted).trans (hreport.trans (State.grows_note ..))
    | unreported attempted notFatal written =>
      have hreport := State.grows_of_err (Sink.shown_of_writeAll written)
      exact (grows_of_attempt attempted).trans hreport

/-! ## Loops -/

theorem grows_of_print {pieces : List Bytes} {answer : Except IoError Unit}
    (h : st.print pieces = (answer, final)) : st.Grows final := by
  rcases hw : st.out.writeAll pieces with ⟨written, out⟩
  simp only [State.print, hw] at h
  cases h
  exact State.grows_of_out (Sink.shown_of_writeAll hw)

theorem grows_of_flush {answer : Except IoError Unit} (h : st.flush = (answer, final)) :
    st.Grows final := by
  rcases hf : st.out.flush with ⟨flushed, out⟩
  simp only [State.flush, hf] at h
  cases h
  exact State.grows_of_out (Sink.shown_of_flush hf)

theorem grows_of_promptUser {answer : Except Failure Unit}
    (h : sh.promptUser st = (answer, final)) : st.Grows final := by
  unfold promptUser at h
  split at h
  · rcases hp : st.print [Utf8.encode sh.config.prompt] with ⟨_ | _, printed⟩ <;> rw [hp] at h
    · cases h
      exact grows_of_print hp
    · rcases hf : printed.flush with ⟨_ | _, flushed⟩ <;> simp only [hf] at h <;> cases h <;>
        exact (grows_of_print hp).trans (grows_of_flush hf)
  · cases h
    exact .refl st

theorem grows_of_endOfInput {result : Except Failure Status}
    (h : sh.endOfInput st = (result, final)) : st.Grows final := by
  unfold endOfInput at h
  split at h
  · rcases hp : st.print [Utf8.encode "\n"] with ⟨_ | _, printed⟩ <;> rw [hp] at h <;> cases h <;>
      exact grows_of_print hp
  · cases h
    exact .refl st

theorem grows_of_executions (sh : Shell σ) (lines : List Bytes) (st : State σ) :
    st.Grows (Execution.last st (sh.executions lines st)) := by
  induction lines generalizing st with
  | nil => exact .refl st
  | cons line later ih =>
    rcases prompted : sh.promptUser st with ⟨_ | _, before⟩
    · rw [executions_of_unprompted line later prompted]
      exact .refl st
    · rcases executed : sh.executeLine (Utf8.decodeLossy line) before with ⟨result, next⟩
      rw [executions_of_prompted later prompted executed]
      have hnext : st.Grows next := (grows_of_promptUser prompted).trans (grows_of_run executed)
      split
      · exact hnext.trans (ih next)
      · exact hnext

/-- The loop takes nothing back of what was there before it. -/
theorem grows_of_repl (sh : Shell σ) (input : Input) (st : State σ) :
    st.Grows (sh.repl input st).2 := by
  rw [repl_eq_executions]
  have hlast := grows_of_executions sh input.lines st
  refine hlast.trans ?_
  generalize Execution.last st (sh.executions input.lines st) = last
  -- What follows the last line is at most a prompt and a farewell.
  cases sh.ending input st with
  | terminated status => exact .refl last
  | failed failure => exact .refl last
  | endOfInput =>
    rw [stopAt]
    rcases prompted : sh.promptUser last with ⟨_ | _, before⟩
    · exact grows_of_promptUser prompted
    · exact (grows_of_promptUser prompted).trans (grows_of_endOfInput rfl)
  | readError error =>
    rw [stopAt]
    rcases prompted : sh.promptUser last with ⟨_ | _, before⟩ <;>
      exact grows_of_promptUser prompted

end Shell
end LineShell
