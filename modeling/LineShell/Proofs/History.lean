/-
  LineShell.Proofs.History

  A shell that is called over and over, seen from outside.

  A call is a line of text or a command. `Session.events` lists the calls of a session,
  each with its words and with what was seen of it, and `Session.after` is the state that
  they leave. Both are read off `Session.play`. The lemmas take a session apart at its
  first call, and tie the lines of an input to calls: as long as every line lets the shell
  go on, the loop over the lines is the session of their calls.
-/
import LineShell.Session
import LineShell.Proofs.Loop

namespace LineShell.Session

/-- A call of a shell. -/
inductive Call where
  /-- A line of text. -/
  | line (text : String)
  /-- A command, given as its words. -/
  | command (argv : List String)
  deriving DecidableEq, Repr

/-- The words of the command that a call carries out. -/
def Call.words : Call → List String
  | line text => Line.tokens text
  | command argv => argv

/-- The request that a call makes. -/
def Call.step : Call → Step
  | line text => .line text
  | command argv => .command argv

/-- A call as it is seen: the words of its command, and what came of it. -/
abbrev Event := List String × Record

variable {σ : Type}

/-- The calls of a session as they are seen. -/
def events (sh : Shell σ) (st : State σ) (calls : List Call) : List Event :=
  (calls.map Call.words).zip (play sh st (calls.map Call.step)).1

/-- The state that the calls of a session leave. -/
def after (sh : Shell σ) (st : State σ) (calls : List Call) : State σ :=
  (play sh st (calls.map Call.step)).2

/-! ## Call by call -/

/-- A line and a command are carried out alike once they are words. -/
theorem perform_step (sh : Shell σ) (st : State σ) (call : Call) :
    perform sh st call.step
      = ((sh.run call.words st).1.map .flow, (sh.run call.words st).2) := by
  cases call <;> rfl

@[simp] theorem events_nil (sh : Shell σ) (st : State σ) : events sh st [] = [] := rfl

@[simp] theorem after_nil (sh : Shell σ) (st : State σ) : after sh st [] = st := rfl

theorem events_cons (sh : Shell σ) (st : State σ) (call : Call) (calls : List Call) :
    events sh st (call :: calls)
      = (call.words, observe ((sh.run call.words st).1.map .flow) st (sh.run call.words st).2)
        :: events sh (sh.run call.words st).2 calls := by
  simp only [events, List.map_cons, play, List.zip_cons_cons, perform_step]

theorem after_cons (sh : Shell σ) (st : State σ) (call : Call) (calls : List Call) :
    after sh st (call :: calls) = after sh (sh.run call.words st).2 calls := by
  simp only [after, List.map_cons, play, perform_step]

theorem after_append (sh : Shell σ) (st : State σ) (first second : List Call) :
    after sh st (first ++ second) = after sh (after sh st first) second := by
  induction first generalizing st with
  | nil => rfl
  | cons call first ih => rw [List.cons_append, after_cons, after_cons, ih]

/-! ## Lines as calls -/

/-- The calls that carry out some lines. -/
def lineCalls (lines : List Bytes) : List Call :=
  lines.map fun line => .line (Utf8.decodeLossy line)

/-- Whether the shell goes on after a call that it could carry out. -/
def Resumes (event : Event) : Prop := ∃ status, event.2.answer = .ok (.flow (.resume status))

/-- Lines that all let the shell go on are carried out one by one. -/
theorem runAll_of_resumes {sh : Shell σ} {st : State σ} {lines : List Bytes}
    (h : ∀ event ∈ events sh st (lineCalls lines), Resumes event) :
    sh.runAll (Shell.commands lines) st = (none, after sh st (lineCalls lines)) := by
  induction lines generalizing st with
  | nil => rfl
  | cons line lines ih =>
    rw [lineCalls, List.map_cons, events_cons] at h
    rw [lineCalls, List.map_cons, after_cons, Shell.runAll_commands_cons]
    obtain ⟨⟨status, hfirst⟩, hlater⟩ := List.forall_mem_cons.mp h
    rw [Call.words] at hfirst hlater ⊢
    rw [Shell.executeLine]
    rcases hrun : sh.run (Line.tokens (Utf8.decodeLossy line)) st with ⟨_ | _ | _, st₁⟩ <;>
      rw [hrun] at hfirst hlater
    · cases hfirst
    · exact ih hlater
    · cases hfirst

/-- Lines that are all carried out let the shell go on, every one of them. -/
theorem resumes_of_runAll {sh : Shell σ} {st final : State σ} {lines : List Bytes}
    (h : sh.runAll (Shell.commands lines) st = (none, final)) :
    (∀ event ∈ events sh st (lineCalls lines), Resumes event)
      ∧ final = after sh st (lineCalls lines) := by
  induction lines generalizing st with
  | nil =>
    cases h
    exact ⟨by simp [lineCalls], rfl⟩
  | cons line lines ih =>
    rw [Shell.runAll_commands_cons] at h
    rw [lineCalls, List.map_cons, events_cons, after_cons, List.forall_mem_cons, Call.words]
    rw [Shell.executeLine] at h
    -- A line that fails or ends the shell would have given an answer.
    rcases hrun : sh.run (Line.tokens (Utf8.decodeLossy line)) st with
      ⟨failure | status | status, st₁⟩ <;> rw [hrun] at h
    · cases h
    · obtain ⟨hlater, hfinal⟩ := ih h
      exact ⟨⟨⟨status, rfl⟩, hlater⟩, hfinal⟩
    · cases h

/-- The loop over some lines is the session of the calls up to the line that stops it. The
    lines before this one all let the shell go on. -/
theorem exists_calls_of_runAll {sh : Shell σ} {st final : State σ} {lines : List Bytes}
    {result : Except Failure Status}
    (h : sh.runAll (Shell.commands lines) st = (some result, final)) :
    ∃ done line later, lines = done ++ line :: later
      ∧ (∀ event ∈ events sh st (lineCalls done), Resumes event)
      ∧ sh.executeLine (Utf8.decodeLossy line) (after sh st (lineCalls done))
          = (result.map .terminate, final) := by
  induction lines generalizing st with
  | nil => cases h
  | cons line lines ih =>
    rw [Shell.runAll_commands_cons] at h
    -- The line fails, lets the shell go on, or ends it; the first and the last stop the loop.
    rcases he : sh.executeLine (Utf8.decodeLossy line) st with ⟨failure | status | status, st₁⟩
    · rw [he] at h
      cases h
      exact ⟨[], line, lines, rfl, by simp [lineCalls], he⟩
    · rw [he] at h
      obtain ⟨done, last, later, hlines, hdone, hlast⟩ := ih h
      refine ⟨line :: done, last, later, by rw [hlines, List.cons_append], ?_, ?_⟩
      · rw [lineCalls, List.map_cons, events_cons, List.forall_mem_cons]
        rw [Shell.executeLine] at he
        rw [Call.words, he]
        exact ⟨⟨status, rfl⟩, hdone⟩
      · rw [Shell.executeLine] at he
        rw [lineCalls, List.map_cons, after_cons, Call.words, he]
        exact hlast
    · rw [he] at h
      cases h
      exact ⟨[], line, lines, rfl, by simp [lineCalls], he⟩

end LineShell.Session
