/-
  LineShell.Proofs.Registers

  The two status registers over a whole session with the builtins `exit` and `env`.

  A call that fails, or that holds no word, leaves no mark. Of the others, `commandStatus?`
  reads the status that the shell answered, and `programStatus?` does so only for those
  that no builtin carried out. The main statement is that after any session each register
  holds the latest such status, or its first value if there is none; whatever the session
  does not show, such as which failure gave the status, has no influence.
-/
import LineShell.Proofs.History
import LineShell.Proofs.Standard

namespace LineShell

/-! ## One command -/

namespace Shell

variable {σ : Type} {sh : Shell σ} {argv : List String} {input : Input}
  {st st₁ final : State σ} {flow : Flow} {status : Status}

/-- The status that a flow carries is the one that was recorded. -/
theorem status_of_run (h : sh.run argv st = (.ok flow, final)) :
    flow.status = final.env.lastStatus := by
  cases argv with
  | nil =>
    cases h
    rfl
  | cons name args =>
    cases ends_iff.mpr h with
    | succeeds attempted => rw [status_flowAfter, State.lastStatus_note]
    | reported attempted notFatal written => rw [State.lastStatus_note]; rfl

/-- The end of the input gives the status that was recorded last. -/
theorem status_of_endOfInput (h : sh.endOfInput st = (.ok status, final)) :
    status = final.env.lastStatus := by
  unfold endOfInput at h
  split at h
  · rcases hp : st.print [Utf8.encode "\n"] with ⟨_ | _, printed⟩ <;> rw [hp] at h <;> cases h
    rfl
  · cases h
    rfl

/-- The status with which the loop ends is the one that was recorded last. -/
theorem status_of_repl (h : sh.repl input st = (.ok status, final)) :
    status = final.env.lastStatus := by
  obtain ⟨_, input', st', -, -, hstop⟩ := exists_stop sh input st
  rw [h] at hstop
  cases stops_iff.mpr hstop with
  | ended prompted reading left => exact status_of_endOfInput left
  | terminated prompted reading executed => exact status_of_run executed

section
variable {name : String} {args : List String}

/-- A command that fails leaves both registers. -/
theorem registers_of_error (hsh : sh.builtins = Builtin.standard) {failure : Failure}
    (h : sh.run (name :: args) st = (.error failure, final)) :
    final.env.lastStatus = st.env.lastStatus
      ∧ final.env.lastExternalStatus = st.env.lastExternalStatus := by
  cases ends_iff.mpr h with
  | fatal attempted isFatal =>
    obtain ⟨hlast, hext, -⟩ := registers_of_attempt hsh attempted
    exact ⟨hlast, hext⟩
  | unreported attempted notFatal written =>
    obtain ⟨hlast, hext, -⟩ := registers_of_attempt hsh attempted
    exact ⟨hlast, hext⟩

/-- Any other command sets one register, and both if it is a program. -/
theorem registers_of_ok (hsh : sh.builtins = Builtin.standard)
    (h : sh.run (name :: args) st = (.ok flow, final)) :
    final.env.lastStatus = flow.status
      ∧ final.env.lastExternalStatus
        = if name = "exit" ∨ name = "env" then st.env.lastExternalStatus else flow.status := by
  refine ⟨(status_of_run h).symm, ?_⟩
  cases ends_iff.mpr h with
  | succeeds attempted =>
    obtain ⟨-, hext, -⟩ := registers_of_attempt hsh attempted
    rw [State.lastExternalStatus_note, accepts_standard hsh, status_flowAfter, hext]
    simp only [decide_eq_true_eq]
  | reported attempted notFatal written =>
    obtain ⟨-, hext, -⟩ := registers_of_attempt hsh attempted
    rw [State.lastExternalStatus_note, accepts_standard hsh]
    simp only [decide_eq_true_eq, hext, Flow.status]

end

/-- An `exit` without operands ends the shell with the status of the last program. -/
theorem run_bare_exit (hsh : sh.builtins = Builtin.standard) (st : State σ) :
    (sh.run ["exit"] st).1 = .ok (.terminate st.env.lastExternalStatus) := by
  have attempted : sh.attempt "exit" [] st
      = (.ok st.env.lastExternalStatus,
          { st with env := { st.env with shouldExit := true } }) := by
    rw [attempt_exit hsh, perform_eq, Builtin.Exit.perform_action]
    rfl
  rw [ends_iff.mp (.succeeds attempted), accepts_standard hsh]
  rfl

end Shell

/-! ## A whole session -/

namespace Session

variable {σ : Type} {sh : Shell σ}

/-- The flow that a call was answered with, if it could be carried out. -/
def flow? (event : Event) : Option Flow :=
  match event.2.answer with
  | .ok (.flow flow) => some flow
  | _ => none

/-- The status of a call that held a command and could be carried out. -/
def commandStatus? (event : Event) : Option Status :=
  if event.1 = [] then none else (flow? event).map Flow.status

/-- The status of a call whose command was no builtin and could be carried out. -/
def programStatus? (event : Event) : Option Status :=
  if event.1.head? ∈ [none, some "exit", some "env"] then none
  else (flow? event).map Flow.status

/-- The status of the latest call that has one, or else the given one. -/
def latest (status? : Event → Option Status) (initial : Status) (history : List Event) :
    Status :=
  (history.reverse.findSome? status?).getD initial

theorem latest_cons (status? : Event → Option Status) (initial : Status) (event : Event)
    (history : List Event) :
    latest status? initial (event :: history)
      = latest status? ((status? event).getD initial) history := by
  rw [latest, latest, List.reverse_cons, List.findSome?_append]
  cases history.reverse.findSome? status? with
  | some status => rfl
  | none => cases h : status? event <;> simp [h]

/-- A session in which no call has a status leaves the first value. -/
theorem latest_of_none {status? : Event → Option Status} {history : List Event}
    (h : ∀ event ∈ history, status? event = none) (initial : Status) :
    latest status? initial history = initial := by
  have hnone : history.reverse.findSome? status? = none := by
    rw [List.findSome?_eq_none_iff]
    intro event hevent
    exact h event (List.mem_reverse.mp hevent)
  rw [latest, hnone]
  rfl

/-- One call moves both registers to the status that it has, if it has one. -/
theorem registers_step (hsh : sh.builtins = Builtin.standard) {st st₁ : State σ}
    {words : List String} {answer : Except Failure Flow}
    (h : sh.run words st = (answer, st₁)) :
    st₁.env.lastStatus
        = (commandStatus? (words, observe (answer.map .flow) st st₁)).getD st.env.lastStatus
      ∧ st₁.env.lastExternalStatus
        = (programStatus? (words, observe (answer.map .flow) st st₁)).getD
            st.env.lastExternalStatus := by
  cases words with
  | nil =>
    cases h
    exact ⟨rfl, rfl⟩
  | cons name args =>
    cases answer with
    | error failure =>
      -- A call that fails has no status, whatever its command was.
      obtain ⟨hlast, hext⟩ := Shell.registers_of_error hsh h
      rw [hlast, hext, programStatus?]
      refine ⟨rfl, ?_⟩
      split <;> rfl
    | ok flow =>
      obtain ⟨hlast, hext⟩ := Shell.registers_of_ok hsh h
      rw [hlast, hext, programStatus?]
      refine ⟨rfl, ?_⟩
      by_cases hname : name = "exit" ∨ name = "env"
      · rw [if_pos hname, if_pos (by simpa using hname)]
        rfl
      · rw [if_neg hname, if_neg (by simpa using hname)]
        rfl

/-- After a session each register holds the latest status of its kind. -/
theorem registers_after (hsh : sh.builtins = Builtin.standard) (st : State σ)
    (calls : List Call) :
    (after sh st calls).env.lastStatus
        = latest commandStatus? st.env.lastStatus (events sh st calls)
      ∧ (after sh st calls).env.lastExternalStatus
        = latest programStatus? st.env.lastExternalStatus (events sh st calls) := by
  -- What the first call leaves is the first value for the others.
  induction calls generalizing st with
  | nil => exact ⟨rfl, rfl⟩
  | cons call calls ih =>
    rcases hrun : sh.run call.words st with ⟨answer, st₁⟩
    obtain ⟨hlast, hext⟩ := registers_step hsh hrun
    obtain ⟨ilast, iext⟩ := ih st₁
    rw [after_cons, events_cons, hrun, latest_cons, latest_cons, ilast, iext, hlast, hext]
    exact ⟨rfl, rfl⟩

/-- Every flow of a session carries the status that is the last one after its call. -/
theorem status_of_event (sh : Shell σ) (st : State σ) (calls : List Call) :
    ∀ event ∈ events sh st calls, ∀ flow,
      event.2.answer = .ok (.flow flow) → flow.status = event.2.env.lastStatus := by
  induction calls generalizing st with
  | nil => simp
  | cons call calls ih =>
    rw [events_cons, List.forall_mem_cons]
    refine ⟨?_, ih _⟩
    intro flow hflow
    rcases hrun : sh.run call.words st with ⟨_ | answered, st₁⟩ <;> rw [hrun] at hflow <;>
      cases hflow
    exact Shell.status_of_run hrun

/-- Blank lines and commands of the name `exit` or `env`, whatever becomes of them, leave
    the status of the last program. -/
theorem lastExternalStatus_of_builtins (hsh : sh.builtins = Builtin.standard) (st : State σ)
    {calls : List Call}
    (h : ∀ call ∈ calls, call.words.head? ∈ [none, some "exit", some "env"]) :
    (after sh st calls).env.lastExternalStatus = st.env.lastExternalStatus := by
  rw [(registers_after hsh st calls).2]
  apply latest_of_none
  intro event hevent
  -- The words of an event are those of its call, so none of them is a program.
  have hwords : event.1 ∈ calls.map Call.words := (List.of_mem_zip hevent).1
  obtain ⟨call, hcall, hword⟩ := List.mem_map.mp hwords
  rw [programStatus?, ← hword, if_pos (h call hcall)]

/-- **The registers of a session.** After any calls the register of the last program holds
    the status of the latest call that carried out a command other than `exit` and `env`,
    the register of the last command that of the latest call that carried out any, and
    every flow carries what is then the last status. So an `exit` without operand ends the
    shell with the former, the end of an input gives the latter, and calls of builtins or
    blank lines in between change nothing about a later `exit`. -/
theorem session_registers (hsh : sh.builtins = Builtin.standard) (st : State σ)
    (calls : List Call) :
    (after sh st calls).env.lastExternalStatus
        = latest programStatus? st.env.lastExternalStatus (events sh st calls)
      ∧ (after sh st calls).env.lastStatus
        = latest commandStatus? st.env.lastStatus (events sh st calls)
      ∧ (∀ event ∈ events sh st calls, ∀ flow,
          event.2.answer = .ok (.flow flow) → flow.status = event.2.env.lastStatus)
      ∧ (sh.run ["exit"] (after sh st calls)).1
        = .ok (.terminate
            (latest programStatus? st.env.lastExternalStatus (events sh st calls)))
      ∧ (∀ bytes, sh.config.interactive = false →
          (∀ event ∈ events sh (after sh st calls) (lineCalls (Input.lines ⟨bytes, none⟩)),
            Resumes event) →
          (sh.repl ⟨bytes, none⟩ (after sh st calls)).1
            = .ok (latest commandStatus? st.env.lastStatus
                (events sh st (calls ++ lineCalls (Input.lines ⟨bytes, none⟩)))))
      ∧ (∀ input status final, sh.repl input (after sh st calls) = (.ok status, final) →
          status = final.env.lastStatus)
      ∧ ∀ between : List Call,
          (∀ call ∈ between, call.words.head? ∈ [none, some "exit", some "env"]) →
          (sh.run ["exit"] (after sh st (calls ++ between))).1
            = (sh.run ["exit"] (after sh st calls)).1 := by
  obtain ⟨hlast, hext⟩ := registers_after hsh st calls
  refine ⟨hext, hlast, status_of_event sh st calls, ?_, ?_, ?_, ?_⟩
  · rw [Shell.run_bare_exit hsh, hext]
  · intro bytes hi hresumes
    -- The lines of the input are calls like the others, so the registers follow them too.
    have hlines := (registers_after hsh st (calls ++ lineCalls (Input.lines ⟨bytes, none⟩))).1
    rw [Shell.repl_of_quiet hi, runAll_of_resumes hresumes, ← hlines, after_append]
    rfl
  · intro input status final h
    exact Shell.status_of_repl h
  · intro between hbetween
    rw [Shell.run_bare_exit hsh, Shell.run_bare_exit hsh, after_append,
      lastExternalStatus_of_builtins hsh _ hbetween]

theorem session_registers_false :
    Sample.shell.builtins = Builtin.standard
      ∧ (Sample.shell.run ["exit"] (after Sample.shell Sample.state
          ([.line "false"] ++ [.line "  ", .command ["env"], .line "exit abc"]))).1
        = .ok (.terminate 1) := by
  obtain ⟨-, -, -, hexit, -, -, hbetween⟩ :=
    session_registers (rfl : Sample.shell.builtins = Builtin.standard) Sample.state
      [.line "false"]
  refine ⟨rfl, ?_⟩
  rw [hbetween _ (by decide), hexit]
  rfl

end Session
end LineShell
