/-
  LineShell.Proofs.StopCauses

  Why the read loop stops with a failure.

  `Shell.Cause` lists what can go wrong in a turn so that the loop cannot go on: the input
  cannot be read, a process is lost, a report cannot be written, or, where the shell
  prompts, the prompt or the farewell cannot be written. The main statement is that the loop
  fails just if it reaches a turn with one of these causes. Where standard error and the
  input work and no process is lost, no behaviour of standard output stops the loop: it
  carries out every line up to the one that ends the shell, and a command that standard
  output failed gets the status 1 and one report.
-/
import LineShell.Proofs.Reads
import LineShell.Proofs.Registers

namespace LineShell.Shell

open Session

variable {σ : Type} {sh : Shell σ} {input rest input' : Input} {st st₁ st' final : State σ}
  {failure : Failure} {n : Nat}

/-! ## The causes -/

/-- Why a turn of the loop ends it with a failure. -/
inductive Cause (sh : Shell σ) (input : Input) (st : State σ) : Failure → State σ → Prop where
  /-- No line is left, and the input cannot be read to its end. -/
  | read {error : IoError} {final : State σ}
      (prompted : sh.promptUser st = (.ok (), final)) (none_left : input.lines = [])
      (broken : input.breakage = some error) :
      Cause sh input st (.input error) final
  /-- The command on the next line loses its process, or says so. -/
  | lost {line : Bytes} {later : List Bytes} {name : String} {args : List String}
      {error : IoError} {st₁ final : State σ}
      (prompted : sh.promptUser st = (.ok (), st₁)) (next : input.lines = line :: later)
      (words : Line.tokens (Utf8.decodeLossy line) = name :: args)
      (attempted : sh.attempt name args st₁ = (.error (.shell (.wait error)), final)) :
      Cause sh input st (.shell (.wait error)) final
  /-- The command on the next line fails, and this cannot be reported. -/
  | diagnostic {line : Bytes} {later : List Bytes} {name : String} {args : List String}
      {failed : Failure} {error : IoError} {st₁ st₂ : State σ} {err : Sink}
      (prompted : sh.promptUser st = (.ok (), st₁)) (next : input.lines = line :: later)
      (words : Line.tokens (Utf8.decodeLossy line) = name :: args)
      (attempted : sh.attempt name args st₁ = (.error failed, st₂))
      (reportable : ∀ error, failed ≠ .shell (.wait error))
      (written : st₂.err.writeAll (reportPieces sh.config.programName name failed.message)
        = (.error error, err)) :
      Cause sh input st (.io error) { st₂ with err }
  /-- The prompt cannot be written. -/
  | prompt {error : IoError} {final : State σ} (interactive : sh.config.interactive = true)
      (written : st.print [Utf8.encode sh.config.prompt] = (.error error, final)) :
      Cause sh input st (.io error) final
  /-- The prompt cannot be flushed. -/
  | promptFlush {error : IoError} {st₁ final : State σ}
      (interactive : sh.config.interactive = true)
      (written : st.print [Utf8.encode sh.config.prompt] = (.ok (), st₁))
      (flushed : st₁.flush = (.error error, final)) :
      Cause sh input st (.io error) final
  /-- The input has ended, and the farewell cannot be written. -/
  | farewell {error : IoError} {st₁ final : State σ}
      (interactive : sh.config.interactive = true)
      (prompted : sh.promptUser st = (.ok (), st₁)) (none_left : input.lines = [])
      (whole : input.breakage = none)
      (written : st₁.print [Utf8.encode "\n"] = (.error error, final)) :
      Cause sh input st (.io error) final

/-- The prompt fails where it cannot be written or flushed. -/
theorem promptUser_error_iff :
    sh.promptUser st = (.error failure, final)
      ↔ sh.config.interactive = true
        ∧ ∃ error, failure = .io error
          ∧ (st.print [Utf8.encode sh.config.prompt] = (.error error, final)
            ∨ ∃ st₁, st.print [Utf8.encode sh.config.prompt] = (.ok (), st₁)
              ∧ st₁.flush = (.error error, final)) := by
  rw [promptUser]
  cases sh.config.interactive with
  | false => simp
  | true =>
    rw [if_pos rfl]
    -- The flush counts only behind a prompt that could be written.
    rcases hp : st.print [Utf8.encode sh.config.prompt] with ⟨error | _, st₁⟩
    · constructor
      · intro h
        cases h
        exact ⟨rfl, error, rfl, .inl rfl⟩
      · rintro ⟨-, _, rfl, h | ⟨_, h, -⟩⟩ <;> cases h
        rfl
    · simp only
      constructor
      · intro h
        rcases hf : st₁.flush with ⟨error | _, st₂⟩ <;> rw [hf] at h <;> cases h
        exact ⟨trivial, error, rfl, .inr ⟨st₁, rfl, hf⟩⟩
      · rintro ⟨-, _, rfl, h | ⟨_, h, flushed⟩⟩ <;> cases h
        rw [flushed]

/-- The farewell fails where it cannot be written. -/
theorem endOfInput_error_iff :
    sh.endOfInput st = (.error failure, final)
      ↔ sh.config.interactive = true
        ∧ ∃ error, failure = .io error ∧ st.print [Utf8.encode "\n"] = (.error error, final) := by
  rw [endOfInput]
  cases sh.config.interactive with
  | false => simp
  | true =>
    rw [if_pos rfl]
    constructor
    · intro h
      rcases hp : st.print [Utf8.encode "\n"] with ⟨error | _, st₁⟩ <;> rw [hp] at h <;> cases h
      exact ⟨rfl, error, rfl, rfl⟩
    · rintro ⟨-, _, rfl, written⟩
      rw [written]

/-- A line fails where its command loses its process or cannot be reported. -/
theorem executeLine_error_iff {line : String} :
    sh.executeLine line st = (.error failure, final)
      ↔ ∃ name args, Line.tokens line = name :: args
        ∧ ((∃ error, failure = .shell (.wait error)
              ∧ sh.attempt name args st = (.error failure, final))
          ∨ ∃ failed error st₁ err, failure = .io error ∧ final = { st₁ with err }
              ∧ sh.attempt name args st = (.error failed, st₁)
              ∧ (∀ error, failed ≠ .shell (.wait error))
              ∧ st₁.err.writeAll (reportPieces sh.config.programName name failed.message)
                = (.error error, err)) := by
  rw [executeLine]
  cases hw : Line.tokens line with
  | nil => simp [run]
  | cons name args =>
    rw [← ends_iff]
    constructor
    · intro h
      -- Of the four ways in which a command can end, two are failures.
      refine ⟨name, args, rfl, ?_⟩
      cases h with
      | fatal attempted isFatal =>
        obtain ⟨error, rfl⟩ := (Failure.isFatal_iff _).mp isFatal
        exact .inl ⟨error, rfl, attempted⟩
      | @unreported failed st₁ error err attempted notFatal written =>
        refine .inr ⟨failed, error, st₁, err, rfl, rfl, attempted, ?_, written⟩
        intro error hlost
        rw [hlost] at notFatal
        cases notFatal
    · rintro ⟨_, _, hwords, h⟩
      cases hwords
      rcases h with ⟨error, rfl, attempted⟩ | ⟨failed, error, st₁, err, rfl, rfl, attempted,
        reportable, written⟩
      · exact .fatal attempted rfl
      · refine .unreported attempted ?_ written
        cases hfatal : failed.isFatal with
        | false => rfl
        | true =>
          obtain ⟨error, hlost⟩ := (Failure.isFatal_iff failed).mp hfatal
          exact absurd hlost (reportable error)

/-- A turn ends the loop with a failure just if it has one of the causes. -/
theorem cause_iff :
    Cause sh input st failure final ↔ sh.turn input st = .stop (.error failure) final := by
  rw [← stops_iff]
  constructor
  · intro h
    cases h with
    | read prompted none_left broken =>
      refine .read prompted ?_
      rw [Input.readLine_of_nil none_left, broken]
    | lost prompted next words attempted =>
      obtain ⟨rest, reading⟩ := Input.readLine_of_cons next
      exact .failed prompted reading
        (executeLine_error_iff.mpr ⟨_, _, words, .inl ⟨_, rfl, attempted⟩⟩)
    | diagnostic prompted next words attempted reportable written =>
      obtain ⟨rest, reading⟩ := Input.readLine_of_cons next
      exact .failed prompted reading (executeLine_error_iff.mpr
        ⟨_, _, words, .inr ⟨_, _, _, _, rfl, rfl, attempted, reportable, written⟩⟩)
    | prompt interactive written =>
      exact .prompt (promptUser_error_iff.mpr ⟨interactive, _, rfl, .inl written⟩)
    | promptFlush interactive written flushed =>
      exact .prompt (promptUser_error_iff.mpr
        ⟨interactive, _, rfl, .inr ⟨_, written, flushed⟩⟩)
    | farewell interactive prompted none_left whole written =>
      refine .ended prompted ?_ (endOfInput_error_iff.mpr ⟨interactive, _, rfl, written⟩)
      rw [Input.readLine_of_nil none_left, whole]
  · intro h
    cases h with
    | prompt prompted =>
      obtain ⟨interactive, error, rfl, written | ⟨st₁, written, flushed⟩⟩ :=
        promptUser_error_iff.mp prompted
      · exact .prompt interactive written
      · exact .promptFlush interactive written flushed
    | read prompted reading =>
      obtain ⟨hlines, hbroken⟩ := Input.lines_of_failed reading
      exact .read prompted hlines hbroken
    | ended prompted reading left =>
      obtain ⟨interactive, error, rfl, written⟩ := endOfInput_error_iff.mp left
      obtain ⟨hlines, hwhole⟩ := Input.lines_of_ended reading
      exact .farewell interactive prompted hlines hwhole written
    | failed prompted reading executed =>
      -- The command on the line failed, in one of two ways.
      have hnext := (Input.lines_of_line reading).1
      obtain ⟨name, args, words, ⟨error, rfl, attempted⟩ | ⟨failed, error, st₁, err, rfl, rfl,
        attempted, reportable, written⟩⟩ := executeLine_error_iff.mp executed
      · exact .lost prompted hnext words attempted
      · exact .diagnostic prompted hnext words attempted reportable written

/-- The loop fails just if it reaches a turn with one of the causes. -/
theorem repl_error_iff :
    sh.repl input st = (.error failure, final)
      ↔ ∃ n input' st', Reaches sh n input st input' st'
        ∧ Cause sh input' st' failure final := by
  constructor
  · intro h
    obtain ⟨n, input', st', -, hreach, hstop⟩ := exists_stop sh input st
    rw [h] at hstop
    exact ⟨n, input', st', hreach, cause_iff.mpr hstop⟩
  · rintro ⟨n, input', st', hreach, hcause⟩
    rw [repl_of_reaches hreach, repl_of_stop (cause_iff.mp hcause)]

/-! ## What a run keeps -/

/-- The prompt goes to standard output, not to standard error. -/
theorem err_of_promptUser {answer : Except Failure Unit}
    (h : sh.promptUser st = (answer, final)) : final.err = st.err := by
  rw [frame_of_promptUser h]

/-- Standard error answers after a line as before. -/
theorem err_device_of_executeLine {line : String} {result : Except Failure Flow}
    (h : sh.executeLine line st = (result, final)) : final.err.device = st.err.device := by
  rw [executeLine] at h
  cases hw : Line.tokens line with
  | nil =>
    rw [hw] at h
    cases h
    rfl
  | cons name args =>
    rw [hw] at h
    exact (ends_iff.mpr h).err_device

/-- The turns of the loop change neither how standard error answers nor how the input
    ends. -/
theorem frame_of_reaches (h : Reaches sh n input st input' st') :
    st'.err.device = st.err.device ∧ input'.breakage = input.breakage := by
  induction h with
  | here => exact ⟨rfl, rfl⟩
  | later turned _ ih =>
    obtain ⟨_, bytes, status, prompted, reading, executed⟩ := next_iff.mpr turned
    refine ⟨?_, ih.2.trans (Input.lines_of_line reading).2⟩
    rw [ih.1, err_device_of_executeLine executed, err_of_promptUser prompted]

/-- Without a prompt, with working streams of errors and input, and as long as no process
    is lost, the loop ends with a status. -/
theorem repl_ok_of_quiet (hi : sh.config.interactive = false)
    (herr : st.err.device.AlwaysWrites) (hinput : input.breakage = none)
    (hlost : ∀ n input' st' error final, Reaches sh n input st input' st' →
      ¬ Cause sh input' st' (.shell (.wait error)) final) :
    ∃ status, (sh.repl input st).1 = .ok status := by
  rcases hrepl : sh.repl input st with ⟨failure | status, final⟩
  · -- Otherwise there was a cause, and each of them is ruled out.
    obtain ⟨n, input', st', hreach, hcause⟩ := repl_error_iff.mp hrepl
    obtain ⟨hdevice, hbreak⟩ := frame_of_reaches hreach
    cases hcause with
    | read prompted none_left broken =>
      rw [hbreak, hinput] at broken
      cases broken
    | lost prompted next words attempted =>
      exact absurd (.lost prompted next words attempted) (hlost n input' st' _ _ hreach)
    | diagnostic prompted next words attempted reportable written =>
      -- Standard error works here as it did at the start.
      have hworks : st'.err.device.AlwaysWrites := by
        rw [hdevice]
        exact herr
      rw [← err_of_promptUser prompted, ← (err_of_attempt attempted).1] at hworks
      cases (Sink.writeAll_of_alwaysWrites hworks written).1
    | prompt interactive written =>
      rw [hi] at interactive
      cases interactive
    | promptFlush interactive written flushed =>
      rw [hi] at interactive
      cases interactive
    | farewell interactive prompted none_left whole written =>
      rw [hi] at interactive
      cases interactive
  · exact ⟨status, rfl⟩

/-- With the builtins `exit` and `env` no process is lost unless the machine says so. -/
theorem not_lost (hsh : sh.builtins = Builtin.standard)
    (hhost : ∀ world launch error, (sh.host.start world launch).1.fate ≠ .lost error)
    (error : IoError) : ¬ Cause sh input st (.shell (.wait error)) final := by
  intro h
  cases h with
  | lost prompted next words attempted =>
    obtain ⟨world, launch, hlost⟩ := lost_of_attempt hsh attempted
    exact hhost world launch error hlost

/-- A loop that does not prompt and ends with a status has carried out every line up to the
    first that ends the shell, or all lines if none does. -/
theorem calls_of_repl (hi : sh.config.interactive = false) {status : Status}
    (h : sh.repl input st = (.ok status, final)) :
    ((∀ event ∈ events sh st (lineCalls input.lines), Resumes event)
        ∧ final = after sh st (lineCalls input.lines) ∧ status = final.env.lastStatus)
      ∨ ∃ done line later, input.lines = done ++ line :: later
          ∧ (∀ event ∈ events sh st (lineCalls done), Resumes event)
          ∧ sh.executeLine (Utf8.decodeLossy line) (after sh st (lineCalls done))
            = (.ok (.terminate status), final) := by
  have hlast := status_of_repl h
  rw [repl_of_quiet hi] at h
  -- If all commands were carried out the end of the input has ended the loop, else one of them.
  rcases hall : sh.runAll (commands input.lines) st with ⟨_ | result, st₁⟩ <;> rw [hall] at h
  · obtain ⟨hresumes, hafter⟩ := resumes_of_runAll hall
    have hfinal : st₁ = final := by
      unfold conclude at h
      simp only at h
      split at h <;> cases h
      rfl
    exact .inl ⟨hresumes, hfinal ▸ hafter, hlast⟩
  · cases h
    exact .inr (exists_calls_of_runAll hall)

/-- **Why the read loop fails.** It fails just if it reaches a turn in which the input cannot
    be read, a process is lost, a report cannot be written or, where the shell prompts, the
    prompt or the farewell cannot be written. So without a prompt, with working streams of
    errors and input, and as long as no process is lost, it ends with a status and carries
    out every line up to the first that ends the shell, whatever standard output does. A
    program, an `exit` or an `env` that standard output failed then gets the status 1 and
    one report. -/
theorem repl_stop_causes (sh : Shell σ) (input : Input) (st : State σ) :
    (∀ failure final, sh.repl input st = (.error failure, final)
        ↔ ∃ n input' st', Reaches sh n input st input' st'
          ∧ Cause sh input' st' failure final)
      ∧ (sh.config.interactive = false → st.err.device.AlwaysWrites → input.breakage = none →
          (∀ n input' st' error final, Reaches sh n input st input' st' →
            ¬ Cause sh input' st' (.shell (.wait error)) final) →
          (∃ status final, sh.repl input st = (.ok status, final)
            ∧ (((∀ event ∈ events sh st (lineCalls input.lines), Resumes event)
                ∧ final = after sh st (lineCalls input.lines)
                ∧ status = final.env.lastStatus)
              ∨ ∃ done line later, input.lines = done ++ line :: later
                  ∧ (∀ event ∈ events sh st (lineCalls done), Resumes event)
                  ∧ sh.executeLine (Utf8.decodeLossy line) (after sh st (lineCalls done))
                    = (.ok (.terminate status), final)))
          ∧ ∀ n input' st', Reaches sh n input st input' st' → st'.err.device.AlwaysWrites)
      ∧ (∀ name args (st : State σ), st.err.device.AlwaysWrites →
          (∀ action ∈ Builtin.dispatch sh.builtins st.env name args,
            action = Builtin.Exit.action st.env args
              ∨ action = Builtin.Env.action st.env args) →
          (sh.run (name :: args) st).2.out.faults ≠ st.out.faults →
          ∃ error, (sh.run (name :: args) st).1 = .ok (.resume 1)
            ∧ (sh.run (name :: args) st).2.env.lastStatus = 1
            ∧ (sh.run (name :: args) st).2.out.faults = error :: st.out.faults
            ∧ (sh.run (name :: args) st).2.err.shown = st.err.shown
              ++ Utf8.encode (reportText sh.config.programName name error.text))
      ∧ ∀ reads, (Input.ofReads reads).readLine = Input.readUntil [] reads
          ∧ (Input.ofReads reads).breakage = reads.findSome? Input.Read.breaks? := by
  refine ⟨fun failure final => repl_error_iff, ?_, ?_, ?_⟩
  · intro hi herr hinput hlost
    refine ⟨?_, ?_⟩
    · obtain ⟨status, hok⟩ := repl_ok_of_quiet hi herr hinput hlost
      have hrepl : sh.repl input st = (.ok status, (sh.repl input st).2) := by rw [← hok]
      exact ⟨status, _, hrepl, calls_of_repl hi hrepl⟩
    · intro n input' st' hreach
      rw [(frame_of_reaches hreach).1]
      exact herr
  · intro name args st herr hdefault hfault
    exact run_of_fault herr hdefault hfault
  · intro reads
    exact ⟨Input.readLine_ofReads reads, Input.breakage_ofReads reads⟩

theorem repl_stop_causes_full :
    (∃ status, (Sample.shell.repl ⟨Utf8.encode "env\nfalse\n", none⟩ Sample.fullState).1
        = .ok status)
      ∧ (Sample.shell.run ["env"] Sample.fullState).1 = .ok (.resume 1) := by
  obtain ⟨-, hruns, hfault, -⟩ := repl_stop_causes Sample.shell
    ⟨Utf8.encode "env\nfalse\n", none⟩ Sample.fullState
  have hnone : ∀ world launch error,
      (Sample.shell.host.start world launch).1.fate ≠ .lost error := by
    intro world launch error h
    cases h
  refine ⟨?_, ?_⟩
  · obtain ⟨⟨status, final, hrepl, -⟩, -⟩ := hruns rfl Device.alwaysWrites_reliable rfl
      (fun _ _ _ error _ _ => not_lost rfl hnone error)
    exact ⟨status, by rw [hrepl]⟩
  · obtain ⟨error, hflow, -⟩ := hfault "env" [] Sample.fullState
      Device.alwaysWrites_reliable (fun _ haction => .inr (Option.some.inj haction).symm)
      (by decide)
    exact hflow

end LineShell.Shell
