/-
  LineShell.Proofs.Prompting

  Two runs of the read loop side by side, of which one prompts and the other does not.

  A command cannot see what standard output shows; it knows the stream by its answers. So
  on streams that never fail it comes to the same whatever was written before. `Alike`
  says this of two outcomes, and is shown of one step after the other, from a single
  request up to a line. The main statement adds up the lines: the prompts and the farewell
  are all that the loop with prompts writes in addition, and nothing but standard output
  shows that it prompts. So what a loop comes to is told by its commands, whether it prompts
  or not (`Shell.fst_repl_of_works`).
-/
import LineShell.Proofs.Executions

namespace LineShell

/-! ## Streams side by side -/

namespace Sink

/-- Two streams that never fail and show the same bytes behind two beginnings. -/
structure Abreast (p q : Bytes) (a b : Sink) : Prop where
  left : a.device.Works
  right : b.device.Works
  shown : ∃ bytes, a.shown = p ++ bytes ∧ b.shown = q ++ bytes

variable {p q : Bytes} {a b : Sink}

/-- Any two such streams, with what they show as beginnings. -/
theorem abreast_self (ha : a.device.Works) (hb : b.device.Works) :
    Abreast a.shown b.shown a b :=
  ⟨ha, hb, [], (List.append_nil _).symm, (List.append_nil _).symm⟩

namespace Abreast

/-- The same bytes behind what is shown. -/
theorem append {a' b' : Sink} {bytes : Bytes} (h : Abreast p q a b)
    (ha : a'.device = a.device) (hb : b'.device = b.device)
    (hleft : a'.shown = a.shown ++ bytes) (hright : b'.shown = b.shown ++ bytes) :
    Abreast p q a' b' := by
  obtain ⟨earlier, hp, hq⟩ := h.shown
  refine ⟨ha ▸ h.left, hb ▸ h.right, earlier ++ bytes, ?_, ?_⟩
  · rw [hleft, hp, List.append_assoc]
  · rw [hright, hq, List.append_assoc]

theorem write (h : Abreast p q a b) (bytes : Bytes) :
    ∃ a' b', a.write bytes = (.ok (), a') ∧ b.write bytes = (.ok (), b')
      ∧ Abreast p q a' b' := by
  rcases hwrite : a.write bytes with ⟨answer, a'⟩
  rcases hwrite' : b.write bytes with ⟨answer', b'⟩
  obtain ⟨rfl, -, hleft⟩ := write_of_alwaysWrites h.left.alwaysWrites hwrite
  obtain ⟨rfl, -, hright⟩ := write_of_alwaysWrites h.right.alwaysWrites hwrite'
  exact ⟨a', b', rfl, rfl,
    h.append (device_of_write hwrite) (device_of_write hwrite') hleft hright⟩

theorem flush (h : Abreast p q a b) :
    ∃ a' b', a.flush = (.ok (), a') ∧ b.flush = (.ok (), b') ∧ Abreast p q a' b' := by
  rcases hflush : a.flush with ⟨answer, a'⟩
  rcases hflush' : b.flush with ⟨answer', b'⟩
  obtain ⟨rfl, hleft, hdevice⟩ := flush_of_works h.left hflush
  obtain ⟨rfl, hright, hdevice'⟩ := flush_of_works h.right hflush'
  rw [← List.append_nil a.shown] at hleft
  rw [← List.append_nil b.shown] at hright
  exact ⟨a', b', rfl, rfl, h.append hdevice hdevice' hleft hright⟩

theorem receive (h : Abreast p q a b) (bytes : Bytes) :
    Abreast p q (a.receive bytes) (b.receive bytes) :=
  h.append rfl rfl (shown_add ..) (shown_add ..)

end Abreast
end Sink

/-- An action comes to the same on both streams. -/
theorem Action.perform_abreast {p q : Bytes} {a b : Sink} (h : a.Abreast p q b)
    (action : Action) :
    ∃ result env a' b', action.perform a = ⟨result, env, a'⟩
      ∧ action.perform b = ⟨result, env, b'⟩ ∧ a'.Abreast p q b' := by
  induction action generalizing a b with
  | done result env => exact ⟨result, env, a, b, rfl, rfl, h⟩
  | write bytes next ih =>
    obtain ⟨a', b', hwrite, hwrite', hnext⟩ := h.write bytes
    rw [perform, perform, hwrite, hwrite']
    exact ih (.ok ()) hnext
  | flush next ih =>
    obtain ⟨a', b', hflush, hflush', hnext⟩ := h.flush
    rw [perform, perform, hflush, hflush']
    exact ih (.ok ()) hnext

/-- What a line brought to standard output. -/
def Execution.output {σ : Type} (execution : Execution σ) : Bytes :=
  execution.after.out.shown.drop execution.before.out.shown.length

namespace Shell

variable {σ : Type} {sh : Shell σ} {p q : Bytes} {st : State σ} {out : Sink}

/-! ## Commands side by side -/

/-- Two outcomes with the same result, in states that differ in standard output only,
    which are abreast. -/
def Alike {α : Type} (p q : Bytes) (x y : α × State σ) : Prop :=
  ∃ result st out, x = (result, st) ∧ y = (result, { st with out }) ∧ st.out.Abreast p q out

theorem execute_alike (h : st.out.Abreast p q out) (command : External) (host : Host σ) :
    Alike p q (command.execute host st) (command.execute host { st with out }) := by
  rw [execute_eq, execute_eq]
  split
  · exact ⟨_, st, out, rfl, rfl, h⟩
  · exact ⟨_, _, _, rfl, rfl, h.receive _⟩

theorem runExternal_alike (h : st.out.Abreast p q out) (sh : Shell σ) (name : String)
    (args : List String) :
    Alike p q (sh.runExternal name args st) (sh.runExternal name args { st with out }) := by
  rw [runExternal, runExternal]
  simp only
  cases Lookup.find (sh.host.pathExists st.world) (st.env.get? "PATH") name with
  | error error => exact ⟨_, st, out, rfl, rfl, h⟩
  | ok location =>
    -- Both streams are flushed with success, and on them the program is carried out alike.
    obtain ⟨a, b, hflush, hflush', hflushed⟩ := h.flush
    simp only [State.flush]
    rw [hflush, hflush']
    simp only
    have hstart : ({ st with out := a } : State σ).out.Abreast p q b := hflushed
    obtain ⟨result, st₁, out₁, hexec, hexec', h₁⟩ :=
      execute_alike hstart ⟨name, location.path, args⟩ sh.host
    rw [hexec, hexec']
    cases result with
    | error error => exact ⟨_, st₁, out₁, rfl, rfl, h₁⟩
    | ok status => exact ⟨_, st₁, out₁, rfl, rfl, h₁⟩

theorem attempt_alike (h : st.out.Abreast p q out) (sh : Shell σ) (name : String)
    (args : List String) :
    Alike p q (sh.attempt name args st) (sh.attempt name args { st with out }) := by
  rw [attempt, attempt]
  simp only
  cases Builtin.dispatch sh.builtins st.env name args with
  | none => exact runExternal_alike h sh name args
  | some action =>
    obtain ⟨result, env, a, b, hperform, hperform', hnext⟩ := action.perform_abreast h
    refine ⟨result, { st with env, out := a }, b, ?_, ?_, hnext⟩
    · show perform action st = _
      rw [perform_eq, hperform]
    · show perform action { st with out } = _
      rw [perform_eq, hperform']

/-- A report goes to standard error, which is the same in both states. -/
theorem recover_alike (h : st.out.Abreast p q out) (sh : Shell σ) (name : String)
    (failure : Failure) :
    Alike p q (sh.recover name failure st) (sh.recover name failure { st with out }) := by
  rw [recover_eq, recover_eq]
  cases failure.isFatal with
  | true => exact ⟨_, st, out, rfl, rfl, h⟩
  | false =>
    simp only
    rcases st.err.writeAll (reportPieces sh.config.programName name failure.message)
      with ⟨_ | _, err⟩
    · exact ⟨_, { st with err }, out, rfl, rfl, h⟩
    · exact ⟨_, { st with err }, out, rfl, rfl, h⟩

/-- Recording a status goes by what is not standard output. -/
theorem note_alike (h : st.out.Abreast p q out) {α : Type} (result : α) (isBuiltin : Bool)
    (status : Status) :
    Alike p q (result, st.note isBuiltin status)
      (result, ({ st with out } : State σ).note isBuiltin status) := by
  refine ⟨result, st.note isBuiltin status, out, rfl, ?_, ?_⟩
  · cases isBuiltin <;> rfl
  · rw [State.out_note]
    exact h

/-- A command comes to the same, whatever was written before. -/
theorem run_alike (h : st.out.Abreast p q out) (sh : Shell σ) (argv : List String) :
    Alike p q (sh.run argv st) (sh.run argv { st with out }) := by
  cases argv with
  | nil => exact ⟨_, st, out, rfl, rfl, h⟩
  | cons name args =>
    rw [run_cons, run_cons]
    obtain ⟨result, st₁, out₁, hattempt, hattempt', h₁⟩ := attempt_alike h sh name args
    rw [hattempt, hattempt']
    cases result with
    | ok status => exact note_alike h₁ _ _ status
    | error failure =>
      obtain ⟨recovered, st₂, out₂, hrecover, hrecover', h₂⟩ := recover_alike h₁ sh name failure
      simp only
      rw [hrecover, hrecover']
      cases recovered with
      | ok status => exact note_alike h₂ _ _ status
      | error failure => exact ⟨_, st₂, out₂, rfl, rfl, h₂⟩

/-! ## Loops side by side -/

/-- The same shell, with or without prompts. -/
def prompting (sh : Shell σ) (interactive : Bool) : Shell σ :=
  { sh with config := { sh.config with interactive } }

/-- A line is carried out alike with and without prompts. -/
theorem executeLine_alike (h : st.out.Abreast p q out) (sh : Shell σ) (line : String) :
    Alike p q ((sh.prompting false).executeLine line st)
      ((sh.prompting true).executeLine line { st with out }) :=
  run_alike h sh (Line.tokens line)

/-- A prompt on a stream that works. -/
theorem promptUser_of_works (sh : Shell σ) (hout : st.out.device.Works) :
    ∃ asked, (sh.prompting true).promptUser st = (.ok (), { st with out := asked })
      ∧ asked.device.Works
      ∧ asked.shown = st.out.shown ++ Utf8.encode sh.config.prompt := by
  rcases hwrite : st.out.writeAll [Utf8.encode sh.config.prompt] with ⟨answer, written⟩
  obtain ⟨rfl, -, hshown⟩ := Sink.writeAll_of_alwaysWrites hout.alwaysWrites hwrite
  have hwritten : written.device.Works := Sink.device_of_writeAll hwrite ▸ hout
  rcases hflush : written.flush with ⟨answer, asked⟩
  obtain ⟨rfl, hasked, hdevice⟩ := Sink.flush_of_works hwritten hflush
  refine ⟨asked, ?_, hdevice ▸ hwritten, ?_⟩
  · rw [promptUser]
    simp only [State.print, State.flush, prompting]
    rw [hwrite]
    simp only
    rw [hflush]
    rfl
  · rw [hasked, hshown, List.flatten_cons, List.flatten_nil, List.append_nil]

/-- A farewell on a stream that works. -/
theorem endOfInput_of_works (sh : Shell σ) (hout : st.out.device.Works) :
    ∃ left, (sh.prompting true).endOfInput st = (.ok st.env.lastStatus, { st with out := left })
      ∧ left.shown = st.out.shown ++ [Input.newline] := by
  rcases hwrite : st.out.writeAll [Utf8.encode "\n"] with ⟨answer, left⟩
  obtain ⟨rfl, -, hshown⟩ := Sink.writeAll_of_alwaysWrites hout.alwaysWrites hwrite
  refine ⟨left, ?_, hshown⟩
  rw [endOfInput]
  simp only [State.print, prompting]
  rw [hwrite]
  rfl

/-- The lines of two loops, of which one prompts: they end alike, in states that differ in
    standard output only, and there one shows a prompt before what each line wrote. -/
theorem executions_prompting (sh : Shell σ) (lines : List Bytes)
    (hst : st.out.device.Works) (hout : out.device.Works) :
    ∃ final written,
      Execution.last st ((sh.prompting false).executions lines st) = final
        ∧ Execution.last { st with out } ((sh.prompting true).executions lines { st with out })
          = { final with out := written }
        ∧ (∀ breakage,
          Execution.ending breakage ((sh.prompting true).executions lines { st with out })
            = Execution.ending breakage ((sh.prompting false).executions lines st))
        ∧ written.device.Works
        ∧ final.out.shown
          = st.out.shown
            ++ ((sh.prompting false).executions lines st).flatMap Execution.output
        ∧ written.shown
          = out.shown ++ ((sh.prompting false).executions lines st).flatMap
            fun execution => Utf8.encode sh.config.prompt ++ execution.output := by
  induction lines generalizing st out with
  | nil =>
    refine ⟨st, out, rfl, rfl, fun _ => rfl, hout, ?_, ?_⟩
    · exact (List.append_nil _).symm
    · exact (List.append_nil _).symm
  | cons line later ih =>
    have hquiet : (sh.prompting false).promptUser st = (.ok (), st) := promptUser_of_quiet rfl st
    have hstart : ({ st with out } : State σ).out.device.Works := hout
    obtain ⟨asked, hprompt, hasked, hshown⟩ := promptUser_of_works sh hstart
    -- Behind the prompt the line is carried out in states that are abreast.
    obtain ⟨result, next, out₁, hexec, hexec', habreast⟩ :=
      executeLine_alike (Sink.abreast_self hst hasked) sh (Utf8.decodeLossy line)
    obtain ⟨bytes, hleft, hright⟩ := habreast.shown
    have houtput : (⟨line, st, result, next⟩ : Execution σ).output = bytes := by
      rw [Execution.output, hleft, List.drop_left]
    rw [executions_of_prompted later hquiet hexec, executions_of_prompted later hprompt hexec']
    by_cases hgoes : (⟨line, st, result, next⟩ : Execution σ).goesOn = true
    · have hgoes' : (⟨line, { st with out := asked }, result, { next with out := out₁ }⟩
          : Execution σ).goesOn = true := hgoes
      obtain ⟨final, written, hlast, hlast', hending, hworks, hfinal, hwritten⟩ :=
        ih habreast.left habreast.right
      rw [if_pos hgoes, if_pos hgoes']
      refine ⟨final, written, hlast, hlast', ?_, hworks, ?_, ?_⟩
      · intro breakage
        rw [Execution.ending_of_goesOn hgoes, Execution.ending_of_goesOn hgoes', hending]
      · rw [hfinal, hleft, List.flatMap_cons, houtput, List.append_assoc]
      · rw [hwritten, hright, hshown, List.flatMap_cons, houtput]
        simp only [List.append_assoc]
    · have hgoes' : ¬ (⟨line, { st with out := asked }, result, { next with out := out₁ }⟩
          : Execution σ).goesOn = true := hgoes
      rw [if_neg hgoes, if_neg hgoes']
      refine ⟨next, out₁, rfl, rfl, fun _ => rfl, habreast.right, ?_, ?_⟩
      · rw [hleft, List.flatMap_cons, houtput, List.flatMap_nil, List.append_nil]
      · rw [hright, hshown, List.flatMap_cons, houtput, List.flatMap_nil, List.append_nil,
          List.append_assoc]

/-- What a loop with prompts writes behind its last line: if no line stopped it, it has
    prompted once more, and at the end of the input it takes leave. -/
def closing (prompt : String) : Ending → Bytes
  | .terminated _ => []
  | .failed _ => []
  | .endOfInput => Utf8.encode prompt ++ [Input.newline]
  | .readError _ => Utf8.encode prompt

/-- The end of a loop with prompts, on a stream that works. -/
theorem stopAt_of_works (sh : Shell σ) (ending : Ending) (hout : st.out.device.Works) :
    ∃ written,
      (sh.prompting true).stopAt ending st
          = (ending.result st.env.lastStatus, { st with out := written })
        ∧ written.shown = st.out.shown ++ closing sh.config.prompt ending := by
  cases ending with
  | terminated status => exact ⟨st.out, rfl, (List.append_nil _).symm⟩
  | failed failure => exact ⟨st.out, rfl, (List.append_nil _).symm⟩
  | endOfInput =>
    -- The end of the input shows up behind one more prompt, and a newline follows it.
    obtain ⟨asked, hprompt, hasked, hshown⟩ := promptUser_of_works sh hout
    have hstart : ({ st with out := asked } : State σ).out.device.Works := hasked
    obtain ⟨left, hleave, hleft⟩ := endOfInput_of_works sh hstart
    refine ⟨left, ?_, ?_⟩
    · rw [stopAt, hprompt]
      exact hleave
    · rw [hleft, hshown, closing, List.append_assoc]
  | readError error =>
    obtain ⟨asked, hprompt, -, hshown⟩ := promptUser_of_works sh hout
    refine ⟨asked, ?_, hshown⟩
    rw [stopAt, hprompt]
    rfl

/-- The loops with and without prompts, on a stream that works: they come to the same, but for
    what the stream shows. -/
theorem exists_repl_prompting (sh : Shell σ) (input : Input) (hout : st.out.device.Works) :
    ∃ written,
      (sh.prompting true).repl input st
          = (((sh.prompting false).repl input st).1,
            { ((sh.prompting false).repl input st).2 with out := written })
        ∧ ((sh.prompting false).repl input st).2.out.shown
          = st.out.shown
            ++ ((sh.prompting false).executions input.lines st).flatMap Execution.output
        ∧ written.shown
          = st.out.shown
            ++ ((sh.prompting false).executions input.lines st).flatMap
              (fun execution => Utf8.encode sh.config.prompt ++ execution.output)
            ++ closing sh.config.prompt ((sh.prompting false).ending input st) := by
  obtain ⟨final, asked, hlast, hlast', hending, hasked, hshown, hshown'⟩ :=
    executions_prompting sh input.lines hout hout
  have hstart : ({ final with out := asked } : State σ).out.device.Works := hasked
  obtain ⟨written, hstop, hwritten⟩ :=
    stopAt_of_works sh ((sh.prompting false).ending input st) hstart
  have hquiet := repl_of_executions (rfl : (sh.prompting false).config.interactive = false)
    input st
  rw [hlast] at hquiet
  refine ⟨written, ?_, ?_, ?_⟩
  · -- The two loops have the same ending, in states that differ in standard output only.
    rw [hquiet, repl_eq_executions, Shell.ending, hending]
    rw [hlast']
    exact hstop
  · rw [hquiet]
    exact hshown
  · rw [hwritten, hshown']

/-- Commands come to the same in a shell that prompts and in one that does not. -/
theorem runAll_prompting (sh : Shell σ) (interactive : Bool) (argvs : List (List String))
    (st : State σ) : (sh.prompting interactive).runAll argvs st = sh.runAll argvs st := by
  induction argvs generalizing st with
  | nil => rfl
  | cons argv later ih =>
    have hrun : (sh.prompting interactive).run argv st = sh.run argv st := rfl
    rw [runAll, runAll, hrun]
    rcases sh.run argv st with ⟨failure | status | status, next⟩
    · rfl
    · exact ih next
    · rfl

/-- What a loop comes to is told by its commands alone, if its prompts can be written. -/
theorem fst_repl_of_works (input : Input)
    (hout : sh.config.interactive = true → st.out.device.Works) :
    (sh.repl input st).1
      = (conclude input.breakage (sh.runAll (commands input.lines) st)).1 := by
  cases hprompts : sh.config.interactive with
  | false => rw [repl_of_quiet hprompts]
  | true =>
    have hsame : sh.prompting true = sh := by rw [prompting, ← hprompts]
    have hquiet : (sh.prompting false).config.interactive = false := rfl
    obtain ⟨written, hrepl, -⟩ := exists_repl_prompting sh input (hout hprompts)
    rw [hsame, repl_of_quiet hquiet, runAll_prompting] at hrepl
    rw [hrepl]

/-- **Prompting only decorates standard output.** On a standard output that never fails, the
    loops with and without prompts give the same result and leave the same state, but for
    what standard output shows. Without prompts it shows what the lines wrote, one after
    the other. With prompts a prompt comes before each of them, and behind the last one
    another prompt and a newline if the loop ended with its input, another prompt if it
    ended with a failed read, and nothing if a line stopped it. -/
theorem repl_prompting (sh : Shell σ) (input : Input) (st : State σ)
    (hout : st.out.device.Works) :
    let executions := (sh.prompting false).executions input.lines st
    let ending := (sh.prompting false).ending input st
    let final := Execution.last st executions
    ∃ written,
      (sh.prompting false).repl input st = (ending.result final.env.lastStatus, final)
        ∧ (sh.prompting true).repl input st
          = (ending.result final.env.lastStatus, { final with out := written })
        ∧ executions.map Execution.line <+: input.lines
        ∧ final.out.shown = st.out.shown ++ executions.flatMap Execution.output
        ∧ written.shown
          = st.out.shown
            ++ executions.flatMap
              (fun execution => Utf8.encode sh.config.prompt ++ execution.output)
            ++ closing sh.config.prompt ending := by
  intro executions ending final
  have hquiet : (sh.prompting false).repl input st
      = (ending.result final.env.lastStatus, final) := repl_of_executions rfl input st
  obtain ⟨written, hprompts, hshown, hwritten⟩ := exists_repl_prompting sh input hout
  rw [hquiet] at hprompts hshown
  exact ⟨written, hquiet, hprompts, (line_executions rfl _ _).1, hshown, hwritten⟩

theorem repl_prompting_env :
    Sample.state.out.device.Works
      ∧ ((Sample.shell.prompting true).repl ⟨Utf8.encode "env\n\nfalse", none⟩
          Sample.state).1 = .ok 1
      ∧ ((Sample.shell.prompting true).repl ⟨Utf8.encode "env\n\nfalse", none⟩
          Sample.state).2.out.shown = Utf8.encode "$ PATH=/bin\n$ $ $ \n" := by
  obtain ⟨written, -, hprompting, -, -, hshown⟩ := repl_prompting Sample.shell
    ⟨Utf8.encode "env\n\nfalse", none⟩ Sample.state Device.works_reliable
  rw [hprompting]
  exact ⟨Device.works_reliable, rfl, hshown⟩

end Shell
end LineShell
