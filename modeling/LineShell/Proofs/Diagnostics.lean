/-
  LineShell.Proofs.Diagnostics

  One line on standard error for every command line that fails.

  `Shell.reportOn` is the text that the shell has to say about a line, from the state before
  it: nothing, or one report on the first word. It is something just if there is trouble with
  the command (`reportOn_eq_some_iff`), and then it is of one line, if the name of the program
  is and the texts of failures are. A line that can be carried out adds this text and a newline
  to what the shell has written to standard error, and nothing else (`err_of_executeLine`). So
  does a read loop with all its lines, one after the other (`err_of_executions`).

  The texts of failed writes come from the stream, and how standard output answers never
  changes. That keeps the condition on it from line to line.
-/
import LineShell.Proofs.Executions
import LineShell.Proofs.Trouble
import Mathlib.Data.List.TakeWhile

namespace LineShell

/-! ## How standard output answers -/

/-- An action does not change how its stream answers. -/
theorem Action.device_of_perform (action : Action) (out : Sink) :
    (action.perform out).out.device = out.device :=
  action.perform_preserves (fun later => later.device = out.device)
    (fun hw hsame => (Sink.device_of_write hw).trans hsame)
    (fun hf hsame => (Sink.device_of_flush hf).trans hsame) rfl

namespace Shell

variable {σ : Type} {sh : Shell σ} {name : String} {args : List String} {line text : String}
  {st st₁ final : State σ} {flow : Flow}

theorem out_device_of_attempt {result : Except Failure Status}
    (h : sh.attempt name args st = (result, st₁)) : st₁.out.device = st.out.device := by
  rcases attempt_cases h with hprogram | ⟨_, _, action, _, hperformed⟩
  · cases course_iff.mpr hprogram with
    | unresolved missing => rfl
    | unflushed found flushed => exact Sink.device_of_flush flushed
    | unfit found flushed nul => exact Sink.device_of_flush flushed
    | @ordered location out report world found flushed fit started =>
      show out.device = st.out.device
      exact Sink.device_of_flush flushed
  · rw [perform_eq] at hperformed
    cases hperformed
    exact action.device_of_perform st.out

/-- A command does not change how standard output answers. -/
theorem out_device_of_run (argv : List String) (st : State σ) :
    (sh.run argv st).2.out.device = st.out.device := by
  cases argv with
  | nil => rfl
  | cons name args =>
    rcases attempted : sh.attempt name args st with ⟨result, st₁⟩
    rw [(frame_of_run attempted).1, out_device_of_attempt attempted]

theorem out_device_of_promptUser {answer : Except Failure Unit}
    (h : sh.promptUser st = (answer, st₁)) : st₁.out.device = st.out.device := by
  unfold promptUser at h
  split at h
  · simp only [State.print] at h
    rcases hw : st.out.writeAll [Utf8.encode sh.config.prompt] with ⟨_ | _, printed⟩ <;>
      rw [hw] at h
    · cases h
      exact Sink.device_of_writeAll hw
    · simp only [State.flush] at h
      rcases hf : printed.flush with ⟨_ | _, flushed⟩ <;> rw [hf] at h <;> cases h <;>
        exact (Sink.device_of_flush hf).trans (Sink.device_of_writeAll hw)
  · cases h
    rfl

theorem out_device_of_endOfInput {result : Except Failure Status}
    (h : sh.endOfInput st = (result, st₁)) : st₁.out.device = st.out.device := by
  unfold endOfInput at h
  split at h
  · simp only [State.print] at h
    rcases hw : st.out.writeAll [Utf8.encode "\n"] with ⟨_ | _, printed⟩ <;> rw [hw] at h <;>
      cases h <;> exact Sink.device_of_writeAll hw
  · cases h
    rfl

/-- Over a loop it stays the same, in front of every line and behind the last. -/
theorem out_device_of_executions (lines : List Bytes) (st : State σ) :
    (∀ execution ∈ sh.executions lines st, execution.before.out.device = st.out.device)
      ∧ (Execution.last st (sh.executions lines st)).out.device = st.out.device := by
  induction lines generalizing st with
  | nil => exact ⟨List.forall_mem_nil _, rfl⟩
  | cons line later ih =>
    rcases prompted : sh.promptUser st with ⟨_ | _, before⟩
    · rw [executions_of_unprompted line later prompted]
      exact ⟨List.forall_mem_nil _, rfl⟩
    · rcases executed : sh.executeLine (Utf8.decodeLossy line) before with ⟨result, next⟩
      rw [executions_of_prompted later prompted executed]
      have hbefore := out_device_of_promptUser prompted
      have hnext : next.out.device = st.out.device := by
        have hline : (sh.executeLine (Utf8.decodeLossy line) before).2.out.device
            = before.out.device := out_device_of_run _ before
        rw [executed] at hline
        exact hline.trans hbefore
      split
      · obtain ⟨hall, hlast⟩ := ih next
        refine ⟨?_, hlast.trans hnext⟩
        intro execution hmem
        rcases List.mem_cons.mp hmem with rfl | hmem
        · exact hbefore
        · exact (hall execution hmem).trans hnext
      · refine ⟨?_, hnext⟩
        intro execution hmem
        rw [List.mem_singleton.mp hmem]
        exact hbefore

/-- Where a loop stops, it changes nothing but standard output, and not how this answers. -/
theorem frame_of_stopAt (ending : Ending) (st : State σ) :
    (sh.stopAt ending st).2.err = st.err
      ∧ (sh.stopAt ending st).2.out.device = st.out.device := by
  cases ending with
  | terminated status => exact ⟨rfl, rfl⟩
  | failed failure => exact ⟨rfl, rfl⟩
  | endOfInput =>
    rw [stopAt]
    rcases prompted : sh.promptUser st with ⟨_ | _, before⟩
    · exact ⟨by rw [frame_of_promptUser prompted], out_device_of_promptUser prompted⟩
    · simp only
      rcases left : sh.endOfInput before with ⟨result, final⟩
      refine ⟨by rw [frame_of_endOfInput left, frame_of_promptUser prompted], ?_⟩
      exact (out_device_of_endOfInput left).trans (out_device_of_promptUser prompted)
  | readError error =>
    rw [stopAt]
    rcases prompted : sh.promptUser st with ⟨_ | _, before⟩ <;>
      exact ⟨by rw [frame_of_promptUser prompted], out_device_of_promptUser prompted⟩

/-- A whole loop does not change how standard output answers. -/
theorem out_device_of_repl (input : Input) (st : State σ) :
    (sh.repl input st).2.out.device = st.out.device := by
  rw [repl_eq_executions, (frame_of_stopAt _ _).2, (out_device_of_executions _ st).2]

/-! ## The report on a line -/

/-- A report on a command without the newline at its end. -/
def reportLine (programName name message : String) : String :=
  programName ++ ": 1: " ++ name ++ ": " ++ message

/-- A report is a text and a newline. -/
theorem encode_reportText (programName name message : String) :
    Utf8.encode (reportText programName name message)
      = Utf8.encode (reportLine programName name message) ++ [Input.newline] := by
  have htext : reportText programName name message
      = reportLine programName name message ++ "\n" := rfl
  rw [htext, Utf8.encode_append]
  rfl

/-- What the shell has to say about a line, from the state before it. -/
def reportOn (sh : Shell σ) (line : String) (st : State σ) : Option String :=
  match Line.tokens line with
  | [] => none
  | name :: args =>
    match (sh.attempt name args st).1 with
    | .ok _ => none
    | .error failure =>
      if failure.isFatal then none
      else some (reportLine sh.config.programName name failure.message)

theorem reportOn_of_nil (htokens : Line.tokens line = []) : sh.reportOn line st = none := by
  rw [reportOn, htokens]

theorem reportOn_of_ok {status : Status} (htokens : Line.tokens line = name :: args)
    (attempted : sh.attempt name args st = (.ok status, st₁)) : sh.reportOn line st = none := by
  rw [reportOn, htokens]
  simp only
  rw [attempted]

theorem reportOn_of_error {failure : Failure} (htokens : Line.tokens line = name :: args)
    (attempted : sh.attempt name args st = (.error failure, st₁)) :
    sh.reportOn line st
      = if failure.isFatal then none
        else some (reportLine sh.config.programName name failure.message) := by
  rw [reportOn, htokens]
  simp only
  rw [attempted]

/-- It is something just if there is trouble with the command, and then this is reported. -/
theorem reportOn_eq_some_iff (hsh : sh.builtins = Builtin.standard) :
    sh.reportOn line st = some text
      ↔ ∃ name args failure, Line.tokens line = name :: args
        ∧ Trouble sh name args st failure
        ∧ text = reportLine sh.config.programName name failure.message := by
  constructor
  · intro h
    cases htokens : Line.tokens line with
    | nil =>
      rw [reportOn_of_nil htokens] at h
      cases h
    | cons name args =>
      rcases attempted : sh.attempt name args st with ⟨failure | status, st₁⟩
      · rw [reportOn_of_error htokens attempted] at h
        cases notFatal : failure.isFatal with
        | true =>
          rw [notFatal] at h
          cases h
        | false =>
          rw [notFatal] at h
          have htrouble := (trouble_iff hsh).mpr ⟨notFatal, st₁, attempted⟩
          exact ⟨name, args, failure, rfl, htrouble, (Option.some.inj h).symm⟩
      · rw [reportOn_of_ok htokens attempted] at h
        cases h
  · rintro ⟨name, args, failure, htokens, htrouble, rfl⟩
    obtain ⟨notFatal, st₁, attempted⟩ := (trouble_iff hsh).mp htrouble
    rw [reportOn_of_error htokens attempted, notFatal]
    rfl

/-- The report on a line is of one line. -/
theorem oneLine_of_reportOn (hsh : sh.builtins = Builtin.standard)
    (hname : OneLine sh.config.programName) (hhost : sh.host.OneLine)
    (hdevice : st.out.device.OneLine) (h : sh.reportOn line st = some text) : OneLine text := by
  obtain ⟨name, args, failure, htokens, htrouble, rfl⟩ := (reportOn_eq_some_iff hsh).mp h
  have hword : ∀ word ∈ name :: args, OneLine word := by
    rw [← htokens]
    exact fun word hmem => Line.oneLine_of_mem_tokens hmem
  have hmessage : OneLine failure.message :=
    oneLine_of_trouble hhost hdevice (fun arg harg => hword arg (List.mem_cons_of_mem _ harg))
      htrouble
  have hfirst : OneLine ": 1: " := by
    unfold OneLine
    decide
  have hsecond : OneLine ": " := by
    unfold OneLine
    decide
  exact (((hname.append hfirst).append (hword name List.mem_cons_self)).append hsecond).append
    hmessage

/-- A text as a line. -/
def ended (text : String) : Bytes := Utf8.encode text ++ [Input.newline]

/-- A line that can be carried out adds the report on it to standard error, and nothing else.
    If there is one, the shell goes on with the status of a failure. -/
theorem err_of_executeLine (executed : sh.executeLine line st = (.ok flow, final)) :
    final.err.own = st.err.own ++ (sh.reportOn line st).toList.flatMap ended
      ∧ ∀ text, sh.reportOn line st = some text →
          ∃ status ∈ ([-1, 1, 2, 127] : List Status),
            flow = .resume status ∧ final.env.lastStatus = status := by
  rw [executeLine] at executed
  cases htokens : Line.tokens line with
  | nil =>
    rw [htokens] at executed
    cases executed
    rw [reportOn_of_nil htokens]
    refine ⟨(List.append_nil _).symm, ?_⟩
    intro text h
    cases h
  | cons name args =>
    rw [htokens] at executed
    cases ends_iff.mpr executed with
    | succeeds attempted =>
      rw [reportOn_of_ok htokens attempted, State.err_note, (err_of_attempt attempted).2]
      refine ⟨(List.append_nil _).symm, ?_⟩
      intro text h
      cases h
    | @reported failure st₁ err attempted notFatal written =>
      have hown := (Sink.writeAll_of_ok written).1
      rw [flatten_reportPieces, encode_reportText, (err_of_attempt attempted).2] at hown
      rw [reportOn_of_error htokens attempted, notFatal, State.err_note]
      constructor
      · show err.own = st.err.own ++ (ended _ ++ [])
        rw [List.append_nil]
        exact hown
      · intro text _
        exact ⟨failure.status, status_of_failure failure, rfl, State.lastStatus_note ..⟩

end Shell

/-! ## The reports of a loop -/

/-- What the shell had to say about a line that it carried out. -/
def Execution.reportOn {σ : Type} (sh : Shell σ) (execution : Execution σ) : Option String :=
  sh.reportOn (Utf8.decodeLossy execution.line) execution.before

/-- Lines that are written one after the other are read as these lines. -/
theorem Input.endedLines_flatMap_ended {texts : List String} (h : ∀ text ∈ texts, OneLine text) :
    endedLines (texts.flatMap Shell.ended) = texts.map Utf8.encode
      ∧ openLine (texts.flatMap Shell.ended) = [] := by
  induction texts with
  | nil => exact ⟨rfl, rfl⟩
  | cons text texts ih =>
    obtain ⟨hended, hopen⟩ := ih fun later hlater => h later (List.mem_cons_of_mem _ hlater)
    have hwhole : Whole (Shell.ended text) := .inr List.getLast?_concat
    have hfree := (h text List.mem_cons_self).newline_not_mem
    have hdrop : (Utf8.encode text).dropWhile (· != newline) = [] := by
      rw [List.dropWhile_eq_nil_iff]
      intro b hb
      have hne : b ≠ newline := by
        rintro rfl
        exact hfree hb
      simpa using hne
    have hone : endedLines (Shell.ended text) = [Utf8.encode text] := by
      rw [Shell.ended, endedLines, Text.segments_append_cons, Text.segments_of_dropWhile_nil hdrop]
      rfl
    rw [List.flatMap_cons, endedLines_append hwhole, openLine_append hwhole, hone, hended]
    exact ⟨rfl, hopen⟩

namespace Shell

variable {σ : Type} {sh : Shell σ} {st : State σ}

/-- A loop that no line fails adds the reports on its lines to standard error, in their
    order. -/
theorem err_of_executions {lines : List Bytes} {breakage : Option IoError}
    (h : ∀ failure, Execution.ending breakage (sh.executions lines st) ≠ .failed failure) :
    (Execution.last st (sh.executions lines st)).err.own
      = st.err.own
        ++ ((sh.executions lines st).filterMap (Execution.reportOn sh)).flatMap ended := by
  induction lines generalizing st with
  | nil => exact (List.append_nil _).symm
  | cons line later ih =>
    rcases prompted : sh.promptUser st with ⟨_ | _, before⟩
    · rw [executions_of_unprompted line later prompted]
      exact (List.append_nil _).symm
    · rcases executed : sh.executeLine (Utf8.decodeLossy line) before
        with ⟨failure | flow, next⟩
      · -- The line fails, against the assumption.
        rw [executions_of_prompted later prompted executed] at h
        exact absurd rfl (h failure)
      · rw [executions_of_prompted later prompted executed] at h ⊢
        have hbefore : before.err = st.err := by rw [frame_of_promptUser prompted]
        have hline := (err_of_executeLine executed).1
        rw [hbefore] at hline
        -- The first report is that on this line, if there is one.
        have hfirst : ∀ rest : List (Execution σ),
            ((⟨line, before, .ok flow, next⟩ :: rest).filterMap (Execution.reportOn sh)).flatMap
                ended
              = (sh.reportOn (Utf8.decodeLossy line) before).toList.flatMap ended
                ++ (rest.filterMap (Execution.reportOn sh)).flatMap ended := by
          intro rest
          rw [List.filterMap_cons, Execution.reportOn]
          cases sh.reportOn (Utf8.decodeLossy line) before <;> simp
        rw [hfirst, ← List.append_assoc, ← hline, Execution.last]
        cases flow with
        | resume status => exact ih h
        | terminate status => exact (List.append_nil _).symm

/-- A loop that ends well has failed at no line. -/
theorem ending_of_repl_ok {input : Input} {status : Status} {final : State σ}
    (h : sh.repl input st = (.ok status, final)) (failure : Failure) :
    sh.ending input st ≠ .failed failure := by
  intro hending
  rw [repl_eq_executions, hending] at h
  cases h

/-- **One line for every command line that fails.** Let the shell have the standard builtins,
    and let neither its name nor the text of any failure hold a newline. The shell has
    something to say about a line just if the command fails inside the shell; it is one text
    without a newline that names the program, the first word and the failure. A line that can
    be carried out adds this text and a newline to standard error, or nothing, and in the first
    case the status of the command is -1, 1, 2 or 127. A loop that ends well adds one such line
    for each of its lines that failed, in their order, and nothing else. All this holds in every
    state that the shell comes to from here, since it never changes how standard output
    answers. -/
theorem reports_of_lines (hsh : sh.builtins = Builtin.standard)
    (hname : OneLine sh.config.programName) (hhost : sh.host.OneLine)
    (hdevice : st.out.device.OneLine) :
    (∀ line text, sh.reportOn line st = some text
        ↔ ∃ name args failure, Line.tokens line = name :: args
          ∧ Trouble sh name args st failure
          ∧ text = sh.config.programName ++ ": 1: " ++ name ++ ": " ++ failure.message)
      ∧ (∀ line text, sh.reportOn line st = some text → Input.newline ∉ Utf8.encode text)
      ∧ (∀ line flow final, sh.executeLine line st = (.ok flow, final) →
          (sh.reportOn line st = none → final.err.own = st.err.own)
          ∧ ∀ text, sh.reportOn line st = some text →
              final.err.own = st.err.own ++ (Utf8.encode text ++ [Input.newline])
              ∧ ∃ status ∈ ([-1, 1, 2, 127] : List Status),
                  flow = .resume status ∧ final.env.lastStatus = status)
      ∧ (∀ argv, (sh.run argv st).2.out.device = st.out.device)
      ∧ (∀ input, (sh.repl input st).2.out.device = st.out.device)
      ∧ ∀ input status final, sh.repl input st = (.ok status, final) →
          ∃ added, final.err.own = st.err.own ++ added
            ∧ Input.endedLines added
              = ((sh.executions input.lines st).filterMap (Execution.reportOn sh)).map
                  Utf8.encode
            ∧ Input.openLine added = []
            ∧ (Input.endedLines added).length
              = (sh.executions input.lines st).countP fun execution =>
                  (execution.reportOn sh).isSome := by
  refine ⟨fun line text => reportOn_eq_some_iff hsh, ?_, ?_, fun argv => out_device_of_run argv st,
    fun input => out_device_of_repl input st, ?_⟩
  · intro line text htext
    exact (oneLine_of_reportOn hsh hname hhost hdevice htext).newline_not_mem
  · intro line flow final executed
    obtain ⟨hown, hstatus⟩ := err_of_executeLine executed
    constructor
    · intro hnone
      rw [hown, hnone, Option.toList_none, List.flatMap_nil, List.append_nil]
    · intro text htext
      refine ⟨?_, hstatus text htext⟩
      rw [hown, htext, Option.toList_some, List.flatMap_singleton, ended]
  · intro input status final hrepl
    have hlast := err_of_executions (ending_of_repl_ok hrepl)
    have hfinal : final.err.own
        = (Execution.last st (sh.executions input.lines st)).err.own := by
      have hstop := congrArg (fun ended => ended.2.err.own) (repl_eq_executions sh input st)
      simp only [hrepl, (frame_of_stopAt _ _).1] at hstop
      exact hstop
    have honeLine : ∀ text ∈ (sh.executions input.lines st).filterMap (Execution.reportOn sh),
        OneLine text := by
      intro text htext
      obtain ⟨execution, hmem, hreport⟩ := List.mem_filterMap.mp htext
      have hsame := (out_device_of_executions input.lines st).1 execution hmem
      exact oneLine_of_reportOn hsh hname hhost (hsame ▸ hdevice) hreport
    obtain ⟨hended, hopen⟩ := Input.endedLines_flatMap_ended honeLine
    refine ⟨_, hfinal.trans hlast, hended, hopen, ?_⟩
    rw [hended, List.length_map, List.length_filterMap_eq_countP]

theorem reports_of_lines_two :
    Sample.shell.builtins = Builtin.standard ∧ OneLine Sample.shell.config.programName
      ∧ Sample.shell.host.OneLine ∧ Sample.state.out.device.OneLine
      ∧ ∃ status final added,
        Sample.shell.repl ⟨Utf8.encode "nope\nfalse\nexit abc\n", none⟩ Sample.state
            = (.ok status, final)
          ∧ final.err.own = Sample.state.err.own ++ added
          ∧ Input.endedLines added
            = [Utf8.encode "sh: 1: nope: not found",
              Utf8.encode "sh: 1: exit: Illegal number: abc"] := by
  have hname : OneLine Sample.shell.config.programName := by
    show '\n' ∉ "sh".toList
    decide
  have hhost : Sample.shell.host.OneLine := nofun
  have hdevice : Sample.state.out.device.OneLine := by
    intro earlier request error h
    cases request <;> cases h
  obtain ⟨-, -, -, -, -, hrepl⟩ := reports_of_lines
    (rfl : Sample.shell.builtins = Builtin.standard) hname hhost hdevice
  have hresult : (Sample.shell.repl ⟨Utf8.encode "nope\nfalse\nexit abc\n", none⟩
      Sample.state).1 = .ok 2 := by
    rw [repl_of_executions rfl]
    rfl
  obtain ⟨added, hown, hended, -, -⟩ := hrepl _ 2 _ (Prod.ext hresult rfl)
  exact ⟨rfl, hname, hhost, hdevice, 2, _, added, Prod.ext hresult rfl, hown, hended⟩

end Shell
end LineShell
