/-
  LineShell.Proofs.FullStreams

  Builtins on streams that fill up.

  `Sink.Accepts` says that a stream has room for a number of bytes and fails for good once more
  are offered. What comes through such a stream is the text that was offered, cut at the room
  that there was (`Sink.Receives`), in however many pieces it was written
  (`writeAll_of_accepts`). A command of the standard builtins writes one text to standard output
  and then at most one report to standard error (`exists_print_of_standard`). So where either
  stream fills up, the bytes of the command are those that it writes on streams without a limit,
  cut, and the main statement tells its answer from the two lengths.
-/
import LineShell.Proofs.ExitCommand

namespace LineShell

/-- The first state of the small shell, where standard output takes six bytes and standard
    error takes twelve. -/
def Sample.narrowState : State Unit :=
  { Sample.state with
    out := { device := .limited 6 (.custom .other "stdout is full") }
    err := { device := .limited 12 (.custom .other "stderr is full") } }

/-! ## Streams with room for some bytes -/

theorem Request.sizeOfAll_append (later earlier : List Request) :
    sizeOfAll (later ++ earlier) = sizeOfAll later + sizeOfAll earlier := by
  induction later with
  | nil => exact (Nat.zero_add _).symm
  | cons request later ih => rw [List.cons_append, sizeOfAll, ih, sizeOfAll, Nat.add_assoc]

namespace Sink

/-- From here on the stream answers writes as one that accepts `room` bytes in all and fails
    once more are offered. -/
def Accepts (sink : Sink) (room : Nat) (error : IoError) : Prop :=
  ∀ later bytes, sink.device.onWrite (later ++ sink.earlier) bytes
    = (Device.limited room error).onWrite later bytes

/-- What a stream with room for some bytes takes of a text: the first bytes, as many as there
    was room for. If that is not all, one write has failed, and none was tried after it. -/
structure Receives (before after : Sink) (room : Nat) (error : IoError) (text : Bytes) :
    Prop where
  own : after.own = before.own ++ text.take room
  shown : after.shown = before.shown ++ text.take room
  faults : after.faults = (if text.length ≤ room then [] else [error]) ++ before.faults
  accepts : after.Accepts (room - text.length) error

variable {sink next : Sink} {room limit : Nat} {error : IoError} {bytes : Bytes}
  {pieces : List Bytes} {answer : Except IoError Unit}

theorem onWrite_limited (limit : Nat) (error : IoError) (earlier : List Request)
    (bytes : Bytes) :
    (Device.limited limit error).onWrite earlier bytes
      = if bytes.length ≤ limit - Request.sizeOfAll earlier then none
        else some (limit - Request.sizeOfAll earlier, error) := rfl

/-- A limited stream has room for what is left of its limit, whatever was asked of it. -/
theorem accepts_limited (h : sink.device = .limited limit error) :
    sink.Accepts (limit - Request.sizeOfAll sink.earlier) error := by
  intro later bytes
  have hleft : limit - Request.sizeOfAll (later ++ sink.earlier)
      = limit - Request.sizeOfAll sink.earlier - Request.sizeOfAll later := by
    rw [Request.sizeOfAll_append]
    omega
  rw [h, onWrite_limited, onWrite_limited, hleft]

/-- A write takes its bytes from the room that there is. -/
theorem accepts_of_write (h : sink.Accepts room error) (hdevice : next.device = sink.device)
    (hearlier : next.earlier = .write bytes :: sink.earlier) :
    next.Accepts (room - bytes.length) error := by
  intro later more
  have happend : later ++ next.earlier = (later ++ [.write bytes]) ++ sink.earlier := by
    rw [hearlier, List.append_assoc, List.singleton_append]
  have hsize : Request.sizeOfAll (later ++ [.write bytes])
      = Request.sizeOfAll later + bytes.length := Request.sizeOfAll_append later _
  have hleft : room - (Request.sizeOfAll later + bytes.length)
      = room - bytes.length - Request.sizeOfAll later := by omega
  rw [hdevice, happend, h, onWrite_limited, onWrite_limited, hsize, hleft]

/-- A stream takes all of an empty text. -/
theorem receives_nil (h : sink.Accepts room error) : sink.Receives sink room error [] :=
  ⟨by simp, by simp, rfl, h⟩

/-- One write comes through as far as there is room, and fails if that is not all. -/
theorem write_of_accepts (h : sink.Accepts room error) (hw : sink.write bytes = (answer, next)) :
    answer = (if bytes.length ≤ room then .ok () else .error error)
      ∧ sink.Receives next room error bytes := by
  have hfaults := faults_of_write hw
  -- The stream answers as its room tells.
  have hanswer := h [] bytes
  rw [List.nil_append, onWrite_limited, Request.sizeOfAll, Nat.sub_zero] at hanswer
  cases writes_of_write hw with
  | nothing empty =>
    subst empty
    exact ⟨rfl, receives_nil h⟩
  | all nonempty accepted =>
    have hfit : bytes.length ≤ room := by
      rw [accepted] at hanswer
      by_cases hfit : bytes.length ≤ room
      · exact hfit
      · rw [if_neg hfit] at hanswer
        cases hanswer
    rw [if_pos hfit]
    refine ⟨rfl, ?_, ?_, ?_, accepts_of_write h rfl rfl⟩
    · rw [own_add, own_ask, List.take_of_length_le hfit]
      rfl
    · rw [shown_add, shown_ask, List.take_of_length_le hfit]
      rfl
    · rw [if_pos hfit]
      exact hfaults
  | @part count failure nonempty failed =>
    rw [failed] at hanswer
    by_cases hfit : bytes.length ≤ room
    · rw [if_pos hfit] at hanswer
      cases hanswer
    · rw [if_neg hfit] at hanswer
      cases hanswer
      rw [if_neg hfit]
      refine ⟨rfl, own_add .., shown_add .., ?_, accepts_of_write h rfl rfl⟩
      rw [if_neg hfit]
      exact hfaults

/-- So does a text in any number of pieces: where it is cut does not depend on the pieces. -/
theorem writeAll_of_accepts (h : sink.Accepts room error)
    (hw : sink.writeAll pieces = (answer, next)) :
    answer = (if pieces.flatten.length ≤ room then .ok () else .error error)
      ∧ sink.Receives next room error pieces.flatten := by
  -- On the pieces; each one leaves less room for the others.
  induction pieces generalizing sink room with
  | nil =>
    cases hw
    exact ⟨rfl, receives_nil h⟩
  | cons piece pieces ih =>
    have hall := faults_of_writeAll hw
    rcases hpiece : sink.write piece with ⟨first, middle⟩
    rw [writeAll_cons, hpiece] at hw
    obtain ⟨hfirst, hreceived⟩ := write_of_accepts h hpiece
    have hlength : (piece :: pieces).flatten.length = piece.length + pieces.flatten.length := by
      rw [List.flatten_cons, List.length_append]
    by_cases hfit : piece.length ≤ room
    · -- The piece came through, and the others are cut at what it has left.
      rw [if_pos hfit] at hfirst
      subst hfirst
      obtain ⟨hanswer, hown, hshown, hfaults, haccepts⟩ := ih hreceived.accepts hw
      have hlater : pieces.flatten.length ≤ room - piece.length
          ↔ (piece :: pieces).flatten.length ≤ room := by omega
      have htake : (piece :: pieces).flatten.take room
          = piece.take room ++ pieces.flatten.take (room - piece.length) := by
        rw [List.flatten_cons, List.take_append]
      simp only [hlater] at hanswer hfaults
      refine ⟨hanswer, ?_, ?_, ?_, ?_⟩
      · rw [hown, hreceived.own, htake, List.append_assoc]
      · rw [hshown, hreceived.shown, htake, List.append_assoc]
      · rw [hfaults, hreceived.faults, if_pos hfit, List.nil_append]
      · rw [hlength, ← Nat.sub_sub]
        exact haccepts
    · -- The piece was cut, and the pieces behind a failure are not written.
      rw [if_neg hfit] at hfirst
      subst hfirst
      cases hw
      have hover : ¬ (piece :: pieces).flatten.length ≤ room := by omega
      have hnone : room - piece.length = 0 := by omega
      have htake : (piece :: pieces).flatten.take room = piece.take room := by
        rw [List.flatten_cons, List.take_append, hnone, List.take_zero, List.append_nil]
      rw [if_neg hover]
      refine ⟨rfl, ?_, ?_, ?_, ?_⟩
      · rw [hreceived.own, htake]
      · rw [hreceived.shown, htake]
      · rw [if_neg hover]
        exact hall
      · have hsame : room - (piece :: pieces).flatten.length = room - piece.length := by omega
        rw [hsame]
        exact hreceived.accepts

end Sink

/-! ## What the builtins write -/

namespace Builtin

theorem flatten_map_encode (texts : List String) :
    (texts.map Utf8.encode).flatten = Utf8.encode (String.join texts) := by
  induction texts with
  | nil => rfl
  | cons text texts ih =>
    rw [List.map_cons, List.flatten_cons, ih, String.join_cons, Utf8.encode_append]

/-- Every command of `exit` and `env` writes some texts and is done, with a result that does not
    depend on the stream. If this is a failure, it is none that stops the shell, and the
    environment is as it was. -/
theorem exists_print_of_standard {name : String} (hname : name = "exit" ∨ name = "env")
    (env : Environment) (args : List String) :
    ∃ (texts : List String) (result : Except Failure Status) (after : Environment),
      dispatch standard env name args
          = some (Action.print env (texts.map Utf8.encode) (.done result after))
        ∧ ∀ failure, result = .error failure → failure.isFatal = false ∧ after = env := by
  -- A success asks for nothing more.
  have hsuccess : ∀ (status : Status) (after : Environment) (failure : Failure),
      (Except.ok status : Except Failure Status) = .error failure →
        failure.isFatal = false ∧ after = env := by
    intro status after failure h
    cases h
  rw [dispatch_standard]
  rcases hname with rfl | rfl
  · rw [if_pos rfl, Exit.action]
    rcases Arguments.read 1 args with refusal | (_ | (_ | ⟨text, rest⟩))
    · refine ⟨[], .error (.shell (.usage refusal.text)), env, rfl, ?_⟩
      rintro _ ⟨⟩
      exact ⟨rfl, rfl⟩
    · exact ⟨[Exit.helpText], .ok 0, env, rfl, hsuccess _ _⟩
    · exact ⟨[], .ok env.lastExternalStatus, _, rfl, hsuccess _ _⟩
    · simp only
      cases hparsed : Exit.parseStatus text with
      | ok status => exact ⟨[], .ok status, _, rfl, hsuccess _ _⟩
      | error error =>
        refine ⟨[], .error (.shell error), env, rfl, ?_⟩
        rintro _ ⟨⟩
        unfold Exit.parseStatus at hparsed
        split at hparsed <;> cases hparsed
        exact ⟨rfl, rfl⟩
  · rw [if_neg (by decide), if_pos rfl, Env.action]
    refine ⟨env.vars.flatMap fun pair => [pair.1, "=", pair.2, "\n"], .ok 0, env, ?_,
      hsuccess _ _⟩
    rw [List.map_flatMap]
    rfl

end Builtin

namespace Shell

open Builtin

variable {σ : Type} {sh : Shell σ} {name : String} {args : List String} {st st₁ : State σ}
  {room outRoom errRoom : Nat} {error outError errError : IoError}

/-! ## From the streams to the command -/

/-- What the attempt of a builtin comes to that writes some pieces and is done: its result if
    they all come through, and otherwise the failure of a write. -/
theorem attempt_of_print (st : State σ) {pieces : List Bytes}
    {result : Except Failure Status} {after : Environment}
    (hoffer : dispatch sh.builtins st.env name args
      = some (Action.print st.env pieces (.done result after))) :
    sh.attempt name args st
      = match st.out.writeAll pieces with
        | (.ok (), out) => (result, { st with env := after, out })
        | (.error error, out) => (.error (.io error), { st with out }) := by
  rw [attempt, hoffer]
  simp only [perform_eq, Action.perform_print_next]
  rcases st.out.writeAll pieces with ⟨_ | _, out⟩ <;> rfl

/-- A failure that is not fatal is reported as far as standard error takes the report. If it
    takes all of it, the failure gives the command a status; otherwise the shell cannot go on. -/
theorem run_of_failure_of_accepts {failure : Failure}
    (attempted : sh.attempt name args st = (.error failure, st₁))
    (notFatal : failure.isFatal = false) (herr : st₁.err.Accepts room error) :
    ∃ err,
      st₁.err.Receives err room error
          (Utf8.encode (reportText sh.config.programName name failure.message))
        ∧ sh.run (name :: args) st
          = if (Utf8.encode (reportText sh.config.programName name failure.message)).length
                ≤ room then
              (.ok (.resume failure.status),
                { st₁ with err }.note (sh.accepts st.env name args) failure.status)
            else (.error (.io error), { st₁ with err }) := by
  rcases written : st₁.err.writeAll (reportPieces sh.config.programName name failure.message)
    with ⟨answer, err⟩
  obtain ⟨hanswer, hreceives⟩ := Sink.writeAll_of_accepts herr written
  rw [flatten_reportPieces] at hanswer hreceives
  refine ⟨err, hreceives, ?_⟩
  by_cases hfits : (Utf8.encode
      (reportText sh.config.programName name failure.message)).length ≤ room
  · rw [if_pos hfits] at hanswer
    subst hanswer
    rw [if_pos hfits]
    exact ends_iff.mp (.reported attempted notFatal written)
  · rw [if_neg hfits] at hanswer
    subst hanswer
    rw [if_neg hfits]
    exact ends_iff.mp (.unreported attempted notFatal written)

/-- Two attempts that differ in standard output only make commands that do. -/
theorem run_with_out {result : Except Failure Status} {out out₁ : Sink}
    (attempted : sh.attempt name args st = (result, st₁))
    (attempted' : sh.attempt name args { st with out } = (result, { st₁ with out := out₁ })) :
    sh.run (name :: args) { st with out }
      = ((sh.run (name :: args) st).1,
          { (sh.run (name :: args) st).2 with out := out₁ }) := by
  rw [run_cons, run_cons, attempted, attempted']
  cases result with
  | ok status => cases haccepts : sh.accepts st.env name args <;> simp only <;> rfl
  | error failure =>
    simp only [recover_eq]
    cases failure.isFatal with
    | true => rfl
    | false =>
      rcases st₁.err.writeAll (reportPieces sh.config.programName name failure.message)
        with ⟨_ | _, err⟩
      · rfl
      · cases haccepts : sh.accepts st.env name args <;> rfl

/-! ## The answer of a builtin -/

/-- How a command is answered whose standard error has room for some bytes, and that has a
    text to write there: the text is cut at the room, and the shell cannot go on if that was
    not all of it. -/
structure AnswersWithin (sh : Shell σ) (argv : List String) (st : State σ) (room : Nat)
    (error : IoError) (flow : Flow) (env : Environment) (text : String) : Prop where
  err : st.err.Receives (sh.run argv st).2.err room error (Utf8.encode text)
  goesOn : (Utf8.encode text).length ≤ room →
    (sh.run argv st).1 = .ok flow ∧ (sh.run argv st).2.env = env
  stops : room < (Utf8.encode text).length →
    (sh.run argv st).1 = .error (.io error) ∧ (sh.run argv st).2.env = st.env
  world : (sh.run argv st).2.world = st.world
  children : (sh.run argv st).2.children = st.children

/-- A builtin that succeeds has no text for standard error. -/
theorem answersWithin_of_success {status : Status} {after : Environment} {out : Sink}
    (haccepts : sh.accepts st.env name args = true)
    (attempted : sh.attempt name args st = (.ok status, { st with env := after, out }))
    (herr : st.err.Accepts room error) :
    AnswersWithin sh (name :: args) st room error (flowAfter true after status)
      { after with lastStatus := status } "" := by
  have hrun := ends_iff.mp (.succeeds attempted)
  rw [haccepts] at hrun
  constructor <;> rw [hrun]
  · exact Sink.receives_nil herr
  · exact fun _ => ⟨rfl, rfl⟩
  · exact fun hover => absurd hover (Nat.not_lt_zero room)
  · rfl
  · rfl

/-- A builtin that fails and leaves the environment as it was is reported, as far as the
    report goes. -/
theorem answersWithin_of_failure {failure : Failure} {out : Sink}
    (haccepts : sh.accepts st.env name args = true)
    (attempted : sh.attempt name args st = (.error failure, { st with out }))
    (notFatal : failure.isFatal = false) (herr : st.err.Accepts room error) :
    AnswersWithin sh (name :: args) st room error (.resume failure.status)
      { st.env with lastStatus := failure.status }
      (reportText sh.config.programName name failure.message) := by
  obtain ⟨err, hreceives, hrun⟩ := run_of_failure_of_accepts attempted notFatal herr
  rw [haccepts] at hrun
  by_cases hfits : (Utf8.encode
      (reportText sh.config.programName name failure.message)).length ≤ room
  · rw [if_pos hfits] at hrun
    constructor <;> rw [hrun]
    · exact hreceives
    · exact fun _ => ⟨rfl, rfl⟩
    · exact fun hover => absurd hfits (Nat.not_le.mpr hover)
    · rfl
    · rfl
  · rw [if_neg hfits] at hrun
    constructor <;> rw [hrun]
    · exact hreceives
    · exact fun hfits' => absurd hfits' hfits
    · exact fun _ => ⟨rfl, rfl⟩

/-- Without a limit a builtin that succeeds writes all its texts. -/
theorem answers_of_success {texts : List String} {status : Status} {after : Environment}
    (haccepts : sh.accepts st.env name args = true)
    (hoffer : dispatch sh.builtins st.env name args
      = some (Action.print st.env (texts.map Utf8.encode) (.done (.ok status) after)))
    (hout : st.out.device.AlwaysWrites) :
    Answers sh (name :: args) st (flowAfter true after status)
      { after with lastStatus := status } (String.join texts) "" := by
  have attempted := attempt_of_print st hoffer
  rcases hw : st.out.writeAll (texts.map Utf8.encode) with ⟨answer, out⟩
  obtain ⟨rfl, -, hshown⟩ := Sink.writeAll_of_alwaysWrites hout hw
  rw [flatten_map_encode] at hshown
  rw [hw] at attempted
  have hrun := ends_iff.mp (.succeeds attempted)
  rw [haccepts] at hrun
  constructor <;> rw [hrun]
  · rfl
  · exact hshown
  · exact (List.append_nil _).symm
  · rfl
  · rfl

/-- Without a limit a builtin that fails writes all its texts and a report. -/
theorem answers_of_failure {texts : List String} {failure : Failure}
    (haccepts : sh.accepts st.env name args = true)
    (hoffer : dispatch sh.builtins st.env name args
      = some (Action.print st.env (texts.map Utf8.encode) (.done (.error failure) st.env)))
    (notFatal : failure.isFatal = false) (hout : st.out.device.AlwaysWrites)
    (herr : st.err.device.AlwaysWrites) :
    Answers sh (name :: args) st (.resume failure.status)
      { st.env with lastStatus := failure.status } (String.join texts)
      (reportText sh.config.programName name failure.message) := by
  have attempted := attempt_of_print st hoffer
  rcases hw : st.out.writeAll (texts.map Utf8.encode) with ⟨answer, out⟩
  obtain ⟨rfl, -, hshown⟩ := Sink.writeAll_of_alwaysWrites hout hw
  rw [flatten_map_encode] at hshown
  rw [hw] at attempted
  obtain ⟨err, hrun, -, hreport⟩ := run_of_failure attempted notFatal herr
  rw [haccepts] at hrun
  constructor <;> rw [hrun]
  · rfl
  · exact hshown
  · exact hreport
  · rfl
  · rfl

/-- A builtin that writes some texts and is done has one answer, which it gives on streams
    without a limit, and which it also gives, as far as standard error goes, where all the
    texts came through. -/
theorem exists_answer {texts : List String} {result : Except Failure Status}
    {after : Environment} (haccepts : sh.accepts st.env name args = true)
    (hoffer : dispatch sh.builtins st.env name args
      = some (Action.print st.env (texts.map Utf8.encode) (.done result after)))
    (hfailed : ∀ failure, result = .error failure → failure.isFatal = false ∧ after = st.env)
    (herr : st.err.Accepts room error) :
    ∃ flow env report,
      (∀ out err, out.device.AlwaysWrites → err.device.AlwaysWrites →
          Answers sh (name :: args) { st with out, err } flow env (String.join texts) report)
        ∧ ∀ out, sh.attempt name args st = (result, { st with env := after, out }) →
            AnswersWithin sh (name :: args) st room error flow env report := by
  cases result with
  | ok status =>
    refine ⟨flowAfter true after status, { after with lastStatus := status }, "", ?_, ?_⟩
    · intro out err hout herr
      exact answers_of_success haccepts hoffer hout
    · intro out attempted
      exact answersWithin_of_success haccepts attempted herr
  | error failure =>
    obtain ⟨notFatal, rfl⟩ := hfailed failure rfl
    refine ⟨.resume failure.status, { st.env with lastStatus := failure.status },
      reportText sh.config.programName name failure.message, ?_, ?_⟩
    · intro out err hout herr
      exact answers_of_failure haccepts hoffer notFatal hout herr
    · intro out attempted
      exact answersWithin_of_failure haccepts attempted notFatal herr

/-- **Builtins on streams that fill up.** Take any command of `exit` or `env`, and let there
    be room for some bytes on standard output and for some on standard error. What the command
    writes on streams without a limit arrives on standard output as far as there is room. If
    that is all of it, the command is answered as it is without this limit. Otherwise it has
    failed, and its report tells the failure of the write. The report, whichever it is, arrives
    on standard error as far as there is room, and the shell cannot go on just if that is not
    all of it. None of this depends on the pieces in which the texts are written. -/
theorem run_of_room (hsh : sh.builtins = Builtin.standard)
    (hname : name = "exit" ∨ name = "env") (args : List String)
    (hout : st.out.Accepts outRoom outError) (herr : st.err.Accepts errRoom errError) :
    ∃ flow env output report,
      (∀ out err, out.device.AlwaysWrites → err.device.AlwaysWrites →
          Answers sh (name :: args) { st with out, err } flow env output report)
        ∧ st.out.Receives (sh.run (name :: args) st).2.out outRoom outError
            (Utf8.encode output)
        ∧ ((Utf8.encode output).length ≤ outRoom →
            AnswersWithin sh (name :: args) st errRoom errError flow env report
              ∧ ∀ out, out.device.AlwaysWrites →
                  ∃ out₁, sh.run (name :: args) { st with out }
                    = ((sh.run (name :: args) st).1,
                        { (sh.run (name :: args) st).2 with out := out₁ }))
        ∧ (outRoom < (Utf8.encode output).length →
            AnswersWithin sh (name :: args) st errRoom errError (.resume 1)
              { st.env with lastStatus := 1 }
              (reportText sh.config.programName name outError.text))
        ∧ (∀ pieces : List Bytes, pieces.flatten = Utf8.encode output →
            st.out.Receives (st.out.writeAll pieces).2 outRoom outError (Utf8.encode output))
        ∧ ∀ (text : String) (pieces : List Bytes), pieces.flatten = Utf8.encode text →
            st.err.Receives (st.err.writeAll pieces).2 errRoom errError (Utf8.encode text) := by
  obtain ⟨texts, result, after, hoffer, hfailed⟩ :=
    exists_print_of_standard hname st.env args
  rw [← hsh] at hoffer
  have haccepts : sh.accepts st.env name args = true := by
    rw [accepts, hoffer]
    rfl
  obtain ⟨flow, env, report, hideal, hwithin⟩ := exists_answer haccepts hoffer hfailed herr
  have attempted := attempt_of_print st hoffer
  rcases hw : st.out.writeAll (texts.map Utf8.encode) with ⟨answer, out⟩
  obtain ⟨hanswer, hreceives⟩ := Sink.writeAll_of_accepts hout hw
  rw [flatten_map_encode] at hanswer hreceives
  have hkept : (sh.run (name :: args) st).2.out = out := by
    rw [hw] at attempted
    cases answer <;> rw [(frame_of_run attempted).1]
  refine ⟨flow, env, String.join texts, report, hideal, ?_, ?_, ?_, ?_, ?_⟩
  · rw [hkept]
    exact hreceives
  · intro hfits
    rw [if_pos hfits] at hanswer
    subst hanswer
    rw [hw] at attempted
    refine ⟨hwithin out attempted, ?_⟩
    intro free hfree
    rcases hwFree : free.writeAll (texts.map Utf8.encode) with ⟨answer, out₁⟩
    obtain ⟨rfl, -⟩ := Sink.writeAll_of_alwaysWrites hfree hwFree
    have attemptedFree := attempt_of_print { st with out := free } hoffer
    rw [hwFree] at attemptedFree
    exact ⟨out₁, run_with_out attempted attemptedFree⟩
  · intro hover
    rw [if_neg (Nat.not_le.mpr hover)] at hanswer
    subst hanswer
    rw [hw] at attempted
    exact answersWithin_of_failure haccepts attempted rfl herr
  · intro pieces hpieces
    rw [← hpieces]
    exact (Sink.writeAll_of_accepts hout rfl).2
  · intro text pieces hpieces
    rw [← hpieces]
    exact (Sink.writeAll_of_accepts herr rfl).2

theorem run_of_room_env :
    Sample.shell.builtins = Builtin.standard ∧ ("env" = "exit" ∨ "env" = "env")
      ∧ Sample.narrowState.out.Accepts 6 (.custom .other "stdout is full")
      ∧ Sample.narrowState.err.Accepts 12 (.custom .other "stderr is full")
      ∧ (Sample.shell.run ["env"] Sample.narrowState).2.out.own = Utf8.encode "PATH=/"
      ∧ (Sample.shell.run ["env"] Sample.narrowState).2.err.own = Utf8.encode "sh: 1: env: "
      ∧ (Sample.shell.run ["env"] Sample.narrowState).1
        = .error (.io (.custom .other "stderr is full")) := by
  have hout : Sample.narrowState.out.Accepts 6 (.custom .other "stdout is full") :=
    Sink.accepts_limited rfl
  have herr : Sample.narrowState.err.Accepts 12 (.custom .other "stderr is full") :=
    Sink.accepts_limited rfl
  obtain ⟨flow, env, output, report, hideal, hreceives, -, hover, -, -⟩ :=
    run_of_room (rfl : Sample.shell.builtins = Builtin.standard) (.inr rfl) [] hout herr
  -- What `env` writes is seen on streams without a limit.
  have houtput : Utf8.encode output = Utf8.encode "PATH=/bin\n" :=
    (hideal { device := .reliable } { device := .reliable } Device.alwaysWrites_reliable
      Device.alwaysWrites_reliable).out.symm
  rw [houtput] at hreceives hover
  have hwithin := hover (by decide)
  exact ⟨rfl, .inr rfl, hout, herr, hreceives.own, hwithin.err.own, (hwithin.stops (by decide)).1⟩

end Shell
end LineShell
