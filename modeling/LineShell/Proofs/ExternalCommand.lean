/-
  LineShell.Proofs.ExternalCommand

  A command that is a program, from its name to its status.

  `Shell.Course` lists the four ways in which such a command can go before anything is made
  of its result: no file is found, what the shell has written cannot be flushed, the order
  holds NUL, or the order is given to the machine. `Shell.course_iff` says that these rules
  describe `Shell.runExternal`. The main statement puts them together with the four ways in
  which a command ends. It tells when no process is ordered, what is ordered otherwise, and
  which status the command gets.

  A variable counts here as a program would receive it: of several pairs with its key the
  last one does. A pair that stands before it in the list may hold NUL and stops nothing.
-/
import LineShell.Proofs.ChildBlock
import LineShell.Proofs.Command
import LineShell.Proofs.Resolution

namespace LineShell

/-! ## What processes write -/

namespace Chunk

/-- The bytes of a chunk that a process wrote. -/
def byProcess : Chunk → Bytes
  | .own _ => []
  | .foreign bytes => bytes

end Chunk

namespace Sink

variable {sink next : Sink} {bytes : Bytes} {pieces : List Bytes} {answer : Except IoError Unit}

/-- The bytes that came from processes which the shell started. -/
def foreign (sink : Sink) : Bytes := sink.chunks.reverse.flatMap Chunk.byProcess

@[simp] theorem foreign_add (sink : Sink) (chunk : Chunk) :
    (sink.add chunk).foreign = sink.foreign ++ chunk.byProcess := by
  simp [foreign, add]

@[simp] theorem foreign_ask (sink : Sink) (request : Request) :
    (sink.ask request).foreign = sink.foreign := rfl

theorem foreign_receive (sink : Sink) (bytes : Bytes) :
    (sink.receive bytes).foreign = sink.foreign ++ bytes :=
  foreign_add sink (.foreign bytes)

theorem foreign_of_write (h : sink.write bytes = (answer, next)) :
    next.foreign = sink.foreign := by
  cases writes_of_write h with
  | nothing empty => rfl
  | all nonempty accepted =>
    rw [foreign_add, foreign_ask]
    exact List.append_nil _
  | part nonempty failed =>
    rw [foreign_add, foreign_ask]
    exact List.append_nil _

theorem foreign_of_writeAll (h : sink.writeAll pieces = (answer, next)) :
    next.foreign = sink.foreign :=
  writeAll_preserves (fun later => later.foreign = sink.foreign)
    (fun hw hsame => (foreign_of_write hw).trans hsame) h rfl

theorem foreign_of_flush (h : sink.flush = (answer, next)) : next.foreign = sink.foreign := by
  rw [(ask_of_flush h).1, foreign_ask]

end Sink

/-! ## NUL in an order -/

/-- Whether a text holds the character NUL. -/
def HoldsNul (text : String) : Prop := '\x00' ∈ text.toList

instance (text : String) : Decidable (HoldsNul text) :=
  inferInstanceAs (Decidable ('\x00' ∈ text.toList))

/-- Whether NUL stands in one of the words of a command, or in a variable as a program
    would receive it. -/
def NulAhead (words : List String) (vars : List (String × String)) : Prop :=
  (∃ word ∈ words, HoldsNul word)
    ∨ ∃ key value, vars.reverse.lookup key = some value ∧ (HoldsNul key ∨ HoldsNul value)

theorem Block.holdsNul_ofVars {vars : List (String × String)} :
    ((Block.ofVars vars).any fun (key, value) => key.contains 0 || value.contains 0) = true
      ↔ ∃ key value, vars.reverse.lookup key = some value ∧ (HoldsNul key ∨ HoldsNul value) := by
  rw [List.any_eq_true]
  constructor
  · rintro ⟨⟨key, value⟩, hmem, hzero⟩
    obtain ⟨k, v, hlast, rfl, rfl⟩ := Block.mem_ofVars.mp hmem
    simp only [Bool.or_eq_true, List.contains_iff_mem, Utf8.zero_mem_encode] at hzero
    exact ⟨k, v, hlast, hzero⟩
  · rintro ⟨k, v, hlast, hnul⟩
    refine ⟨_, Block.mem_ofVars.mpr ⟨k, v, hlast, rfl, rfl⟩, ?_⟩
    simp only [Bool.or_eq_true, List.contains_iff_mem, Utf8.zero_mem_encode]
    exact hnul

/-- An order holds NUL in the path of its file or in what the program receives. -/
theorem External.hasNul_launch (command : External) (env : Environment) :
    (command.launch env).hasNul = true
      ↔ HoldsNul command.program ∨ NulAhead (command.name :: command.args) env.vars := by
  rw [Launch.hasNul, Bool.or_eq_true, External.launch, Block.holdsNul_ofVars, NulAhead,
    List.any_cons, Bool.or_eq_true, List.any_eq_true, or_assoc]
  simp only [List.contains_iff_mem, HoldsNul]

/-! ## What a failed start means -/

/-- What the fate of a process makes of the status of its command. A process that was lost
    gives none. -/
def Fate.Gives : Fate → Status → Prop
  | refused error, status =>
    status = if error.kind = .wouldBlock ∨ error.kind = .outOfMemory then Status.noProcess
      else Status.notFound
  | lost _, _ => False
  | ended word, status => status = (ProcessEnd.ofWord word).status

theorem ShellError.status_ofStartError (error : IoError) :
    (ofStartError error).status
      = if error.kind = .wouldBlock ∨ error.kind = .outOfMemory then Status.noProcess
        else Status.notFound := by
  unfold ofStartError
  cases error.kind <;> rfl

namespace Shell

variable {σ : Type} {sh : Shell σ} {name : String} {args : List String} {st st₁ final : State σ}

/-! ## The four courses -/

/-- How a command goes that no builtin accepts, up to the point where its failure would be
    reported: the result and the state that it comes to. -/
inductive Course (sh : Shell σ) (name : String) (args : List String) (st : State σ) :
    Except Failure Status → State σ → Prop where
  /-- There is no file for the name. -/
  | unresolved
      (missing : Lookup.find (sh.host.pathExists st.world) (st.env.get? "PATH") name
        = .error .notFound) :
      Course sh name args st (.error (.shell .notFound)) st
  /-- What the shell has written cannot be passed on. -/
  | unflushed {location : Lookup.Location} {error : IoError} {out : Sink}
      (found : Lookup.find (sh.host.pathExists st.world) (st.env.get? "PATH") name
        = .ok location)
      (flushed : st.out.flush = (.error error, out)) :
      Course sh name args st (.error (.io error)) { st with out }
  /-- The order holds NUL. -/
  | unfit {location : Lookup.Location} {out : Sink}
      (found : Lookup.find (sh.host.pathExists st.world) (st.env.get? "PATH") name
        = .ok location)
      (flushed : st.out.flush = (.ok (), out))
      (nul : (External.launch ⟨name, location.path, args⟩ st.env).hasNul = true) :
      Course sh name args st (.error (.shell (.exec External.nulError))) { st with out }
  /-- The order is given to the machine. -/
  | ordered {location : Lookup.Location} {out : Sink} {report : Report} {world : σ}
      (found : Lookup.find (sh.host.pathExists st.world) (st.env.get? "PATH") name
        = .ok location)
      (flushed : st.out.flush = (.ok (), out))
      (fit : (External.launch ⟨name, location.path, args⟩ st.env).hasNul = false)
      (started : sh.host.start st.world (External.launch ⟨name, location.path, args⟩ st.env)
        = (report, world)) :
      Course sh name args st (report.fate.result.mapError .shell)
        ({ st with out }.started
          ⟨External.launch ⟨name, location.path, args⟩ st.env, report⟩ world)

/-- The four rules describe the search, start and end of a program. -/
theorem course_iff {result : Except Failure Status} :
    Course sh name args st result final ↔ sh.runExternal name args st = (result, final) := by
  rw [runExternal]
  constructor
  · intro h
    cases h with
    | unresolved missing => rw [missing]
    | unflushed found flushed =>
      rw [found]
      simp only [State.flush]
      rw [flushed]
    | unfit found flushed nul =>
      rw [found]
      simp only [State.flush]
      rw [flushed]
      simp only
      rw [execute_eq, if_pos nul]
    | @ordered location out report world found flushed fit started =>
      rw [found]
      simp only [State.flush]
      rw [flushed]
      simp only
      rw [execute_eq, if_neg (by rw [fit]; exact Bool.false_ne_true), started]
      simp only
      cases report.fate.result <;> rfl
  · intro h
    -- The rule is found by the search, then by the flush, and then by the order.
    rcases found : Lookup.find (sh.host.pathExists st.world) (st.env.get? "PATH") name
      with error | location
    · rw [notFound_of_find found] at found
      rw [found] at h
      cases h
      exact .unresolved found
    · rw [found] at h
      simp only [State.flush] at h
      rcases flushed : st.out.flush with ⟨error | _, out⟩ <;> rw [flushed] at h
      · cases h
        exact .unflushed found flushed
      · simp only at h
        rw [execute_eq] at h
        cases fit : (External.launch ⟨name, location.path, args⟩ st.env).hasNul with
        | true =>
          rw [if_pos fit] at h
          cases h
          exact .unfit found flushed fit
        | false =>
          rw [if_neg (by rw [fit]; exact Bool.false_ne_true)] at h
          rcases started : sh.host.start st.world
            (External.launch ⟨name, location.path, args⟩ st.env) with ⟨report, world⟩
          rw [started] at h
          simp only at h
          have hcourse : Course sh name args st (report.fate.result.mapError .shell)
              ({ st with out }.started
                ⟨External.launch ⟨name, location.path, args⟩ st.env, report⟩ world) :=
            .ordered found flushed fit started
          rcases hresult : report.fate.result with error | status <;>
            rw [hresult] at h hcourse <;> cases h <;> exact hcourse

/-- A command that no builtin accepts is a program. -/
theorem attempt_of_declined (h : sh.accepts st.env name args = false) :
    sh.attempt name args st = sh.runExternal name args st := by
  rw [attempt]
  rw [accepts, Option.isSome_eq_false_iff, Option.isNone_iff_eq_none] at h
  rw [h]

/-! ## What comes of the command -/

/-- What keeps a command from starting a process: there is no file for its name, or the
    flush behind the search fails, or there is NUL in a word or a variable. -/
def Prevented (sh : Shell σ) (name : String) (args : List String) (st : State σ) : Prop :=
  (∃ error, Lookup.find (sh.host.pathExists st.world) (st.env.get? "PATH") name
      = .error error)
    ∨ (∃ location error,
      Lookup.find (sh.host.pathExists st.world) (st.env.get? "PATH") name = .ok location
        ∧ st.out.flush.1 = .error error)
    ∨ NulAhead (name :: args) st.env.vars

/-- Two states between which no process was started and none has written anything. -/
structure NoProcess (before after : State σ) : Prop where
  children : after.children = before.children
  world : after.world = before.world
  out : after.out.foreign = before.out.foreign
  err : after.err.foreign = before.err.foreign

/-- Two states between which one order was given to the machine: what was ordered, what the
    machine made of it, and what the process wrote. -/
structure OneProcess (host : Host σ) (launch : Launch) (report : Report)
    (before after : State σ) : Prop where
  started : host.start before.world launch = (report, after.world)
  children : after.children = before.children ++ [⟨launch, report⟩]
  out : after.out.foreign = before.out.foreign ++ report.out
  err : after.err.foreign = before.err.foreign ++ report.err

section
variable (hpaths : ∀ path, HoldsNul path → sh.host.pathExists st.world path = false)
include hpaths

/-- A file that was found has no NUL in its path, so NUL is in the order just if it is in a
    word or a variable. -/
theorem hasNul_of_found {location : Lookup.Location}
    (found : Lookup.find (sh.host.pathExists st.world) (st.env.get? "PATH") name
      = .ok location) :
    (External.launch ⟨name, location.path, args⟩ st.env).hasNul = true
      ↔ NulAhead (name :: args) st.env.vars := by
  rw [External.hasNul_launch]
  refine or_iff_right ?_
  intro hnul
  have hmissing := hpaths location.path hnul
  rw [Lookup.exists_of_find found] at hmissing
  cases hmissing

/-- A program is kept from starting, or its order is given to the machine. -/
theorem processes_of_course {result : Except Failure Status}
    (h : Course sh name args st result final) :
    (Prevented sh name args st ∧ NoProcess st final)
      ∨ ¬ Prevented sh name args st
        ∧ ∃ location report,
          Lookup.find (sh.host.pathExists st.world) (st.env.get? "PATH") name = .ok location
            ∧ OneProcess sh.host (External.launch ⟨name, location.path, args⟩ st.env) report
              st final
            ∧ result = report.fate.result.mapError .shell := by
  -- Only the last of the four courses gives the order to the machine.
  cases h with
  | unresolved missing => exact .inl ⟨.inl ⟨_, missing⟩, ⟨rfl, rfl, rfl, rfl⟩⟩
  | unflushed found flushed =>
    refine .inl ⟨.inr (.inl ⟨_, _, found, by rw [flushed]⟩), ⟨rfl, rfl, ?_, rfl⟩⟩
    exact Sink.foreign_of_flush flushed
  | unfit found flushed nul =>
    refine .inl ⟨.inr (.inr ((hasNul_of_found hpaths found).mp nul)), ⟨rfl, rfl, ?_, rfl⟩⟩
    exact Sink.foreign_of_flush flushed
  | @ordered location out report world found flushed fit started =>
    refine .inr ⟨?_, location, report, found, ⟨started, rfl, ?_, ?_⟩, rfl⟩
    · rintro (⟨error, hmissing⟩ | ⟨_, error, -, hflush⟩ | hnul)
      · rw [found] at hmissing
        cases hmissing
      · rw [flushed] at hflush
        cases hflush
      · rw [(hasNul_of_found hpaths found).mpr hnul] at fit
        cases fit
    · rw [State.started, Sink.foreign_receive, Sink.foreign_of_flush flushed]
    · exact Sink.foreign_receive st.err report.err

end

/-- A command writes nothing to standard error after its attempt that came from a process. -/
theorem foreign_err_of_run {result : Except Failure Status}
    (attempted : sh.attempt name args st = (result, st₁)) :
    (sh.run (name :: args) st).2.err.foreign = st₁.err.foreign := by
  rw [run_cons, attempted]
  cases result with
  | ok status => simp
  | error failure =>
    simp only
    rw [recover_eq]
    cases failure.isFatal with
    | true => simp
    | false =>
      rcases written : st₁.err.writeAll
        (reportPieces sh.config.programName name failure.message) with ⟨_ | _, err⟩
      · exact Sink.foreign_of_writeAll written
      · simp only [if_false, Bool.false_eq_true, State.err_note]
        exact Sink.foreign_of_writeAll written

/-- What a command leaves of the processes is what its attempt leaves. -/
theorem noProcess_of_run {result : Except Failure Status}
    (attempted : sh.attempt name args st = (result, st₁)) (h : NoProcess st st₁) :
    NoProcess st (sh.run (name :: args) st).2 := by
  obtain ⟨hout, -, -, hworld, hchildren⟩ := frame_of_run attempted
  exact ⟨hchildren.trans h.children, hworld.trans h.world, (congrArg _ hout).trans h.out,
    (foreign_err_of_run attempted).trans h.err⟩

theorem oneProcess_of_run {result : Except Failure Status} {launch : Launch} {report : Report}
    (attempted : sh.attempt name args st = (result, st₁))
    (h : OneProcess sh.host launch report st st₁) :
    OneProcess sh.host launch report st (sh.run (name :: args) st).2 := by
  obtain ⟨hout, -, -, hworld, hchildren⟩ := frame_of_run attempted
  exact ⟨hworld ▸ h.started, hchildren.trans h.children, (congrArg _ hout).trans h.out,
    (foreign_err_of_run attempted).trans h.err⟩

/-! ## The status -/

/-- The status that a program gives its command, from the state before the command and the
    state after it. -/
structure StatusOfProgram (sh : Shell σ) (name : String) (args : List String)
    (st final : State σ) (status : Status) : Prop where
  unresolved :
    (∃ error, Lookup.find (sh.host.pathExists st.world) (st.env.get? "PATH") name
      = .error error) → status = 127
  unflushed : ∀ location error,
    Lookup.find (sh.host.pathExists st.world) (st.env.get? "PATH") name = .ok location →
    st.out.flush.1 = .error error → status = 1
  unfit : ∀ location,
    Lookup.find (sh.host.pathExists st.world) (st.env.get? "PATH") name = .ok location →
    st.out.flush.1 = .ok () → NulAhead (name :: args) st.env.vars → status = 127
  started : ¬ Prevented sh name args st →
    ∃ child, final.children = st.children ++ [child] ∧ child.report.fate.Gives status

/-- The status that a command gets by the result of its attempt, if this is not fatal. -/
def statusOf : Except Failure Status → Status
  | .ok status => status
  | .error failure => failure.status

/-- The fate of a process gives its command a status, unless the process was lost. -/
theorem gives_of_fate {fate : Fate} (h : ∀ error, fate ≠ .lost error) :
    fate.Gives (statusOf (fate.result.mapError .shell)) := by
  cases fate with
  | refused error => exact ShellError.status_ofStartError error
  | lost error => exact absurd rfl (h error)
  | ended word => rfl

/-- Up to a report the environment stays, and nothing is asked of standard error. -/
theorem frame_of_course {result : Except Failure Status}
    (h : Course sh name args st result final) :
    final.env = st.env ∧ final.err.faults = st.err.faults := by
  cases h <;> exact ⟨rfl, rfl⟩

/-- The status fits the course, whatever else the command goes on to do. -/
theorem status_of_course (hpaths : ∀ path, HoldsNul path → sh.host.pathExists st.world path = false)
    {result : Except Failure Status} (h : Course sh name args st result st₁)
    (hlost : ∀ error, result ≠ .error (.shell (.wait error)))
    (hchildren : final.children = st₁.children) :
    StatusOfProgram sh name args st final (statusOf result) := by
  -- The four conditions on the status exclude each other, as the four courses do. So each
  -- course meets the condition of its own, and the others ask nothing of it.
  cases h with
  | unresolved missing =>
    refine ⟨fun _ => rfl, ?_, ?_, fun h => absurd (.inl ⟨_, missing⟩) h⟩
    · intro location error found
      rw [missing] at found
      cases found
    · intro location found
      rw [missing] at found
      cases found
  | @unflushed location error out found flushed =>
    have hprevented : Prevented sh name args st := .inr (.inl ⟨_, _, found, by rw [flushed]⟩)
    refine ⟨?_, fun _ _ _ _ => rfl, ?_, fun h => absurd hprevented h⟩
    · rintro ⟨error, missing⟩
      rw [found] at missing
      cases missing
    · intro _ _ hflush
      rw [flushed] at hflush
      cases hflush
  | unfit found flushed nul =>
    have hnul := (hasNul_of_found hpaths found).mp nul
    refine ⟨?_, ?_, fun _ _ _ _ => rfl, fun h => absurd (.inr (.inr hnul)) h⟩
    · rintro ⟨error, missing⟩
      rw [found] at missing
      cases missing
    · intro _ _ _ hflush
      rw [flushed] at hflush
      cases hflush
  | @ordered location out report world found flushed fit started =>
    refine ⟨?_, ?_, ?_, fun _ => ⟨_, hchildren, gives_of_fate ?_⟩⟩
    · rintro ⟨error, missing⟩
      rw [found] at missing
      cases missing
    · intro _ _ _ hflush
      rw [flushed] at hflush
      cases hflush
    · intro _ _ _ hnul
      rw [(hasNul_of_found hpaths found).mpr hnul] at fit
      cases fit
    · intro error hfate
      have hfatal : report.fate = .lost error := hfate
      rw [hfatal] at hlost
      exact hlost error rfl

/-- A process that is lost is the last one that was ordered. -/
theorem lost_of_course {error : IoError}
    (h : Course sh name args st (.error (.shell (.wait error))) final) :
    ∃ child, final.children = st.children ++ [child] ∧ child.report.fate = .lost error := by
  generalize hresult : (Except.error (.shell (.wait error)) : Except Failure Status) = result at h
  cases h with
  | unresolved missing => cases hresult
  | unflushed found flushed => cases hresult
  | unfit found flushed nul => cases hresult
  | @ordered location out report world found flushed fit started =>
    refine ⟨_, rfl, ?_⟩
    simp only
    cases hfate : report.fate with
    | refused refusal =>
      -- What was never started is not lost.
      rw [hfate] at hresult
      have hwait : ShellError.ofStartError refusal = .wait error := by
        injection hresult with hshell
        injection hshell with herror
        exact herror.symm
      exact absurd hwait (ofStartError_ne_wait refusal error)
    | lost lost =>
      rw [hfate] at hresult
      cases hresult
      rfl
    | ended word =>
      rw [hfate] at hresult
      cases hresult

/-- Before its result counts, a command that no builtin accepts takes one of the courses. -/
theorem course_of_attempt (hdeclined : sh.accepts st.env name args = false)
    {result : Except Failure Status} (attempted : sh.attempt name args st = (result, st₁)) :
    Course sh name args st result st₁ := by
  rw [attempt_of_declined hdeclined] at attempted
  exact course_iff.mpr attempted

section
variable (hdeclined : sh.accepts st.env name args = false)
  (hpaths : ∀ path, HoldsNul path → sh.host.pathExists st.world path = false)
include hdeclined

include hpaths in
/-- A command that is a program starts no process, or it is not kept from starting one and
    starts one. -/
theorem processes_of_run :
    (Prevented sh name args st ∧ NoProcess st (sh.run (name :: args) st).2)
      ∨ ¬ Prevented sh name args st ∧ ∃ location report,
        Lookup.find (sh.host.pathExists st.world) (st.env.get? "PATH") name = .ok location
          ∧ OneProcess sh.host ⟨location.path, name :: args, Block.ofVars st.env.vars⟩ report
            st (sh.run (name :: args) st).2 := by
  rcases attempted : sh.attempt name args st with ⟨outcome, st₁⟩
  rcases processes_of_course hpaths (course_of_attempt hdeclined attempted) with
    ⟨hprevented, hnone⟩ | ⟨hfree, location, report, found, hone, -⟩
  · exact .inl ⟨hprevented, noProcess_of_run attempted hnone⟩
  · exact .inr ⟨hfree, location, report, found, oneProcess_of_run attempted hone⟩

include hpaths in
/-- If it can be carried out, it lets the shell go on and both registers take its status. -/
theorem resume_of_run {flow : Flow} (hrun : sh.run (name :: args) st = (.ok flow, final)) :
    ∃ status, flow = .resume status
      ∧ final.env = { st.env with lastStatus := status, lastExternalStatus := status }
      ∧ StatusOfProgram sh name args st final status := by
  -- The command succeeded, or its failure was reported; either way its status stands.
  cases ends_iff.mpr hrun with
  | @succeeds status st₁ attempted =>
    have hcourse := course_of_attempt hdeclined attempted
    refine ⟨status, by rw [hdeclined]; rfl, ?_, ?_⟩
    · rw [hdeclined, ← (frame_of_course hcourse).1]
      rfl
    · exact status_of_course hpaths hcourse (fun _ => nofun) (State.children_note ..)
  | @reported failure st₁ err attempted notFatal written =>
    have hcourse := course_of_attempt hdeclined attempted
    refine ⟨failure.status, rfl, ?_, ?_⟩
    · rw [hdeclined, ← (frame_of_course hcourse).1]
      rfl
    · refine status_of_course hpaths hcourse ?_ (State.children_note ..)
      intro error hlost
      cases hlost
      cases notFatal

/-- If it cannot be carried out, its process was lost or its report could not be written,
    and it leaves the environment. -/
theorem failure_of_run {failure : Failure}
    (hrun : sh.run (name :: args) st = (.error failure, final)) :
    final.env = st.env
      ∧ ((∃ error child, failure = .shell (.wait error)
            ∧ final.children = st.children ++ [child] ∧ child.report.fate = .lost error)
        ∨ ∃ error, failure = .io error ∧ final.err.faults = error :: st.err.faults) := by
  cases ends_iff.mpr hrun with
  | fatal attempted isFatal =>
    have hcourse := course_of_attempt hdeclined attempted
    obtain ⟨error, rfl⟩ := (Failure.isFatal_iff failure).mp isFatal
    obtain ⟨child, hchild, hfate⟩ := lost_of_course hcourse
    exact ⟨(frame_of_course hcourse).1, .inl ⟨error, child, rfl, hchild, hfate⟩⟩
  | @unreported _ st₁ error err attempted notFatal written =>
    obtain ⟨henv, hfaults⟩ := frame_of_course (course_of_attempt hdeclined attempted)
    refine ⟨henv, .inr ⟨error, rfl, ?_⟩⟩
    rw [← hfaults]
    exact Sink.faults_of_writeAll written

end

/-- **A command that is a program.** It starts one process at most. It starts none if there
    is no file for its name, if the flush behind the search fails, or if there is NUL in a
    word or in a variable as the program would receive it. Otherwise exactly one order is
    given to the machine: the file that was found, the words as they were typed and the map
    of the variables. A command that can be carried out lets the shell go on, sets both
    registers to its status and changes nothing else in the environment; the status tells
    how far the command came and how its process ended. It cannot be carried out only if
    its process is lost or its report cannot be written, and then it sets nothing. -/
theorem run_program (hdeclined : sh.accepts st.env name args = false)
    (hpaths : ∀ path, HoldsNul path → sh.host.pathExists st.world path = false)
    {result : Except Failure Flow} (hrun : sh.run (name :: args) st = (result, final)) :
    (∃ started : List Child, started.length ≤ 1 ∧ final.children = st.children ++ started)
      ∧ (Prevented sh name args st → NoProcess st final)
      ∧ (¬ Prevented sh name args st → ∃ location report,
          Lookup.find (sh.host.pathExists st.world) (st.env.get? "PATH") name = .ok location
            ∧ OneProcess sh.host ⟨location.path, name :: args, Block.ofVars st.env.vars⟩ report
              st final)
      ∧ (∀ flow, result = .ok flow → ∃ status, flow = .resume status
          ∧ final.env = { st.env with lastStatus := status, lastExternalStatus := status }
          ∧ StatusOfProgram sh name args st final status)
      ∧ ∀ failure, result = .error failure → final.env = st.env
          ∧ ((∃ error child, failure = .shell (.wait error)
                ∧ final.children = st.children ++ [child] ∧ child.report.fate = .lost error)
            ∨ ∃ error, failure = .io error ∧ final.err.faults = error :: st.err.faults) := by
  have hprocesses := processes_of_run hdeclined hpaths
  rw [hrun] at hprocesses
  refine ⟨?_, ?_, ?_, ?_, ?_⟩
  · rcases hprocesses with ⟨-, hnone⟩ | ⟨-, _, _, -, hone⟩
    · exact ⟨[], Nat.zero_le 1, by rw [hnone.children, List.append_nil]⟩
    · exact ⟨[_], Nat.le_refl 1, hone.children⟩
  · intro hprevented
    rcases hprocesses with ⟨-, hnone⟩ | ⟨hfree, -⟩
    · exact hnone
    · exact absurd hprevented hfree
  · intro hfree
    rcases hprocesses with ⟨hprevented, -⟩ | ⟨-, hone⟩
    · exact absurd hprevented hfree
    · exact hone
  · rintro flow rfl
    exact resume_of_run hdeclined hpaths hrun
  · rintro failure rfl
    exact failure_of_run hdeclined hrun

/-- The machine of the sample has no file with NUL in its path. -/
theorem pathExists_sample (path : String) (h : HoldsNul path) :
    Sample.shell.host.pathExists () path = false := by
  refine decide_eq_false ?_
  rintro rfl
  exact absurd h (by decide)

/-- `false` is found on the path, is started as it was typed, and gives its status 1. -/
theorem run_program_false :
    Sample.shell.accepts Sample.state.env "false" [] = false
      ∧ (∀ path, HoldsNul path → Sample.shell.host.pathExists Sample.state.world path = false)
      ∧ (Sample.shell.run ["false"] Sample.state).2.children
        = [⟨⟨"/bin/false", ["false"], [(Utf8.encode "PATH", Utf8.encode "/bin")]⟩,
            ⟨[], [], .ended 0x100⟩⟩]
      ∧ (Sample.shell.run ["false"] Sample.state).2.env.lastExternalStatus = 1 := by
  have hfound : Lookup.find (Sample.shell.host.pathExists Sample.state.world)
      (Sample.state.env.get? "PATH") "false" = .ok (.searched "/bin/false") := rfl
  have hvars : Sample.state.env.vars = [("PATH", "/bin")] := rfl
  have hfree : ¬ Prevented Sample.shell "false" [] Sample.state := by
    rintro (⟨error, hmissing⟩ | ⟨_, error, -, hflush⟩ | ⟨word, hword, hnul⟩
      | ⟨key, value, hlast, hnul⟩)
    · rw [hfound] at hmissing
      cases hmissing
    · cases hflush
    · rw [List.mem_singleton.mp hword] at hnul
      exact absurd hnul (by decide)
    · rw [hvars] at hlast
      cases List.mem_singleton.mp (mem_of_lookup hlast)
      exact absurd hnul (by decide)
  have hrun : Sample.shell.run ["false"] Sample.state
      = (.ok (.resume 1), (Sample.shell.run ["false"] Sample.state).2) := rfl
  obtain ⟨-, -, hone, hstatus, -⟩ := run_program rfl pathExists_sample hrun
  obtain ⟨location, report, found, hprocess⟩ := hone hfree
  obtain ⟨status, hflow, henv, -⟩ := hstatus (.resume 1) rfl
  rw [hfound] at found
  cases found
  cases hflow
  have hreport : ⟨[], [], .ended 0x100⟩ = report := congrArg Prod.fst hprocess.started
  refine ⟨rfl, pathExists_sample, ?_, congrArg Environment.lastExternalStatus henv⟩
  rw [hprocess.children, ← hreport]
  rfl

/-- A variable that holds NUL, but which a later pair with its key overrides, keeps no
    process from being started. -/
theorem run_program_shadowed :
    ∃ st : State Unit, (∃ pair ∈ st.env.vars, HoldsNul pair.2)
      ∧ st.env.get? "A" = some "\x00"
      ∧ Sample.shell.accepts st.env "/bin/false" [] = false
      ∧ (∀ path, HoldsNul path → Sample.shell.host.pathExists st.world path = false)
      ∧ (Sample.shell.run ["/bin/false"] st).2.children
        = st.children ++ [⟨⟨"/bin/false", ["/bin/false"], [(Utf8.encode "A", Utf8.encode "y")]⟩,
            ⟨[], [], .ended 0x100⟩⟩] := by
  refine ⟨{ Sample.state with env := { vars := [("A", "\x00"), ("A", "y")] } },
    ⟨("A", "\x00"), List.mem_cons_self, by decide⟩, rfl, rfl, pathExists_sample, rfl⟩

end Shell
end LineShell
