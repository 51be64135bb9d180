/-
  LineShell.Proofs.Trouble

  What can go wrong with a command inside the shell, and what is said about it.

  `Shell.Trouble` lists the failures of a command that are the shell's own. With a program it
  is a name that leads to no file, a flush that fails, or an order that cannot be given or is
  refused (`ProgramTrouble`); with `exit` it is arguments that are rejected or a help that
  cannot be written (`ExitTrouble`), and with `env` a write. `Shell.trouble_iff` says that
  these are the failures of an attempt which are not fatal, so there is no other.

  The second half is about the messages. Each embeds texts from elsewhere: an argument as it
  was typed, the text of a failed start, or the text of a failed write. Where none of these
  holds a newline, neither does the message (`Shell.oneLine_of_trouble`); the one newline that
  the reading of arguments adds to its text is trimmed.
-/
import LineShell.Proofs.ExitCommand
import LineShell.Proofs.ExternalCommand
import LineShell.Proofs.Rejoining

namespace LineShell

namespace Shell

open Builtin

variable {σ : Type} {sh : Shell σ} {name : String} {args : List String} {st : State σ}
  {failure : Failure}

/-! ## The failures of a program -/

/-- What can go wrong with a program inside the shell, from the state before the command. -/
inductive ProgramTrouble (sh : Shell σ) (name : String) (args : List String) (st : State σ) :
    Failure → Prop where
  /-- There is no file for the name. -/
  | unresolved
      (missing : Lookup.find (sh.host.pathExists st.world) (st.env.get? "PATH") name
        = .error .notFound) :
      ProgramTrouble sh name args st (.shell .notFound)
  /-- The flush before the start fails. -/
  | unflushed {location : Lookup.Location} {error : IoError}
      (found : Lookup.find (sh.host.pathExists st.world) (st.env.get? "PATH") name
        = .ok location)
      (flushed : st.out.flush.1 = .error error) :
      ProgramTrouble sh name args st (.io error)
  /-- The order holds NUL. -/
  | unfit {location : Lookup.Location}
      (found : Lookup.find (sh.host.pathExists st.world) (st.env.get? "PATH") name
        = .ok location)
      (flushed : st.out.flush.1 = .ok ())
      (nul : (External.launch ⟨name, location.path, args⟩ st.env).hasNul = true) :
      ProgramTrouble sh name args st (.shell (.exec External.nulError))
  /-- The machine creates no process, or cannot execute the file in it. -/
  | refused {location : Lookup.Location} {error : IoError}
      (found : Lookup.find (sh.host.pathExists st.world) (st.env.get? "PATH") name
        = .ok location)
      (flushed : st.out.flush.1 = .ok ())
      (fit : (External.launch ⟨name, location.path, args⟩ st.env).hasNul = false)
      (fate : (sh.host.start st.world
        (External.launch ⟨name, location.path, args⟩ st.env)).1.fate = .refused error) :
      ProgramTrouble sh name args st (.shell (ShellError.ofStartError error))

theorem isFatal_ofStartError (error : IoError) :
    (Failure.shell (ShellError.ofStartError error)).isFatal = false := by
  unfold ShellError.ofStartError
  split <;> rfl

/-- The trouble of a program is what its course comes to, short of a loss. -/
theorem programTrouble_iff :
    ProgramTrouble sh name args st failure
      ↔ failure.isFatal = false ∧ ∃ st₁, Course sh name args st (.error failure) st₁ := by
  constructor
  · intro h
    rcases hflush : st.out.flush with ⟨answer, out⟩
    cases h with
    | unresolved missing => exact ⟨rfl, st, .unresolved missing⟩
    | unflushed found flushed =>
      rw [hflush] at flushed
      subst flushed
      exact ⟨rfl, _, .unflushed found hflush⟩
    | unfit found flushed nul =>
      rw [hflush] at flushed
      subst flushed
      exact ⟨rfl, _, .unfit found hflush nul⟩
    | @refused location error found flushed fit fate =>
      rw [hflush] at flushed
      subst flushed
      rcases started : sh.host.start st.world
        (External.launch ⟨name, location.path, args⟩ st.env) with ⟨report, world⟩
      have hcourse := Course.ordered found hflush fit started
      have hfate : report.fate = .refused error := by
        rw [started] at fate
        exact fate
      rw [hfate] at hcourse
      exact ⟨isFatal_ofStartError error, _, hcourse⟩
  · rintro ⟨notFatal, st₁, hcourse⟩
    generalize hresult : (Except.error failure : Except Failure Status) = result at hcourse
    cases hcourse with
    | unresolved missing =>
      cases hresult
      exact .unresolved missing
    | unflushed found flushed =>
      cases hresult
      exact .unflushed found (congrArg Prod.fst flushed)
    | unfit found flushed nul =>
      cases hresult
      exact .unfit found (congrArg Prod.fst flushed) nul
    | @ordered location out report world found flushed fit started =>
      -- Of the fates of a process only a refusal is trouble: a loss is fatal.
      cases hfate : report.fate with
      | refused error =>
        rw [hfate] at hresult
        cases hresult
        refine .refused found (congrArg Prod.fst flushed) fit ?_
        rw [started]
        exact hfate
      | lost error =>
        rw [hfate] at hresult
        cases hresult
        cases notFatal
      | ended word =>
        rw [hfate] at hresult
        cases hresult

/-! ## The failures of a builtin -/

/-- What can go wrong with `exit`, by its arguments and the stream. -/
inductive ExitTrouble (args : List String) (out : Sink) : Failure → Prop where
  /-- The arguments are refused. -/
  | rejected {refusal : Arguments.Refusal}
      (reading : Arguments.read 1 args = .error refusal) :
      ExitTrouble args out (.shell (.usage refusal.text))
  /-- The operand is no number. -/
  | notNumber {text : String} {rest : List String}
      (reading : Arguments.read 1 args = .ok (.operands (text :: rest)))
      (notNumber : Exit.isNumber text = false) :
      ExitTrouble args out (.shell (.illegalNumber text))
  /-- The help cannot be written. -/
  | unwritten {error : IoError} (reading : Arguments.read 1 args = .ok .help)
      (written : (out.writeAll [Utf8.encode Exit.helpText]).1 = .error error) :
      ExitTrouble args out (.io error)

/-- It is what the action of `exit` comes to where it fails. -/
theorem exitTrouble_iff {env : Environment} {out : Sink} :
    ExitTrouble args out failure
      ↔ ((Exit.action env args).perform out).result = .error failure := by
  rw [Exit.perform_action]
  constructor
  · intro h
    cases h with
    | rejected reading => rw [reading]
    | notNumber reading notNumber =>
      rw [reading]
      simp only
      rw [Exit.parseStatus_eq, if_neg (by rw [notNumber]; exact Bool.false_ne_true)]
    | unwritten reading written =>
      rw [reading]
      rcases hw : out.writeAll [Utf8.encode Exit.helpText] with ⟨answer, later⟩
      rw [hw] at written
      subst written
      rfl
  · intro h
    rcases reading : Arguments.read 1 args with refusal | (_ | (_ | ⟨text, rest⟩)) <;>
      rw [reading] at h
    · cases h
      exact .rejected reading
    · rcases hw : out.writeAll [Utf8.encode Exit.helpText] with ⟨error | _, later⟩ <;>
        rw [hw] at h <;> cases h
      exact .unwritten reading (congrArg Prod.fst hw)
    · cases h
    · simp only at h
      rw [Exit.parseStatus_eq] at h
      cases hnumber : Exit.isNumber text with
      | true =>
        rw [if_pos hnumber] at h
        cases h
      | false =>
        rw [if_neg (by rw [hnumber]; exact Bool.false_ne_true)] at h
        cases h
        exact .notNumber reading hnumber

/-- What can go wrong with `env` is a write, and its action comes to this where it fails. -/
theorem envTrouble_iff {env : Environment} {out : Sink} :
    ((Env.action env args).perform out).result = .error failure
      ↔ ∃ error, failure = .io error
        ∧ (out.writeAll (env.vars.flatMap Env.pieces)).1 = .error error := by
  rw [Env.perform_action]
  rcases out.writeAll (env.vars.flatMap Env.pieces) with ⟨error | _, later⟩
  · constructor
    · intro h
      cases h
      exact ⟨error, rfl, rfl⟩
    · rintro ⟨_, rfl, h⟩
      cases h
      rfl
  · constructor
    · intro h
      cases h
    · rintro ⟨_, -, h⟩
      cases h

/-! ## The failures of the shell itself -/

/-- The failures of a command inside the shell, from the state before it: those of a program,
    those of `exit`, and a failed write of the variables. -/
inductive Trouble (sh : Shell σ) (name : String) (args : List String) (st : State σ) :
    Failure → Prop where
  | program {failure : Failure} (isProgram : ¬ (name = "exit" ∨ name = "env"))
      (trouble : ProgramTrouble sh name args st failure) : Trouble sh name args st failure
  | exit {failure : Failure} (isExit : name = "exit")
      (trouble : ExitTrouble args st.out failure) : Trouble sh name args st failure
  | env {error : IoError} (isEnv : name = "env")
      (written : (st.out.writeAll (st.env.vars.flatMap Env.pieces)).1 = .error error) :
      Trouble sh name args st (.io error)

/-- They are the failures of the attempt that are not fatal, and no others. -/
theorem trouble_iff (hsh : sh.builtins = Builtin.standard) :
    Trouble sh name args st failure
      ↔ failure.isFatal = false ∧ ∃ st₁, sh.attempt name args st = (.error failure, st₁) := by
  constructor
  · intro h
    cases h with
    | program isProgram trouble =>
      obtain ⟨notFatal, st₁, hcourse⟩ := programTrouble_iff.mp trouble
      rw [not_or] at isProgram
      rw [attempt_program hsh isProgram.1 isProgram.2]
      exact ⟨notFatal, st₁, course_iff.mp hcourse⟩
    | exit isExit trouble =>
      have hfailed : ((Exit.action st.env args).perform st.out).result = .error failure :=
        exitTrouble_iff.mp trouble
      rw [isExit, attempt_exit hsh, perform_eq]
      exact ⟨Exit.isFatal_of_perform hfailed, _, Prod.ext hfailed rfl⟩
    | @env error isEnv written =>
      have hfailed : ((Env.action st.env args).perform st.out).result = .error (.io error) :=
        envTrouble_iff.mpr ⟨error, rfl, written⟩
      rw [isEnv, attempt_env hsh, perform_eq]
      exact ⟨rfl, _, Prod.ext hfailed rfl⟩
  · rintro ⟨notFatal, st₁, attempted⟩
    by_cases hexit : name = "exit"
    · rw [hexit, attempt_exit hsh, perform_eq] at attempted
      exact .exit hexit (exitTrouble_iff.mpr (congrArg Prod.fst attempted))
    by_cases henv : name = "env"
    · rw [henv, attempt_env hsh, perform_eq] at attempted
      obtain ⟨error, rfl, written⟩ := envTrouble_iff.mp (congrArg Prod.fst attempted)
      exact .env henv written
    rw [attempt_program hsh hexit henv] at attempted
    exact .program (not_or.mpr ⟨hexit, henv⟩)
      (programTrouble_iff.mpr ⟨notFatal, st₁, course_iff.mpr attempted⟩)

/-- The status of a failed command is one of four, and none of them is zero. -/
theorem status_of_failure (failure : Failure) :
    failure.status ∈ ([-1, 1, 2, 127] : List Status) := by
  have hnamed : ([-1, 1, 2, 127] : List Status)
      = [Status.noProcess, Status.failure, Status.usage, Status.notFound] := rfl
  rw [hnamed]
  cases failure with
  | shell error => cases error <;> simp [Failure.status, ShellError.status]
  | _ => simp [Failure.status]

end Shell

/-! ## Texts of one line -/

/-- Whether a text holds no newline. -/
def OneLine (text : String) : Prop := '\n' ∉ text.toList

namespace OneLine

variable {s t : String}

theorem append (hs : OneLine s) (ht : OneLine t) : OneLine (s ++ t) := by
  intro h
  rw [String.toList_append] at h
  rcases List.mem_append.mp h with h | h
  · exact hs h
  · exact ht h

theorem trimEnd (h : OneLine s) : OneLine (Text.trimEnd s) := by
  intro hmem
  rw [Text.trimEnd, String.toList_ofList, List.mem_reverse] at hmem
  have hmem' := (List.dropWhile_suffix Text.isBlank).mem hmem
  rw [List.mem_reverse] at hmem'
  exact h hmem'

/-- The bytes of a text of one line hold no newline either. -/
theorem newline_not_mem (h : OneLine s) : Input.newline ∉ Utf8.encode s := by
  intro hmem
  have hchar := (Utf8.mem_decodeChars_iff (by decide)).mpr hmem
  rw [Utf8.decodeChars_encode] at hchar
  exact h hchar

end OneLine

/-- A word of a line is a text of one line. -/
theorem Line.oneLine_of_mem_tokens {line word : String} (h : word ∈ tokens line) :
    OneLine word := by
  intro hnewline
  have hmem : word.toList ∈ Text.fields isDelimiter line.toList := by
    rw [← map_toList_tokens]
    exact List.mem_map_of_mem h
  have hfree := (Text.divides_fields isDelimiter line.toList).free word.toList hmem '\n' hnewline
  exact absurd hfree (by decide)

/-- Whether the failures of a stream have texts of one line. -/
def Device.OneLine (device : Device) : Prop :=
  ∀ earlier request error, device.fault? earlier request = some error → LineShell.OneLine error.text

/-- Whether the failures to start a program have texts of one line. -/
def Host.OneLine {σ : Type} (host : Host σ) : Prop :=
  ∀ world launch error, (host.start world launch).1.fate = .refused error →
    LineShell.OneLine error.text

namespace Sink

variable {sink next : Sink} {error : IoError}

theorem oneLine_of_write {bytes : Bytes} (hdevice : sink.device.OneLine)
    (h : sink.write bytes = (.error error, next)) : OneLine error.text := by
  cases writes_of_write h with
  | part nonempty failed =>
    apply hdevice sink.earlier (.write bytes)
    rw [Device.fault?, failed]
    rfl

theorem oneLine_of_writeAll {pieces : List Bytes} (hdevice : sink.device.OneLine)
    (h : (sink.writeAll pieces).1 = .error error) : OneLine error.text := by
  induction pieces generalizing sink with
  | nil => cases h
  | cons piece pieces ih =>
    rw [writeAll_cons] at h
    rcases hw : sink.write piece with ⟨_ | _, middle⟩ <;> rw [hw] at h
    · cases h
      exact oneLine_of_write hdevice hw
    · rw [← device_of_write hw] at hdevice
      exact ih hdevice h

theorem oneLine_of_flush (hdevice : sink.device.OneLine) (h : sink.flush.1 = .error error) :
    OneLine error.text := by
  have hfault := (ask_of_flush (Prod.ext h rfl)).2
  apply hdevice sink.earlier .flush
  exact Option.toList_eq_singleton_iff.mp hfault.symm

end Sink

/-! ## Messages of one line -/

namespace Arguments

variable {limit : Nat} {args : List String}

/-- The text of a refusal without its newline is of one line, if the argument that it names
    is. -/
theorem Refusal.oneLine {refusal : Refusal} (h : ∀ arg ∈ refusal.arg?, OneLine arg) :
    OneLine (Text.trimEnd refusal.text) := by
  cases refusal with
  | unrecognized arg =>
    have hlead : OneLine "Unrecognized argument: " := by
      unfold OneLine
      decide
    have htext : Text.trimEnd (Refusal.unrecognized arg).text
        = Text.trimEnd ("Unrecognized argument: " ++ arg) := Text.trimEnd_append_newline _
    rw [htext]
    exact (hlead.append (h arg rfl)).trimEnd
  | afterHelp =>
    have htext : OneLine "Trailing arguments are not allowed after `help`." := by
      unfold OneLine
      decide
    exact htext.trimEnd

theorem mem_of_mem_positionals {arg : String} (h : arg ∈ positionals args) : arg ∈ args := by
  rw [positionals, leading, trailing] at h
  rcases List.mem_append.mp h with h | h
  · exact (List.takeWhile_prefix _).mem (List.mem_filter.mp h).1
  · exact (List.dropWhile_suffix _).mem (List.mem_of_mem_tail h)

/-- What the reading of arguments names is one of them: the argument that it refuses, and the
    operands. -/
theorem named_of_read :
    (∀ refusal, read limit args = .error refusal → ∀ arg ∈ refusal.arg?, arg ∈ args)
      ∧ ∀ values, read limit args = .ok (.operands values) → ∀ arg ∈ values, arg ∈ args := by
  by_cases hrefused : hasOption args = true ∨ limit < (positionals args).length
  · obtain ⟨refusal, hread, hnamed⟩ := read_of_refused hrefused
    rw [hread]
    constructor
    · rintro _ ⟨⟩
      exact hnamed
    · exact nofun
  · rw [not_or, Bool.not_eq_true, Nat.not_lt] at hrefused
    have hread := read_of_accepted hrefused.1 hrefused.2
    rw [hread]
    constructor
    · exact nofun
    · intro values hvalues arg harg
      cases hasks : asksHelp args with
      | true =>
        rw [hasks] at hvalues
        cases hvalues
      | false =>
        rw [hasks] at hvalues
        cases hvalues
        exact mem_of_mem_positionals harg

end Arguments

namespace ShellError

variable {error : IoError}

theorem oneLine_exec (h : OneLine error.text) : OneLine (exec error).message := by
  show OneLine (execReason error)
  unfold execReason
  split
  · show '\n' ∉ "not found".toList
    decide
  · show '\n' ∉ "Permission denied".toList
    decide
  · exact h

theorem oneLine_ofStartError (h : OneLine error.text) : OneLine (ofStartError error).message := by
  have hspawn : OneLine (spawn error).message := by
    have hlead : OneLine "cannot spawn process: " := by
      unfold OneLine
      decide
    exact hlead.append h
  unfold ofStartError
  split
  · exact hspawn
  · exact hspawn
  · exact oneLine_exec h

end ShellError

namespace Shell

variable {σ : Type} {sh : Shell σ} {name : String} {args : List String} {st : State σ}
  {failure : Failure}

theorem oneLine_of_programTrouble (hhost : sh.host.OneLine) (hdevice : st.out.device.OneLine)
    (h : ProgramTrouble sh name args st failure) : OneLine failure.message := by
  cases h with
  | unresolved missing =>
    show '\n' ∉ "not found".toList
    decide
  | unflushed found flushed => exact Sink.oneLine_of_flush hdevice flushed
  | unfit found flushed nul =>
    have hnul : OneLine External.nulError.text := by
      show '\n' ∉ "nul byte found in provided data".toList
      decide
    exact ShellError.oneLine_exec hnul
  | @refused location error found flushed fit fate =>
    have herror : OneLine error.text := hhost _ _ _ fate
    exact ShellError.oneLine_ofStartError herror

theorem oneLine_of_exitTrouble {out : Sink} (hdevice : out.device.OneLine)
    (hargs : ∀ arg ∈ args, OneLine arg) (h : ExitTrouble args out failure) :
    OneLine failure.message := by
  cases h with
  | rejected reading =>
    apply Arguments.Refusal.oneLine
    intro arg harg
    exact hargs arg (Arguments.named_of_read.1 _ reading arg harg)
  | @notNumber text rest reading notNumber =>
    have hlead : OneLine "Illegal number: " := by
      unfold OneLine
      decide
    have htext : OneLine text :=
      hargs text (Arguments.named_of_read.2 _ reading text List.mem_cons_self)
    exact hlead.append htext
  | unwritten reading written => exact Sink.oneLine_of_writeAll hdevice written

/-- The message about a command that fails inside the shell is of one line, if its arguments
    are, and the texts of failures that come from elsewhere. -/
theorem oneLine_of_trouble (hhost : sh.host.OneLine) (hdevice : st.out.device.OneLine)
    (hargs : ∀ arg ∈ args, OneLine arg) (h : Trouble sh name args st failure) :
    OneLine failure.message := by
  cases h with
  | program isProgram trouble => exact oneLine_of_programTrouble hhost hdevice trouble
  | exit isExit trouble => exact oneLine_of_exitTrouble hdevice hargs trouble
  | env isEnv written => exact Sink.oneLine_of_writeAll hdevice written

end Shell
end LineShell
