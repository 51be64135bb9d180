/-
  LineShell.Proofs.Rejection

  What `exit` says of an argument that it rejects.

  The reading of arguments stops at the first one that does not fit. `Arguments.Rejects` tells
  from the arguments alone which it is, where it is named: an option without a request for help
  before it, or one operand too many. It rests on what is known behind arguments that are all
  read (`Progress.foldlM_eq_ok_iff`).

  An operand that is no number is quoted as it stands. The text that names any other argument
  ends with a newline, and the newline is taken off together with all the blanks before it,
  those at the end of the argument included. So this argument is quoted in full just if it does
  not end with a blank.
-/
import LineShell.Proofs.Rejoining
import LineShell.Proofs.Trouble

namespace LineShell

namespace Arguments

variable {limit : Nat} {arg a : String} {args before after : List String}

/-! ## Where the reading stops -/

namespace Progress

variable {progress next : Progress}

/-- The options end with the first separator. -/
theorem optionsEnded_of_read (h : progress.read limit arg = .ok next) :
    next.optionsEnded = (progress.optionsEnded || arg == separator) := by
  cases hended : progress.optionsEnded with
  | true =>
    rw [read_operand (.inl hended)] at h
    split at h <;> cases h
    exact hended
  | false =>
    by_cases hsep : arg = separator
    · subst hsep
      rw [read_separator hended] at h
      cases h
      simp
    · have hother : (arg == separator) = false := by simpa using hsep
      rw [hother, Bool.false_or]
      by_cases hhelp : arg ∈ helpWords
      · rw [read_help hended hhelp] at h
        cases h
        exact hended
      · cases hoption : isOption arg with
        | true =>
          rw [read_option hended hhelp hsep hoption] at h
          cases h
        | false =>
          rw [read_operand (.inr ⟨hhelp, hoption⟩)] at h
          split at h <;> cases h
          exact hended

theorem optionsEnded_of_foldlM (h : args.foldlM (read limit) progress = .ok next) :
    next.optionsEnded = (progress.optionsEnded || args.contains separator) := by
  induction args generalizing progress with
  | nil =>
    cases h
    simp
  | cons arg args ih =>
    rcases hread : progress.read limit arg with refusal | middle
    · rw [foldlM_of_error hread] at h
      cases h
    · rw [foldlM_of_ok hread] at h
      rw [ih h, optionsEnded_of_read hread, Bool.or_assoc, List.contains_cons,
        BEq.comm (a := separator)]

/-- What is known behind arguments that are all read. -/
def behindAll (args : List String) : Progress :=
  ⟨asksHelp args, args.contains separator, positionals args⟩

/-- Which arguments are all read, and what is known then. -/
theorem foldlM_eq_ok_iff :
    args.foldlM (read limit) {} = .ok progress
      ↔ hasOption args = false ∧ (positionals args).length ≤ limit
        ∧ progress = behindAll args := by
  by_cases hrefused : hasOption args = true ∨ limit < (positionals args).length
  · obtain ⟨refusal, hfold, -⟩ :=
      foldlM_of_refused {} rfl (Nat.zero_le limit) (by simpa using hrefused)
    rw [hfold]
    constructor
    · exact nofun
    · rintro ⟨hoption, hlen, -⟩
      rcases hrefused with h | h
      · rw [hoption] at h
        cases h
      · omega
  · rw [not_or, Bool.not_eq_true, Nat.not_lt] at hrefused
    obtain ⟨hoption, hlen⟩ := hrefused
    obtain ⟨ended, hfold⟩ := foldlM_of_open {} rfl hoption (by simpa using hlen)
    have hended := optionsEnded_of_foldlM hfold
    simp only [Bool.false_or, List.nil_append] at hended hfold
    subst hended
    rw [hfold, behindAll]
    constructor
    · rintro ⟨⟩
      exact ⟨hoption, hlen, rfl⟩
    · rintro ⟨-, -, rfl⟩
      rfl

/-- Which argument is refused, and named. -/
theorem read_eq_unrecognized_iff :
    progress.read limit arg = .error (.unrecognized a)
      ↔ a = arg
        ∧ ((progress.optionsEnded = false ∧ progress.helpAsked = false ∧ isOption arg = true
              ∧ arg ∉ helpWords ∧ arg ≠ separator)
          ∨ limit ≤ progress.operands.length
              ∧ (progress.optionsEnded = true ∨ (arg ∉ helpWords ∧ isOption arg = false))) := by
  -- An operand is refused just where there is no room for it.
  have hoperand (h : progress.optionsEnded = true ∨ (arg ∉ helpWords ∧ isOption arg = false)) :
      progress.read limit arg = .error (.unrecognized a)
        ↔ a = arg ∧ limit ≤ progress.operands.length := by
    rw [read_operand h]
    by_cases hroom : progress.operands.length < limit
    · rw [if_pos hroom]
      simp [Nat.not_le.mpr hroom]
    · rw [if_neg hroom]
      simp [Nat.not_lt.mp hroom, eq_comm]
  cases hended : progress.optionsEnded with
  | true =>
    rw [hoperand (.inl hended)]
    simp
  | false =>
    by_cases hsep : arg = separator
    · subst hsep
      have hoption : isOption separator = true := by decide
      rw [read_separator hended]
      simp [hoption]
    by_cases hhelp : arg ∈ helpWords
    · rw [read_help hended hhelp]
      simp [hhelp]
    cases hoption : isOption arg with
    | true =>
      rw [read_option hended hhelp hsep hoption]
      cases progress.helpAsked <;> simp [hhelp, hsep, eq_comm]
    | false =>
      rw [hoperand (.inr ⟨hhelp, hoption⟩)]
      simp [hhelp]

end Progress

/-- The argument at which the reading stops, where it is named: an option, with nothing but
    operands before it, or an operand for which there is no room. -/
inductive Rejects (limit : Nat) (args : List String) (a : String) : Prop where
  | option {before after : List String} (split : args = before ++ a :: after)
      (read : hasOption before = false ∧ (positionals before).length ≤ limit)
      (noSeparator : separator ∉ before) (noHelp : asksHelp before = false)
      (isOption : isOption a = true) (unknown : a ∉ helpWords ∧ a ≠ separator)
  | surplus {before after : List String} (split : args = before ++ a :: after)
      (read : hasOption before = false ∧ (positionals before).length = limit)
      (isOperand : separator ∈ before ∨ (a ∉ helpWords ∧ Arguments.isOption a = false))

/-- **Rejected arguments.** The reading stops at the argument that is named, and at no
    other. -/
theorem rejects_iff : Rejects limit args a ↔ read limit args = .error (.unrecognized a) := by
  have hfold : read limit args = .error (.unrecognized a)
      ↔ args.foldlM (Progress.read limit) {} = .error (.unrecognized a) := by
    rw [read]
    cases args.foldlM (Progress.read limit) {} <;> simp [Except.map]
  rw [hfold]
  constructor
  · intro h
    cases h with
    | @option before after split read noSeparator noHelp isOption unknown =>
      have hopen : (Progress.behindAll before).optionsEnded = false := by
        simpa [Progress.behindAll] using noSeparator
      have hread := Progress.foldlM_eq_ok_iff.mpr ⟨read.1, read.2, rfl⟩
      have hstop : (Progress.behindAll before).read limit a = .error (.unrecognized a) :=
        Progress.read_eq_unrecognized_iff.mpr ⟨rfl, .inl ⟨hopen, noHelp, isOption, unknown⟩⟩
      rw [split, Progress.foldlM_append_of_error hread hstop]
    | @surplus before after split read isOperand =>
      have hoperand : (Progress.behindAll before).optionsEnded = true
          ∨ (a ∉ helpWords ∧ isOption a = false) := by
        simpa [Progress.behindAll] using isOperand
      have hread := Progress.foldlM_eq_ok_iff.mpr ⟨read.1, Nat.le_of_eq read.2, rfl⟩
      have hstop : (Progress.behindAll before).read limit a = .error (.unrecognized a) :=
        Progress.read_eq_unrecognized_iff.mpr
          ⟨rfl, .inr ⟨Nat.le_of_eq read.2.symm, hoperand⟩⟩
      rw [split, Progress.foldlM_append_of_error hread hstop]
  · -- What stands before the argument was all read, so it is known what was known there.
    intro h
    obtain ⟨before, arg, after, next, rfl, hbefore, hstop⟩ := Progress.exists_of_foldlM_error h
    obtain ⟨hoption, hlen, rfl⟩ := Progress.foldlM_eq_ok_iff.mp hbefore
    obtain ⟨rfl, ⟨hopen, hhelp, hform, hunknown⟩ | ⟨hfull, hoperand⟩⟩ :=
      Progress.read_eq_unrecognized_iff.mp hstop
    · refine .option rfl ⟨hoption, hlen⟩ ?_ hhelp hform hunknown
      simpa [Progress.behindAll] using hopen
    · refine .surplus rfl ⟨hoption, Nat.le_antisymm hlen hfull⟩ ?_
      simpa [Progress.behindAll] using hoperand

end Arguments

/-! ## The argument in the report -/

namespace Text

/-- Whether a text ends with a character that is no blank. -/
def EndsPlain (text : String) : Prop := ∃ c ∈ text.toList.getLast?, isBlank c = false

theorem trimEnd_eq_self_iff {text : String} : trimEnd text = text ↔ text = "" ∨ EndsPlain text := by
  have hself : trimEnd text = text
      ↔ text.toList.reverse.dropWhile isBlank = text.toList.reverse := by
    rw [trimEnd, ← String.toList_inj, String.toList_ofList, List.reverse_eq_iff]
  have hempty : text = "" ↔ text.toList.reverse = [] := by
    rw [List.reverse_eq_nil_iff, String.toList_eq_nil_iff]
  rw [hself, hempty, EndsPlain, ← List.head?_reverse]
  cases text.toList.reverse with
  | nil => simp
  | cons c chars =>
    cases hblank : isBlank c with
    | false => simp [hblank]
    | true =>
      -- A text that ends with a blank gets shorter.
      have hlen := (List.dropWhile_suffix isBlank (l := chars)).length_le
      rw [List.dropWhile_cons_of_pos hblank]
      constructor
      · intro h
        rw [h, List.length_cons] at hlen
        omega
      · simp [hblank]

theorem endsPlain_append_iff {lead text : String} (hlead : ¬ EndsPlain lead) :
    EndsPlain (lead ++ text) ↔ EndsPlain text := by
  rw [EndsPlain] at hlead
  rw [EndsPlain, EndsPlain, String.toList_append, List.getLast?_append]
  cases text.toList.getLast? with
  | none => simpa using hlead
  | some c => simp

end Text

namespace Arguments

/-- The message that names an argument. -/
theorem message_of_unrecognized (a : String) :
    (ShellError.usage (Refusal.unrecognized a).text).message
      = Text.trimEnd ("Unrecognized argument: " ++ a) :=
  Text.trimEnd_append_newline ("Unrecognized argument: " ++ a)

/-- It quotes the argument in full just if this does not end with a blank. -/
theorem trimEnd_unrecognized_iff (a : String) :
    Text.trimEnd ("Unrecognized argument: " ++ a) = "Unrecognized argument: " ++ a
      ↔ Text.EndsPlain a := by
  have hlead : ¬ Text.EndsPlain "Unrecognized argument: " := by
    rintro ⟨c, hlast, hplain⟩
    cases hlast
    exact absurd hplain (by decide)
  have hne : "Unrecognized argument: " ++ a ≠ "" := by
    intro h
    have hchars := congrArg String.toList h
    rw [String.toList_append] at hchars
    cases hchars
  rw [Text.trimEnd_eq_self_iff, or_iff_right hne, Text.endsPlain_append_iff hlead]

end Arguments

namespace Shell

open Builtin

variable {σ : Type} {sh : Shell σ} {args : List String} {st : State σ} {a : String}

/-- The report on a command determines the message. -/
theorem reportText_inj {programName name first second : String}
    (h : reportText programName name first = reportText programName name second) :
    first = second := by
  unfold reportText at h
  exact (String.append_right_inj _).mp ((String.append_left_inj _).mp h)

/-- An `exit` with an argument at which the reading stops. -/
theorem answers_of_rejects (hsh : sh.builtins = Builtin.standard)
    (herr : st.err.device.AlwaysWrites) (h : Arguments.Rejects 1 args a) :
    Answers sh ("exit" :: args) st (.resume 2) { st.env with lastStatus := 2 } ""
      (reportText sh.config.programName "exit"
        (Text.trimEnd ("Unrecognized argument: " ++ a))) := by
  have hread := Arguments.rejects_iff.mp h
  rw [← Arguments.message_of_unrecognized]
  refine answers_of_rejection hsh herr (.usage (Arguments.Refusal.unrecognized a).text) rfl ?_
  rw [Exit.perform_action, hread]

/-- **Rejected arguments of `exit`.** For a line whose first word is `exit`, where the reading
    of the other words stops at one of them and names it, the report says that this argument
    is unrecognized. It quotes the argument in full just if this does not end with a blank;
    otherwise it leaves out the blanks at the end. Where the only operand is no number, the
    report says so, and quotes it in full, whatever its characters are. -/
theorem answers_of_rejected_line (hsh : sh.builtins = Builtin.standard)
    (herr : st.err.device.AlwaysWrites) {line : String}
    (hline : Line.tokens line = "exit" :: args) (a : String) :
    (Arguments.Rejects 1 args a →
        Answers sh (Line.tokens line) st (.resume 2) { st.env with lastStatus := 2 } ""
          (reportText sh.config.programName "exit"
            (Text.trimEnd ("Unrecognized argument: " ++ a)))
        ∧ (Answers sh (Line.tokens line) st (.resume 2) { st.env with lastStatus := 2 } ""
              (reportText sh.config.programName "exit" ("Unrecognized argument: " ++ a))
            ↔ Text.EndsPlain a))
      ∧ (Arguments.hasOption args = false → Arguments.asksHelp args = false →
          Arguments.positionals args = [a] → Exit.isNumber a = false →
          Answers sh (Line.tokens line) st (.resume 2) { st.env with lastStatus := 2 } ""
            (reportText sh.config.programName "exit" ("Illegal number: " ++ a))) := by
  rw [hline]
  constructor
  · intro hrejects
    have hanswers := answers_of_rejects hsh herr hrejects
    refine ⟨hanswers, ?_, ?_⟩
    · -- Two reports on the same line are the same bytes, hence the same text.
      intro hfull
      have hbytes := List.append_cancel_left (hanswers.err.symm.trans hfull.err)
      have hmessage := reportText_inj (Utf8.encode_inj.mp hbytes)
      exact (Arguments.trimEnd_unrecognized_iff a).mp hmessage
    · intro hplain
      rwa [(Arguments.trimEnd_unrecognized_iff a).mpr hplain] at hanswers
  · intro hoption hhelp hoperand hnumber
    exact (answers_of_operand hsh herr hoption hhelp hoperand).2 hnumber

/-- The second operand is the one that is named, not the option behind it; and a blank at the
    end of what is no number is quoted. -/
theorem answers_of_rejected_line_surplus :
    Sample.shell.builtins = Builtin.standard ∧ Sample.state.err.device.AlwaysWrites
      ∧ Arguments.Rejects 1 ["1", "2", "-x"] "2"
      ∧ Answers Sample.shell (Line.tokens "exit 1 2 -x") Sample.state (.resume 2)
          { Sample.state.env with lastStatus := 2 } ""
          (reportText "sh" "exit" "Unrecognized argument: 2")
      ∧ Answers Sample.shell (Line.tokens "exit 5\u3000") Sample.state (.resume 2)
          { Sample.state.env with lastStatus := 2 } ""
          (reportText "sh" "exit" "Illegal number: 5\u3000") := by
  have hsh : Sample.shell.builtins = Builtin.standard := rfl
  have herr : Sample.state.err.device.AlwaysWrites := Device.alwaysWrites_reliable
  have hrejects : Arguments.Rejects 1 ["1", "2", "-x"] "2" := Arguments.rejects_iff.mpr rfl
  refine ⟨hsh, herr, hrejects, ?_, ?_⟩
  · have hplain : Text.EndsPlain "2" := ⟨'2', rfl, rfl⟩
    exact ((answers_of_rejected_line hsh herr rfl "2").1 hrejects).2.mpr hplain
  · exact (answers_of_rejected_line hsh herr rfl "5\u3000").2 rfl rfl rfl rfl

/-- A blank at the end of an option is not quoted. -/
theorem answers_of_rejected_line_blank :
    Sample.shell.builtins = Builtin.standard ∧ Sample.state.err.device.AlwaysWrites
      ∧ Line.tokens "exit -x\u3000" = ["exit", "-x\u3000"]
      ∧ Arguments.Rejects 1 ["-x\u3000"] "-x\u3000"
      ∧ (Sample.shell.executeLine "exit -x\u3000" Sample.state).2.err.shown
          = Sample.state.err.shown ++ Utf8.encode (reportText Sample.shell.config.programName
              "exit" "Unrecognized argument: -x")
      ∧ (Sample.shell.executeLine "exit -x\u3000" Sample.state).2.err.shown
          ≠ Sample.state.err.shown ++ Utf8.encode (reportText Sample.shell.config.programName
              "exit" ("Unrecognized argument: " ++ "-x\u3000")) := by
  have hsh : Sample.shell.builtins = Builtin.standard := rfl
  have herr : Sample.state.err.device.AlwaysWrites := Device.alwaysWrites_reliable
  have hline : Line.tokens "exit -x\u3000" = ["exit", "-x\u3000"] := rfl
  have hrejects : Arguments.Rejects 1 ["-x\u3000"] "-x\u3000" := Arguments.rejects_iff.mpr rfl
  have hmessage : Text.trimEnd ("Unrecognized argument: " ++ "-x\u3000")
      = "Unrecognized argument: -x" := by decide
  have hanswers := answers_of_rejects hsh herr hrejects
  rw [hmessage] at hanswers
  have hshown : (Sample.shell.executeLine "exit -x\u3000" Sample.state).2.err.shown
      = Sample.state.err.shown ++ Utf8.encode (reportText Sample.shell.config.programName
          "exit" "Unrecognized argument: -x") := by
    rw [executeLine, hline, hanswers.err]
  refine ⟨hsh, herr, hline, hrejects, hshown, ?_⟩
  rw [hshown]
  intro hsame
  have hfull := reportText_inj (Utf8.encode_inj.mp (List.append_cancel_left hsame))
  exact absurd hfull (by decide)

end Shell
end LineShell
