/-
  LineShell.Proofs.BrokenInput

  The read loop where the input breaks off.

  Bytes are whole lines and an open line behind them. Where the read that follows them
  fails, the open line is never known in full, and the loop must not carry it out: it goes
  through the whole lines, as a loop over these alone would, and then fails with the failed
  read. An interruption of the read is of no consequence, so that the open line is a line
  as any other. The main statement has both.
-/
import LineShell.Proofs.Sequence
import Mathlib.Data.List.DropRight

namespace LineShell

/-! ## Whole lines and the open line -/

namespace Input

/-- The bytes up to the last newline. -/
def wholePart (bytes : Bytes) : Bytes := bytes.rdropWhile (· != newline)

/-- The bytes behind the last newline. -/
def openPart (bytes : Bytes) : Bytes := bytes.rtakeWhile (· != newline)

theorem wholePart_append_openPart (bytes : Bytes) : wholePart bytes ++ openPart bytes = bytes :=
  List.rdropWhile_append_rtakeWhile

theorem whole_wholePart (bytes : Bytes) : Whole (wholePart bytes) := by
  by_cases hnil : wholePart bytes = []
  · exact .inl hnil
  · have hlast : (wholePart bytes).getLast hnil = newline := by
      have hnot := List.rdropWhile_last_not (· != newline) bytes hnil
      simp only [bne_iff_ne, ne_eq, not_not] at hnot
      exact hnot
    have hsome : (wholePart bytes).getLast? = some newline := by
      rw [List.getLast?_eq_some_getLast hnil, hlast]
    exact .inr hsome

theorem endedLines_openPart (bytes : Bytes) : endedLines (openPart bytes) = [] := by
  have hnone : (openPart bytes).dropWhile (· != newline) = [] := by
    rw [List.dropWhile_eq_nil_iff]
    intro b hb
    exact List.mem_rtakeWhile_imp (p := (· != newline)) hb
  exact endedLines_of_dropWhile_nil hnone

/-- The lines that a newline ends are all lines of the whole part. -/
theorem lines_wholePart (bytes : Bytes) : lines ⟨wholePart bytes, none⟩ = endedLines bytes := by
  have hopen : openLine (wholePart bytes) = [] := openLine_of_whole (whole_wholePart bytes)
  have hended : endedLines bytes = endedLines (wholePart bytes) := by
    -- The bytes behind the last newline add no line that a newline ends.
    conv_lhs => rw [← wholePart_append_openPart bytes]
    rw [endedLines_append (whole_wholePart bytes), endedLines_openPart, List.append_nil]
  show endedLines (wholePart bytes) ++ openLine (wholePart bytes) = endedLines bytes
  rw [hopen, List.append_nil, hended]

/-- The whole part stands in front of the open line and of whatever becomes of the read. -/
theorem prepend_wholePart (bytes : Bytes) (failure : Option IoError) :
    prepend (wholePart bytes) ⟨openPart bytes, failure⟩ = ⟨bytes, failure⟩ := by
  show (⟨wholePart bytes ++ openPart bytes, failure⟩ : Input) = ⟨bytes, failure⟩
  rw [wholePart_append_openPart]

end Input

/-! ## Loops -/

namespace Shell

variable {σ : Type} {sh : Shell σ}

/-- Without a whole line there is nothing to carry out before the failed read. -/
theorem repl_of_openPart (hi : sh.config.interactive = false) (bytes : Bytes) {error : IoError}
    (hkind : error.kind ≠ .interrupted) (st : State σ) :
    sh.repl ⟨Input.openPart bytes, some error⟩ st = (.error (.input error), st) := by
  have hbreak := Input.breakage_of_failure (Input.openPart bytes) error
  rw [if_neg hkind] at hbreak
  have hlines : Input.lines ⟨Input.openPart bytes, some error⟩ = [] := by
    rw [Input.lines, hbreak]
    exact Input.endedLines_openPart bytes
  rw [repl_of_nil hlines, hbreak, stopAt_of_quiet hi]
  rfl

/-- The loop goes through the whole lines first, and either stops there, whatever stands
    behind them, or goes on behind them. -/
theorem repl_of_wholePart (hi : sh.config.interactive = false) (bytes : Bytes) (st : State σ) :
    ((∃ execution ∈ sh.executions (Input.endedLines bytes) st, execution.goesOn = false) →
        ∀ failure, sh.repl ⟨bytes, failure⟩ st = sh.repl ⟨Input.wholePart bytes, none⟩ st)
      ∧ ((∀ execution ∈ sh.executions (Input.endedLines bytes) st, execution.goesOn) →
        ∀ failure, sh.repl ⟨bytes, failure⟩ st
          = sh.repl ⟨Input.openPart bytes, failure⟩
            (sh.repl ⟨Input.wholePart bytes, none⟩ st).2) := by
  -- The loop over the whole lines comes to their end just if none of them stops it.
  have hend : sh.ending ⟨Input.wholePart bytes, none⟩ st = .endOfInput
      ↔ ∀ execution ∈ sh.executions (Input.endedLines bytes) st, execution.goesOn := by
    rw [ending, Input.lines_wholePart]
    exact Execution.ending_eq_endOfInput_iff _
  refine ⟨?_, ?_⟩
  · rintro ⟨execution, hmem, hstops⟩ failure
    rcases ways_prepend hi (Input.whole_wholePart bytes) ⟨Input.openPart bytes, failure⟩ st with
      ⟨-, hahead⟩ | ⟨hends, -⟩
    · rw [← Input.prepend_wholePart bytes failure]
      exact repl_of_stopsAhead hahead
    · rw [hend.mp hends execution hmem] at hstops
      cases hstops
  · intro hgoes failure
    rcases ways_prepend hi (Input.whole_wholePart bytes) ⟨Input.openPart bytes, failure⟩ st with
      ⟨hstop, -⟩ | ⟨-, n, hreach⟩
    · rw [hend.mpr hgoes] at hstop
      rcases hstop with ⟨status, h⟩ | ⟨failure, h⟩ <;> cases h
    · conv_lhs => rw [← Input.prepend_wholePart bytes failure]
      exact repl_of_reaches hreach

/-- **An input that breaks off.** If the read behind some bytes fails, the loop carries out
    the lines of them that a newline ends, in order and up to one that stops it. If one
    does, the loop comes to what it would come to without the failure. If none does, the
    loop fails with the failed read, and with what the bytes up to the last newline alone
    would have left. If the read was only interrupted, the loop comes to the same as
    without it, and the open line is carried out too. -/
theorem repl_of_failed_read (hi : sh.config.interactive = false) (bytes : Bytes)
    (error : IoError) (st : State σ) :
    (error.kind ≠ .interrupted →
        let executions := sh.executions (Input.endedLines bytes) st
        (sh.repl ⟨bytes, some error⟩ st).2 = Execution.last st executions
          ∧ executions.map Execution.line <+: Input.endedLines bytes
          ∧ ((∃ execution ∈ executions, execution.goesOn = false) →
            sh.repl ⟨bytes, some error⟩ st = sh.repl ⟨bytes, none⟩ st)
          ∧ ((∀ execution ∈ executions, execution.goesOn = true) →
            executions.map Execution.line = Input.endedLines bytes
              ∧ sh.repl ⟨bytes, some error⟩ st
                = (.error (.input error), (sh.repl ⟨Input.wholePart bytes, none⟩ st).2)))
      ∧ (error.kind = .interrupted →
        sh.repl ⟨bytes, some error⟩ st = sh.repl ⟨bytes, none⟩ st
          ∧ (sh.repl ⟨bytes, some error⟩ st).2
            = Execution.last st
              (sh.executions (Input.endedLines bytes ++ Input.openLine bytes) st))
      ∧ (Failure.input error).fullText = "failed to read standard input: " ++ error.text := by
  have hbreak := Input.breakage_of_failure bytes error
  obtain ⟨hstopped, hwent⟩ := repl_of_wholePart hi bytes st
  obtain ⟨hfirst, hall⟩ := line_executions hi (Input.endedLines bytes) st
  refine ⟨?_, ?_, rfl⟩
  · intro hkind executions
    rw [if_neg hkind] at hbreak
    have hlines : Input.lines ⟨bytes, some error⟩ = Input.endedLines bytes := by
      rw [Input.lines, hbreak]
    refine ⟨?_, hfirst, ?_, ?_⟩
    · rw [repl_of_executions hi, hlines]
    · intro hstop
      rw [hstopped hstop, hstopped hstop]
    · intro hgoes
      exact ⟨hall hgoes, by rw [hwent hgoes, repl_of_openPart hi bytes hkind]⟩
  · intro hkind
    rw [if_pos hkind] at hbreak
    have hlines : Input.lines ⟨bytes, some error⟩
        = Input.endedLines bytes ++ Input.openLine bytes := by
      rw [Input.lines, hbreak]
    have hinterrupted : sh.repl ⟨bytes, some error⟩ st = sh.repl ⟨bytes, none⟩ st := by
      rw [repl_of_quiet hi, repl_of_quiet hi, hlines, hbreak]
      rfl
    refine ⟨hinterrupted, ?_⟩
    rw [repl_of_executions hi, hlines]

theorem repl_of_failed_read_open :
    (Sample.shell.repl ⟨Utf8.encode "false\nexit 3", some (.system 5)⟩ Sample.state).1
        = .error (.input (.system 5))
      ∧ (Sample.shell.repl ⟨Utf8.encode "false\nexit 3", some (.system 4)⟩ Sample.state).1
        = .ok 3 := by
  have hi : Sample.shell.config.interactive = false := rfl
  refine ⟨?_, ?_⟩
  · obtain ⟨hfails, -⟩ :=
      repl_of_failed_read hi (Utf8.encode "false\nexit 3") (.system 5) Sample.state
    obtain ⟨-, -, -, hgoes⟩ := hfails (by decide)
    have hall : ∀ execution ∈ Sample.shell.executions
        (Input.endedLines (Utf8.encode "false\nexit 3")) Sample.state,
        execution.goesOn = true := by
      intro execution hmem
      cases List.mem_singleton.mp hmem
      rfl
    rw [(hgoes hall).2]
  · obtain ⟨-, hinterrupted, -⟩ :=
      repl_of_failed_read hi (Utf8.encode "false\nexit 3") (.system 4) Sample.state
    rw [(hinterrupted rfl).1, repl_of_executions hi]
    rfl

end Shell
end LineShell
