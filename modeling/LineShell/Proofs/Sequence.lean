/-
  LineShell.Proofs.Sequence

  The read loop over one input behind another.

  Bytes that end where a line ends can stand in front of any input. As long as the loop
  goes on with these bytes, its turns are the same with and without the input behind them,
  and that input is still there in full after each of them (`reaches_prepend`). So there are
  two ways on: a line of the bytes stops the loop, which then has read nothing behind that
  line, or the loop arrives at the input, in the state that the bytes alone would have left
  (`ways_prepend`). The main statement says what this means for results and effects.
-/
import LineShell.Proofs.Growth
import LineShell.Proofs.Reads

namespace LineShell

/-! ## Reading -/

namespace Input

variable {first line : Bytes} {rest : Input}

/-- What follows the first line of whole lines are whole lines. -/
theorem whole_of_append_cons {b : UInt8} {later : Bytes} (h : Whole (line ++ b :: later)) :
    Whole later := by
  rcases h with hnil | hlast
  · simp at hnil
  · cases later with
    | nil => exact .inl rfl
    | cons c later =>
      -- The last byte of all is the last one of what follows.
      have hlater : (line ++ b :: c :: later).getLast? = (c :: later).getLast? := by
        rw [List.getLast?_append, List.getLast?_cons_cons, List.getLast?_cons]
        rfl
      rw [hlater] at hlast
      exact .inr hlast

/-- Bytes without a newline are no whole line. -/
theorem nil_of_whole (h : Whole first) (hnone : first.dropWhile (· != newline) = []) :
    first = [] := by
  rcases h with hnil | hlast
  · exact hnil
  · have hmem : newline ∈ first := List.mem_of_getLast? hlast
    exact absurd hmem (newline_notMem_of_dropWhile_nil hnone)

/-- A line that whole lines begin with is read alike whatever stands behind them. -/
theorem readLine_prepend (h : Whole first) (reading : readLine ⟨first, none⟩ = .line line rest)
    (second : Input) :
    ∃ later, rest = ⟨later, none⟩ ∧ Whole later
      ∧ (second.prepend first).readLine = .line line (second.prepend later) := by
  cases hd : first.dropWhile (· != newline) with
  | nil =>
    -- Without a newline there is nothing to read.
    rw [nil_of_whole h hd] at reading
    cases reading
  | cons b later =>
    -- The search ends in the bytes in front, and what stands behind them is not looked at.
    unfold readLine at reading
    rw [hd] at reading
    cases reading
    have hfirst := List.takeWhile_append_dropWhile (p := (· != newline)) (l := first)
    rw [hd] at hfirst
    obtain ⟨hdrop, htake⟩ := search_of_found hd second.bytes
    refine ⟨later, rfl, whole_of_append_cons (hfirst ▸ h), ?_⟩
    unfold readLine prepend
    simp only
    rw [hdrop, htake]

/-- Whole lines have come to their end only if there were none. -/
theorem nil_of_ended (h : Whole first) (reading : readLine ⟨first, none⟩ = .ended) :
    first = [] := by
  cases hd : first.dropWhile (· != newline) with
  | nil => exact nil_of_whole h hd
  | cons b later =>
    unfold readLine at reading
    rw [hd] at reading
    cases reading

end Input

namespace Shell

variable {σ : Type} {sh : Shell σ} {st st₁ st' : State σ} {first : Bytes}
  {input rest input' : Input} {n : Nat}

/-! ## Turns -/

/-- A turn that goes on leaves the input behind whole lines as it is. -/
theorem turn_prepend (h : Input.Whole first)
    (turned : sh.turn ⟨first, none⟩ st = .next rest st₁) (second : Input) :
    ∃ later, rest = ⟨later, none⟩ ∧ Input.Whole later
      ∧ sh.turn (second.prepend first) st = .next (second.prepend later) st₁ := by
  obtain ⟨before, line, status, prompted, reading, executed⟩ := next_iff.mpr turned
  obtain ⟨later, rfl, hlater, hreading⟩ := Input.readLine_prepend h reading second
  exact ⟨later, rfl, hlater, next_iff.mp ⟨before, line, status, prompted, hreading, executed⟩⟩

/-- So do any number of turns. -/
theorem reaches_prepend (h : Input.Whole first)
    (reached : Reaches sh n ⟨first, none⟩ st input' st') (second : Input) :
    ∃ later, input' = ⟨later, none⟩ ∧ Input.Whole later
      ∧ Reaches sh n (second.prepend first) st (second.prepend later) st' := by
  generalize hinput : (⟨first, none⟩ : Input) = input at reached
  -- On the turns: what each of them leaves in front are whole lines again.
  induction reached generalizing first with
  | here input st =>
    subst hinput
    exact ⟨first, rfl, h, .here _ st⟩
  | later turned _ ih =>
    subst hinput
    obtain ⟨rest, rfl, hrest, hturn⟩ := turn_prepend h turned second
    obtain ⟨later, hinput', hlater, hreach⟩ := ih hrest rfl
    exact ⟨later, hinput', hlater, .later hturn hreach⟩

/-- How the loop ends, told from its next line. -/
theorem ending_of_line {before next : State σ} {line : Bytes} {result : Except Failure Flow}
    (prompted : sh.promptUser st = (.ok (), before)) (reading : input.readLine = .line line rest)
    (executed : sh.executeLine (Utf8.decodeLossy line) before = (result, next)) :
    sh.ending input st
      = match result with
        | .error failure => .failed failure
        | .ok (.terminate status) => .terminated status
        | .ok (.resume _) => sh.ending rest next := by
  obtain ⟨hlines, hbreak⟩ := Input.lines_of_line reading
  rw [ending, hlines, executions_of_prompted _ prompted executed, Execution.ending, ending,
    hbreak]
  rcases result with failure | status | status <;> rfl

/-- Turns that go on do not change how the loop ends. -/
theorem ending_of_reaches (h : Reaches sh n input st input' st') :
    sh.ending input st = sh.ending input' st' := by
  induction h with
  | here => rfl
  | later turned _ ih =>
    obtain ⟨before, line, status, prompted, reading, executed⟩ := next_iff.mpr turned
    rw [ending_of_line prompted reading executed, ih]

/-! ## The two ways on -/

/-- The loop stops at a line that is read in front of an input, none of which has been read
    by then. -/
def StopsAhead (sh : Shell σ) (input : Input) (st : State σ) (unread : Input)
    (result : Except Failure Status) (final : State σ) : Prop :=
  ∃ n rest st' line later, Reaches sh n input st rest st'
    ∧ rest.readLine = .line line (unread.prepend later)
    ∧ sh.turn rest st' = .stop result final

/-- Whole lines in front of an input either stop the loop before that input or lead to it,
    in the state that they leave on their own. -/
theorem ways_prepend (hi : sh.config.interactive = false) (h : Input.Whole first)
    (second : Input) (st : State σ) :
    (((∃ status, sh.ending ⟨first, none⟩ st = .terminated status)
          ∨ ∃ failure, sh.ending ⟨first, none⟩ st = .failed failure)
        ∧ sh.StopsAhead (second.prepend first) st second (sh.repl ⟨first, none⟩ st).1
          (sh.repl ⟨first, none⟩ st).2)
      ∨ (sh.ending ⟨first, none⟩ st = .endOfInput
        ∧ ∃ n, Reaches sh n (second.prepend first) st second (sh.repl ⟨first, none⟩ st).2) := by
  obtain ⟨n, input', st', -, hreach, hstop⟩ := exists_stop sh ⟨first, none⟩ st
  obtain ⟨later, rfl, hlater, hreach'⟩ := reaches_prepend h hreach second
  rw [ending_of_reaches hreach]
  generalize sh.repl ⟨first, none⟩ st = outcome at hstop ⊢
  obtain ⟨result, final⟩ := outcome
  have hstop' : sh.turn ⟨later, none⟩ st' = .stop result final := hstop
  have hquiet : sh.promptUser st' = (.ok (), st') := promptUser_of_quiet hi st'
  -- Of the five ways in which a turn can stop the loop, three are left.
  cases stops_iff.mpr hstop' with
  | prompt prompted =>
    rw [hquiet] at prompted
    cases prompted
  | read prompted reading => cases (Input.lines_of_failed reading).2
  | ended prompted reading left =>
    rw [hquiet] at prompted
    cases prompted
    rw [endOfInput_of_quiet hi] at left
    cases left
    cases Input.nil_of_ended hlater reading
    exact .inr ⟨rfl, n, hreach'⟩
  | @failed line rest failure _ _ prompted reading executed =>
    obtain ⟨after, rfl, -, hreading⟩ := Input.readLine_prepend hlater reading second
    refine .inl ⟨.inr ⟨failure, ending_of_line prompted reading executed⟩, ?_⟩
    exact ⟨n, _, st', line, after, hreach', hreading,
      stops_iff.mp (.failed prompted hreading executed)⟩
  | @terminated line rest status _ _ prompted reading executed =>
    obtain ⟨after, rfl, -, hreading⟩ := Input.readLine_prepend hlater reading second
    refine .inl ⟨.inl ⟨status, ending_of_line prompted reading executed⟩, ?_⟩
    exact ⟨n, _, st', line, after, hreach', hreading,
      stops_iff.mp (.terminated prompted hreading executed)⟩

theorem repl_of_stopsAhead {unread : Input} {result : Except Failure Status}
    {final : State σ} (h : sh.StopsAhead input st unread result final) :
    sh.repl input st = (result, final) := by
  obtain ⟨n, rest, st', line, later, hreach, -, hstop⟩ := h
  rw [repl_of_reaches hreach, repl_of_stop hstop]

/-- **One input behind another.** Let whole lines stand in front of an input. If the loop
    over these lines alone ends by one of them, because it ends the shell or fails, then
    the loop over both comes to the same and has not read what stands behind that line. If
    not, the loop over both is the loop over the lines and then, with the state it leaves,
    the loop over the input: its result is that of the second loop, and what it brings
    about is what the two bring about, one after the other. -/
theorem repl_prepend (hi : sh.config.interactive = false) (h : Input.Whole first)
    (second : Input) (st : State σ) :
    let stopped := (∃ status, sh.ending ⟨first, none⟩ st = .terminated status)
      ∨ ∃ failure, (sh.repl ⟨first, none⟩ st).1 = .error failure
    let middle := (sh.repl ⟨first, none⟩ st).2
    let final := (sh.repl (second.prepend first) st).2
    (stopped →
        sh.repl (second.prepend first) st = sh.repl ⟨first, none⟩ st
          ∧ sh.StopsAhead (second.prepend first) st second (sh.repl ⟨first, none⟩ st).1 middle)
      ∧ (¬ stopped →
        sh.repl (second.prepend first) st = sh.repl second middle
          ∧ st.effect final = st.effect middle ++ middle.effect final) := by
  intro stopped middle final
  have hresult := congrArg Prod.fst (repl_of_executions hi ⟨first, none⟩ st)
  rcases ways_prepend hi h second st with ⟨hstop, hahead⟩ | ⟨hend, n, hreach⟩
  · refine ⟨fun _ => ⟨repl_of_stopsAhead hahead, hahead⟩, fun hgoes => absurd ?_ hgoes⟩
    -- A line that fails makes the loop fail.
    rcases hstop with hterminated | ⟨failure, hfailed⟩
    · exact .inl hterminated
    · rw [hfailed] at hresult
      exact .inr ⟨failure, hresult⟩
  · rw [hend] at hresult
    refine ⟨fun hstop => ?_, fun _ => ?_⟩
    · -- At the end of its input the loop has a status.
      rcases hstop with ⟨status, hterminated⟩ | ⟨failure, hfailed⟩
      · rw [hend] at hterminated
        cases hterminated
      · rw [hresult] at hfailed
        cases hfailed
    · have hboth := repl_of_reaches hreach
      refine ⟨hboth, State.effect_append (grows_of_repl sh ⟨first, none⟩ st) ?_⟩
      show middle.Grows (sh.repl (second.prepend first) st).2
      rw [hboth]
      exact grows_of_repl sh second middle

theorem repl_prepend_exit :
    Input.Whole (Utf8.encode "exit 3\n") ∧ Input.Whole (Utf8.encode "false\n")
      ∧ (Sample.shell.repl (Input.prepend (Utf8.encode "exit 3\n") ⟨[], some (.system 5)⟩)
          Sample.state).1 = .ok 3
      ∧ (Sample.shell.repl (Input.prepend (Utf8.encode "false\n") ⟨Utf8.encode "exit", none⟩)
          Sample.state).1 = .ok 1 := by
  have hi : Sample.shell.config.interactive = false := rfl
  have hexit : Input.Whole (Utf8.encode "exit 3\n") := .inr (by decide)
  have hfalse : Input.Whole (Utf8.encode "false\n") := .inr (by decide)
  refine ⟨hexit, hfalse, ?_, ?_⟩
  · -- The first line ends the shell, so that the failed read does not matter.
    obtain ⟨hstops, -⟩ := repl_prepend hi hexit ⟨[], some (.system 5)⟩ Sample.state
    rw [(hstops (.inl ⟨3, rfl⟩)).1, repl_of_executions hi]
    rfl
  · obtain ⟨-, hgoes⟩ := repl_prepend hi hfalse ⟨Utf8.encode "exit", none⟩ Sample.state
    rw [(hgoes ?_).1, repl_of_executions hi, repl_of_executions hi]
    · rfl
    · rw [repl_of_executions hi]
      rintro (⟨status, h⟩ | ⟨failure, h⟩) <;> cases h

end Shell
end LineShell
