/-
  LineShell.Proofs.ProcessStatus

  From the word that tells the end of a process to the exit code of the shell.

  A command that has started a process succeeds, if the system tells how the process ended, and
  its status is that of the word (`Shell.run_of_ended`). An `exit` without operands behind it
  leaves the shell with this status (`Shell.repl_of_ended`), with prompts that can be written or
  without any, since the result of the loop does then not depend on them. The main statement
  gives the status of every word and follows it on this way.
-/
import LineShell.Proofs.ExternalCommand
import LineShell.Proofs.ProcessWords
import LineShell.Proofs.Prompting
import LineShell.Proofs.Registers

namespace LineShell

/-! ## Leaving the shell behind a process -/

namespace Shell

variable {σ : Type} {sh : Shell σ} {argv : List String} {st : State σ} {child : Child}
  {word : Int32}

/-- A command that has started a process succeeds, if the system tells of the end of the
    process, and the word gives its status. -/
theorem run_of_ended (hstarted : (sh.run argv st).2.children = st.children ++ [child])
    (hended : child.report.fate = .ended word) :
    (sh.run argv st).1 = .ok (.resume (ProcessEnd.ofWord word).status)
      ∧ (sh.run argv st).2.env.lastExternalStatus = (ProcessEnd.ofWord word).status := by
  -- Only a program that the machine was ordered to start adds to the processes.
  have hadds : st.children ≠ st.children ++ [child] := by simp
  cases argv with
  | nil => exact absurd hstarted hadds
  | cons name args =>
    rcases attempted : sh.attempt name args st with ⟨result, st₁⟩
    have hchildren := (frame_of_run attempted).2.2.2.2
    rw [hchildren] at hstarted
    cases haccepts : sh.accepts st.env name args with
    | true =>
      obtain ⟨action, hoffer⟩ := Option.isSome_iff_exists.mp haccepts
      rw [attempt, hoffer] at attempted
      cases attempted
      exact absurd hstarted hadds
    | false =>
      cases course_of_attempt haccepts attempted with
      | unresolved missing => exact absurd hstarted hadds
      | unflushed found flushed => exact absurd hstarted hadds
      | unfit found flushed nul => exact absurd hstarted hadds
      | @ordered location out report world found flushed fit started =>
        -- The process that was added is the one whose end is told.
        have hchild : report.fate = .ended word := by
          have hlast := List.append_cancel_left hstarted
          rw [← hended, ← List.singleton_inj.mp hlast]
        rw [hchild] at attempted
        have hrun := ends_iff.mp (.succeeds attempted)
        rw [haccepts] at hrun
        rw [hrun]
        exact ⟨rfl, rfl⟩

/-- A loop that finds an `exit` behind such a command ends with the status of the process, if
    its prompts can be written. -/
theorem repl_of_ended (hsh : sh.builtins = Builtin.standard)
    (hout : sh.config.interactive = true → st.out.device.Works)
    (hstarted : (sh.run argv st).2.children = st.children ++ [child])
    (hended : child.report.fate = .ended word) {input : Input} {later : List (List String)}
    (hinput : commands input.lines = argv :: ["exit"] :: later) :
    (sh.repl input st).1 = .ok (ProcessEnd.ofWord word).status := by
  obtain ⟨hflow, hregister⟩ := run_of_ended hstarted hended
  have hexit := run_bare_exit hsh (sh.run argv st).2
  rw [hregister] at hexit
  rw [fst_repl_of_works input hout, hinput, runAll]
  rcases hrun : sh.run argv st with ⟨result, next⟩
  rw [hrun] at hflow hexit
  simp only at hflow hexit
  subst hflow
  rcases hleft : sh.run ["exit"] next with ⟨result, final⟩
  rw [hleft] at hexit
  simp only at hexit
  subst hexit
  simp only [runAll, hleft, conclude]

end Shell

namespace ProcessEnd

variable {σ : Type} {sh : Shell σ}

/-- **The status that a word gives.** If the low seven bits of the word are 0, the status is
    the byte above the low one; if they are a number from 1 to 126, the status is 128 and this
    number; otherwise it is -1. In these cases, and in no others, the word tells an exit, a
    signal, or neither. It is read by its low sixteen bits, and without an exit by its low
    seven alone. The sum does not overflow. The exit code of a status that tells an exit or a
    signal is this status; so with the builtins `exit` and `env` a shell that is left by an
    `exit` without operands behind the process has the status of the process as its own exit
    code, if it does not prompt or its prompts can be written. -/
theorem status_ofWord (hsh : sh.builtins = Builtin.standard) (word : Int32) :
    (signalBits word = 0 →
        (ofWord word).status.toInt = codeBits word ∧ codeBits word ≤ 255)
      ∧ (1 ≤ signalBits word ∧ signalBits word ≤ 126 →
        (ofWord word).status.toInt = 128 + signalBits word
          ∧ 129 ≤ (ofWord word).status.toInt ∧ (ofWord word).status.toInt ≤ 254)
      ∧ (¬ (signalBits word = 0 ∨ 1 ≤ signalBits word ∧ signalBits word ≤ 126) →
        (ofWord word).status = -1)
      ∧ ((∃ code, ofWord word = exited code) ↔ signalBits word = 0)
      ∧ ((∃ signal, ofWord word = signaled signal)
        ↔ 1 ≤ signalBits word ∧ signalBits word ≤ 126)
      ∧ (ofWord word = unclear
        ↔ ¬ (signalBits word = 0 ∨ 1 ≤ signalBits word ∧ signalBits word ≤ 126))
      ∧ (∀ other : Int32,
        other.toBitVec.extractLsb' 0 16 = word.toBitVec.extractLsb' 0 16 →
          (ofWord other).status = (ofWord word).status)
      ∧ (∀ other, signalBits other = signalBits word → signalBits word ≠ 0 →
        (ofWord other).status = (ofWord word).status)
      ∧ (∀ signal, ofWord word = signaled signal →
        (Status.signalBase + signal).toInt = Status.signalBase.toInt + signal.toInt)
      ∧ (ofWord word ≠ unclear →
        ((ofWord word).status.exitByte.toNat : Int) = (ofWord word).status.toInt)
      ∧ ∀ (argv : List String) (st : State σ) (child : Child),
          (sh.run argv st).2.children = st.children ++ [child] →
          child.report.fate = .ended word →
            (sh.run argv st).1 = .ok (.resume (ofWord word).status)
            ∧ (sh.run ["exit"] (sh.run argv st).2).1 = .ok (.terminate (ofWord word).status)
            ∧ ∀ (input : Input) (later : List (List String)),
                (sh.config.interactive = true → st.out.device.Works) →
                Shell.commands input.lines = argv :: ["exit"] :: later →
                ofWord word ≠ unclear →
                  ((Program.finish sh (sh.repl input st)).1.code.toNat : Int)
                    = (ofWord word).status.toInt := by
  refine ⟨?_, ?_, ?_, exists_exited_iff, exists_signaled_iff, ?_, ?_, ?_,
    fun signal => toInt_signalBase_add, toNat_exitByte_status, ?_⟩
  · intro h
    exact ⟨status_of_exit h, Nat.le_of_lt_succ (codeBits_lt word)⟩
  · intro h
    have hstatus := status_of_signal h
    exact ⟨hstatus, by omega, by omega⟩
  · intro h
    have hcases := signalBits_cases word
    rw [ofWord_of_full (by omega)]
    rfl
  · have hcases := signalBits_cases word
    rw [ofWord_eq_unclear_iff]
    omega
  · intro other h
    rw [ofWord_congr h]
  · intro other h hsignal
    rw [ofWord_congr_signal h hsignal]
  · intro argv st child hstarted hended
    obtain ⟨hflow, hregister⟩ := Shell.run_of_ended hstarted hended
    refine ⟨hflow, ?_, ?_⟩
    · rw [Shell.run_bare_exit hsh, hregister]
    · intro input later hout hinput hclear
      have hrepl := Shell.repl_of_ended hsh hout hstarted hended hinput
      rw [Program.code_finish_of_ok hrepl]
      exact toNat_exitByte_status hclear

/-- A negative word: a signal of number 11, with the bit above the low seven set. And a shell
    that is left behind a process, with prompts and without. -/
theorem status_ofWord_negative :
    Sample.shell.builtins = Builtin.standard ∧ signalBits (-117) = 11
      ∧ (ofWord (-117)).status.toInt = 139
      ∧ (Sample.shell.run ["false"] Sample.state).1 = .ok (.resume (ofWord 0x100).status)
      ∧ ((Program.finish Sample.shell
          (Sample.shell.repl ⟨Utf8.encode "false\nexit\n", none⟩ Sample.state)).1.code.toNat : Int)
        = (ofWord 0x100).status.toInt
      ∧ ((Program.finish (Sample.shell.prompting true)
          ((Sample.shell.prompting true).repl ⟨Utf8.encode "false\nexit\n", none⟩
            Sample.state)).1.code.toNat : Int)
        = (ofWord 0x100).status.toInt := by
  have hsh : Sample.shell.builtins = Builtin.standard := rfl
  have hsh' : (Sample.shell.prompting true).builtins = Builtin.standard := rfl
  have hbits : signalBits (-117) = 11 := by decide
  obtain ⟨-, hsignal, -⟩ := status_ofWord hsh (-117)
  obtain ⟨-, -, -, -, -, -, -, -, -, -, hquiet⟩ := status_ofWord hsh 0x100
  obtain ⟨-, -, -, -, -, -, -, -, -, -, hprompts⟩ := status_ofWord hsh' 0x100
  obtain ⟨hflow, -, hcode⟩ := hquiet ["false"] Sample.state _ rfl rfl
  obtain ⟨-, -, hcode'⟩ := hprompts ["false"] Sample.state _ rfl rfl
  refine ⟨hsh, hbits, ?_, hflow, hcode _ [] nofun rfl (by decide),
    hcode' _ [] (fun _ => Device.works_reliable) rfl (by decide)⟩
  rw [(hsignal (by rw [hbits]; decide)).1, hbits]
  rfl

end ProcessEnd
end LineShell
