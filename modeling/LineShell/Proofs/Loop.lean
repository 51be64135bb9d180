/-
  LineShell.Proofs.Loop

  The read loop as a machine that takes turns, and as a plain fold.

  `Shell.turn` is one turn of the loop: it either stops, with the result of the loop, or
  leaves an input and a state for the next turn. `Shell.Reaches` counts turns. Every turn
  that does not stop uses up a line, so the loop stops after as many turns as there are
  lines, or earlier (`exists_stop`). What every line preserves and standard output has no
  part in is an `Invariant` of the loop.

  Where the shell does not prompt, nothing but the commands matters: `Shell.runAll`
  carries out a list of commands in order, and the loop does exactly that with the commands
  that stand on the lines of its input (`repl_of_quiet`). The main statement is this for
  bytes that can be read to their end. No other trace of the bytes is left, so that inputs
  with the same commands cannot be told apart.
-/
import LineShell.Proofs.Command
import LineShell.Proofs.Lines

namespace LineShell

/-- What one turn of the read loop comes to. -/
inductive Turn (σ : Type) where
  /-- The loop ends with this result in this state. -/
  | stop (result : Except Failure Status) (st : State σ)
  /-- The loop goes on with the rest of the input. -/
  | next (rest : Input) (st : State σ)

namespace Shell

variable {σ : Type} {sh : Shell σ} {input rest input' : Input} {st st₁ st' : State σ}
  {result : Except Failure Status} {n : Nat}

/-! ## Turns -/

/-- One turn of the read loop. -/
def turn (sh : Shell σ) (input : Input) (st : State σ) : Turn σ :=
  match sh.promptUser st with
  | (.error failure, st) => .stop (.error failure) st
  | (.ok (), st) =>
    match input.readLine with
    | .failed error => .stop (.error (.input error)) st
    | .ended => .stop (sh.endOfInput st).1 (sh.endOfInput st).2
    | .line bytes rest =>
      match sh.executeLine (Utf8.decodeLossy bytes) st with
      | (.error failure, st) => .stop (.error failure) st
      | (.ok (.terminate status), st) => .stop (.ok status) st
      | (.ok (.resume _), st) => .next rest st

/-- The loop takes a turn and, if this does not stop it, starts over. -/
theorem repl_eq_turn (sh : Shell σ) (input : Input) (st : State σ) :
    sh.repl input st
      = match sh.turn input st with
        | .stop result st => (result, st)
        | .next rest st => sh.repl rest st := by
  rw [repl, turn]
  rcases sh.promptUser st with ⟨_ | _, st⟩
  · rfl
  · simp only
    split
    · next hr => rw [hr]
    · next hr => rw [hr]
    · next bytes rest hr =>
      rw [hr]
      simp only
      rcases sh.executeLine (Utf8.decodeLossy bytes) st with ⟨_ | _ | _, st⟩ <;> rfl

theorem repl_of_stop (h : sh.turn input st = .stop result st₁) :
    sh.repl input st = (result, st₁) := by
  rw [repl_eq_turn, h]

theorem repl_of_next (h : sh.turn input st = .next rest st₁) :
    sh.repl input st = sh.repl rest st₁ := by
  rw [repl_eq_turn, h]

/-- How a turn stops the loop: the prompt fails; a read fails; the input has ended; a line
    fails; a line ends the shell. -/
inductive Stops (sh : Shell σ) (input : Input) (st : State σ) :
    Except Failure Status → State σ → Prop where
  | prompt {failure : Failure} {final : State σ}
      (prompted : sh.promptUser st = (.error failure, final)) :
      Stops sh input st (.error failure) final
  | read {error : IoError} {final : State σ}
      (prompted : sh.promptUser st = (.ok (), final))
      (reading : input.readLine = .failed error) :
      Stops sh input st (.error (.input error)) final
  | ended {st₁ final : State σ} {result : Except Failure Status}
      (prompted : sh.promptUser st = (.ok (), st₁)) (reading : input.readLine = .ended)
      (left : sh.endOfInput st₁ = (result, final)) :
      Stops sh input st result final
  | failed {bytes : Bytes} {rest : Input} {failure : Failure} {st₁ final : State σ}
      (prompted : sh.promptUser st = (.ok (), st₁)) (reading : input.readLine = .line bytes rest)
      (executed : sh.executeLine (Utf8.decodeLossy bytes) st₁ = (.error failure, final)) :
      Stops sh input st (.error failure) final
  | terminated {bytes : Bytes} {rest : Input} {status : Status} {st₁ final : State σ}
      (prompted : sh.promptUser st = (.ok (), st₁)) (reading : input.readLine = .line bytes rest)
      (executed : sh.executeLine (Utf8.decodeLossy bytes) st₁
        = (.ok (.terminate status), final)) :
      Stops sh input st (.ok status) final

/-- The rules describe every turn that stops the loop. -/
theorem stops_iff {final : State σ} :
    Stops sh input st result final ↔ sh.turn input st = .stop result final := by
  rw [turn]
  constructor
  · intro h
    cases h with
    | prompt prompted => rw [prompted]
    | read prompted reading => rw [prompted, reading]
    | ended prompted reading left =>
      rw [prompted, reading]
      simp only
      rw [left]
    | failed prompted reading executed =>
      rw [prompted, reading]
      simp only
      rw [executed]
    | terminated prompted reading executed =>
      rw [prompted, reading]
      simp only
      rw [executed]
  · -- A turn prompts, reads and carries out; the rule is told by the first of these that does
    -- not let it go on.
    intro h
    rcases prompted : sh.promptUser st with ⟨_ | _, st₁⟩ <;> rw [prompted] at h
    · cases h
      exact .prompt prompted
    · cases reading : input.readLine with
      | failed error =>
        rw [reading] at h
        cases h
        exact .read prompted reading
      | ended =>
        rw [reading] at h
        cases h
        exact .ended prompted reading rfl
      | line bytes rest =>
        rw [reading] at h
        simp only at h
        rcases executed : sh.executeLine (Utf8.decodeLossy bytes) st₁ with ⟨_ | _ | _, st₂⟩ <;>
          rw [executed] at h <;> cases h
        · exact .failed prompted reading executed
        · exact .terminated prompted reading executed

/-- A turn that does not stop the loop has prompted and has carried out the next line, and
    it leaves the other lines. -/
theorem next_iff :
    (∃ prompted bytes status,
      sh.promptUser st = (.ok (), prompted) ∧ input.readLine = .line bytes rest
        ∧ sh.executeLine (Utf8.decodeLossy bytes) prompted = (.ok (.resume status), st₁))
      ↔ sh.turn input st = .next rest st₁ := by
  rw [turn]
  constructor
  · rintro ⟨prompted, bytes, status, hp, hr, he⟩
    rw [hp, hr]
    simp only
    rw [he]
  · intro h
    rcases hp : sh.promptUser st with ⟨_ | _, prompted⟩ <;> rw [hp] at h
    · cases h
    · cases hr : input.readLine with
      | failed error =>
        rw [hr] at h
        cases h
      | ended =>
        rw [hr] at h
        cases h
      | line bytes later =>
        rw [hr] at h
        simp only at h
        rcases he : sh.executeLine (Utf8.decodeLossy bytes) prompted with ⟨_ | status | _, st₂⟩ <;>
          rw [he] at h <;> cases h
        exact ⟨prompted, bytes, status, rfl, rfl, he⟩

/-- The loop comes, in a number of turns, from an input and a state to others. -/
inductive Reaches (sh : Shell σ) : Nat → Input → State σ → Input → State σ → Prop where
  | here (input : Input) (st : State σ) : Reaches sh 0 input st input st
  | later {n : Nat} {input rest input' : Input} {st st₁ st' : State σ}
      (turned : sh.turn input st = .next rest st₁) (reached : Reaches sh n rest st₁ input' st') :
      Reaches sh (n + 1) input st input' st'

/-- A turn does not change what the loop comes to in the end. -/
theorem repl_of_reaches (h : Reaches sh n input st input' st') :
    sh.repl input st = sh.repl input' st' := by
  induction h with
  | here => rfl
  | later turned _ ih => rw [repl_of_next turned, ih]

/-- The loop always stops, after at most one turn for each line and one more, and its
    result is that of the turn that stops it. -/
theorem exists_stop (sh : Shell σ) (input : Input) (st : State σ) :
    ∃ n input' st', n ≤ input.lines.length ∧ Reaches sh n input st input' st'
      ∧ sh.turn input' st' = .stop (sh.repl input st).1 (sh.repl input st).2 := by
  -- Every turn that goes on uses up a line.
  induction hl : input.lines.length generalizing input st with
  | zero =>
    cases ht : sh.turn input st with
    | stop result st₁ =>
      refine ⟨0, input, st, Nat.le_refl 0, .here input st, ?_⟩
      rw [ht, repl_of_stop ht]
    | next rest st₁ =>
      obtain ⟨_, bytes, _, _, hr, _⟩ := next_iff.mpr ht
      rw [(Input.lines_of_line hr).1] at hl
      simp at hl
  | succ k ih =>
    cases ht : sh.turn input st with
    | stop result st₁ =>
      refine ⟨0, input, st, Nat.zero_le _, .here input st, ?_⟩
      rw [ht, repl_of_stop ht]
    | next rest st₁ =>
      obtain ⟨_, bytes, _, _, hr, _⟩ := next_iff.mpr ht
      have hrest : rest.lines.length = k := by
        rw [(Input.lines_of_line hr).1, List.length_cons] at hl
        omega
      obtain ⟨n, input', st', hn, hreach, hstop⟩ := ih rest st₁ hrest
      refine ⟨n + 1, input', st', by omega, .later ht hreach, ?_⟩
      rw [hstop, repl_of_next ht]

/-! ## Invariants -/

/-- Writing to standard output changes nothing else. -/
theorem frame_of_print {pieces : List Bytes} {answer : Except IoError Unit}
    (h : st.print pieces = (answer, st₁)) : st₁ = { st with out := st₁.out } := by
  have hst := congrArg Prod.snd h
  subst hst
  rfl

theorem frame_of_flush {answer : Except IoError Unit} (h : st.flush = (answer, st₁)) :
    st₁ = { st with out := st₁.out } := by
  have hst := congrArg Prod.snd h
  subst hst
  rfl

/-- A prompt changes nothing but standard output. -/
theorem frame_of_promptUser {answer : Except Failure Unit}
    (h : sh.promptUser st = (answer, st₁)) : st₁ = { st with out := st₁.out } := by
  unfold promptUser at h
  split at h
  · rcases hp : st.print [Utf8.encode sh.config.prompt] with ⟨_ | _, printed⟩ <;> rw [hp] at h
    · cases h
      exact frame_of_print hp
    · rcases hf : printed.flush with ⟨_ | _, flushed⟩ <;> simp only [hf] at h <;> cases h <;>
        rw [frame_of_flush hf, frame_of_print hp]
  · cases h
    rfl

/-- The end of the input changes nothing but standard output. -/
theorem frame_of_endOfInput (h : sh.endOfInput st = (result, st₁)) :
    st₁ = { st with out := st₁.out } := by
  unfold endOfInput at h
  split at h
  · rcases hp : st.print [Utf8.encode "\n"] with ⟨_ | _, printed⟩ <;> rw [hp] at h <;> cases h <;>
      exact frame_of_print hp
  · cases h
    rfl

/-- A property of states that the loop cannot break: it does not depend on standard output,
    where the loop prompts and takes leave, and every line preserves it. -/
structure Invariant (sh : Shell σ) (holds : State σ → Prop) : Prop where
  out {st : State σ} {out : Sink} (hst : holds st) : holds { st with out }
  line {line : String} {st next : State σ} {result : Except Failure Flow}
    (executed : sh.executeLine line st = (result, next)) (hst : holds st) : holds next

namespace Invariant

variable {holds : State σ → Prop}

theorem of_promptUser (invariant : sh.Invariant holds) {answer : Except Failure Unit}
    (h : sh.promptUser st = (answer, st₁)) (hst : holds st) : holds st₁ := by
  rw [frame_of_promptUser h]
  exact invariant.out hst

/-- One turn preserves an invariant, whether it stops the loop or not. -/
theorem of_turn (invariant : sh.Invariant holds) (input : Input) (hst : holds st) :
    (∀ rest next, sh.turn input st = .next rest next → holds next)
      ∧ ∀ result final, sh.turn input st = .stop result final → holds final := by
  constructor
  · intro rest next h
    obtain ⟨before, bytes, status, prompted, -, executed⟩ := next_iff.mpr h
    exact invariant.line executed (invariant.of_promptUser prompted hst)
  · intro result final h
    cases stops_iff.mpr h with
    | prompt prompted => exact invariant.of_promptUser prompted hst
    | read prompted reading => exact invariant.of_promptUser prompted hst
    | ended prompted reading left =>
      rw [frame_of_endOfInput left]
      exact invariant.out (invariant.of_promptUser prompted hst)
    | failed prompted reading executed =>
      exact invariant.line executed (invariant.of_promptUser prompted hst)
    | terminated prompted reading executed =>
      exact invariant.line executed (invariant.of_promptUser prompted hst)

/-- So does any number of turns. -/
theorem of_reaches (invariant : sh.Invariant holds) (h : Reaches sh n input st input' st')
    (hst : holds st) : holds st' := by
  induction h with
  | here => exact hst
  | later turned _ ih => exact ih ((invariant.of_turn _ hst).1 _ _ turned)

/-- So does the whole loop. -/
theorem of_repl (invariant : sh.Invariant holds) (input : Input) (hst : holds st) :
    holds (sh.repl input st).2 := by
  obtain ⟨n, input', st', -, hreach, hstop⟩ := exists_stop sh input st
  exact (invariant.of_turn input' (invariant.of_reaches hreach hst)).2 _ _ hstop

end Invariant

/-! ## The loop as a fold -/

/-- Carries out commands in order, up to the first that ends the shell or fails. The answer
    is the status or the failure of that command; there is none if all were carried out. -/
def runAll (sh : Shell σ) :
    List (List String) → State σ → Option (Except Failure Status) × State σ
  | [], st => (none, st)
  | argv :: later, st =>
    match sh.run argv st with
    | (.error failure, st) => (some (.error failure), st)
    | (.ok (.terminate status), st) => (some (.ok status), st)
    | (.ok (.resume _), st) => sh.runAll later st

/-- The commands that stand on some lines, without those lines that hold none. -/
def commands (lines : List Bytes) : List (List String) :=
  (lines.map fun line => Line.tokens (Utf8.decodeLossy line)).filter (· ≠ [])

/-- The result of a loop whose commands came to this answer and this state. If no command
    ended the loop, the end of the input does, with the status of the last command or the
    failure of the read. -/
def conclude (breakage : Option IoError) :
    Option (Except Failure Status) × State σ → Except Failure Status × State σ
  | (some result, st) => (result, st)
  | (none, st) =>
    match breakage with
    | none => (.ok st.env.lastStatus, st)
    | some error => (.error (.input error), st)

/-- A line without words changes nothing. -/
theorem executeLine_of_blank {line : String} (h : Line.tokens line = []) (st : State σ) :
    sh.executeLine line st = (.ok (.resume st.env.lastStatus), st) := by
  rw [executeLine, h]
  rfl

theorem promptUser_of_quiet (h : sh.config.interactive = false) (st : State σ) :
    sh.promptUser st = (.ok (), st) := by
  rw [promptUser, h]
  rfl

theorem endOfInput_of_quiet (h : sh.config.interactive = false) (st : State σ) :
    sh.endOfInput st = (.ok st.env.lastStatus, st) := by
  rw [endOfInput, h]
  rfl

/-- The first of some lines, whether it holds a command or not. -/
theorem runAll_commands_cons (sh : Shell σ) (line : Bytes) (lines : List Bytes) (st : State σ) :
    sh.runAll (commands (line :: lines)) st
      = match sh.executeLine (Utf8.decodeLossy line) st with
        | (.error failure, st) => (some (.error failure), st)
        | (.ok (.terminate status), st) => (some (.ok status), st)
        | (.ok (.resume _), st) => sh.runAll (commands lines) st := by
  rw [commands, List.map_cons]
  by_cases hb : Line.tokens (Utf8.decodeLossy line) = []
  · -- A line without words is no command, and as a line it changes nothing.
    rw [executeLine_of_blank hb, List.filter_cons_of_neg (by simpa using hb), commands]
  · rw [executeLine, List.filter_cons_of_pos (by simpa using hb), runAll, commands]

/-- A loop that does not prompt carries out the commands on the lines of its input. -/
theorem repl_of_quiet (hi : sh.config.interactive = false) (input : Input) (st : State σ) :
    sh.repl input st = conclude input.breakage (sh.runAll (commands input.lines) st) := by
  -- On the lines that are left, of which every turn takes the first.
  induction hl : input.lines generalizing input st with
  | nil =>
    -- The loop stops at this turn, by the end of the input or by a failed read.
    cases hr : input.readLine with
    | line bytes rest =>
      rw [(Input.lines_of_line hr).1] at hl
      cases hl
    | failed error =>
      have ht : sh.turn input st = .stop (.error (.input error)) st := by
        rw [turn, promptUser_of_quiet hi, hr]
      rw [repl_of_stop ht, (Input.lines_of_failed hr).2]
      rfl
    | ended =>
      have ht : sh.turn input st = .stop (.ok st.env.lastStatus) st := by
        rw [turn, promptUser_of_quiet hi, hr]
        simp only
        rw [endOfInput_of_quiet hi]
      rw [repl_of_stop ht, (Input.lines_of_ended hr).2]
      rfl
  | cons line lines ih =>
    cases hr : input.readLine with
    | failed error =>
      rw [(Input.lines_of_failed hr).1] at hl
      cases hl
    | ended =>
      rw [(Input.lines_of_ended hr).1] at hl
      cases hl
    | line bytes rest =>
      obtain ⟨hlines, hbreak⟩ := Input.lines_of_line hr
      rw [hlines] at hl
      cases hl
      rw [repl_eq_turn, turn, promptUser_of_quiet hi, hr, runAll_commands_cons]
      simp only
      rcases sh.executeLine (Utf8.decodeLossy line) st with ⟨_ | status | status, st₁⟩
      · rfl
      · simp only
        rw [ih rest st₁ rfl, hbreak]
      · rfl

/-- **The read loop is a fold.** On bytes that can be read to their end, a loop that does
    not prompt stops, and it comes to what the commands on its lines come to one after the
    other: the status of the first that ends the shell, the failure of the first that
    fails, or else the status of the last one. Bytes with the same commands therefore
    cannot be told apart. -/
theorem repl_eq_fold (hi : sh.config.interactive = false) (bytes : Bytes) (st : State σ) :
    (∃ n input' st', n ≤ (Input.endedLines bytes ++ Input.openLine bytes).length
      ∧ Reaches sh n ⟨bytes, none⟩ st input' st'
      ∧ sh.turn input' st'
        = .stop (sh.repl ⟨bytes, none⟩ st).1 (sh.repl ⟨bytes, none⟩ st).2)
      ∧ sh.repl ⟨bytes, none⟩ st
        = (match sh.runAll (commands (Input.endedLines bytes ++ Input.openLine bytes)) st with
          | (some result, final) => (result, final)
          | (none, final) => (.ok final.env.lastStatus, final))
      ∧ ∀ other,
          commands (Input.endedLines other ++ Input.openLine other)
            = commands (Input.endedLines bytes ++ Input.openLine bytes) →
          sh.repl ⟨other, none⟩ st = sh.repl ⟨bytes, none⟩ st := by
  -- The state after the loop depends on the bytes through their commands only.
  have hfold : ∀ bytes, sh.repl ⟨bytes, none⟩ st
      = conclude none
          (sh.runAll (commands (Input.endedLines bytes ++ Input.openLine bytes)) st) :=
    fun bytes => repl_of_quiet hi ⟨bytes, none⟩ st
  refine ⟨exists_stop sh ⟨bytes, none⟩ st, ?_, ?_⟩
  · rw [hfold]
    rcases sh.runAll (commands (Input.endedLines bytes ++ Input.openLine bytes)) st
      with ⟨_ | result, final⟩ <;> rfl
  · intro other h
    rw [hfold, hfold, h]

theorem repl_eq_fold_script :
    Sample.shell.config.interactive = false
      ∧ (Sample.shell.repl ⟨Utf8.encode "false\n\n\texit 3\r\nenv", none⟩ Sample.state).1
        = .ok 3 := by
  refine ⟨rfl, ?_⟩
  rw [(repl_eq_fold rfl (Utf8.encode "false\n\n\texit 3\r\nenv") Sample.state).2.1]
  rfl

end Shell
end LineShell
