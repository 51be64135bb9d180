/-
  LineShell.Proofs.Executions

  The lines that a read loop carries out, one after the other.

  An `Execution` is a line with the state before it, its result and the state after it.
  `Shell.executions` lists them, up to the line that stops the loop, and `Shell.ending`
  tells from them how the loop ends. The main statement is that the loop has no other
  memory: it comes to what its ending makes of the state that the last execution left
  (`repl_eq_executions`). So a property of the loop is an induction on its lines.

  Where the shell does not prompt, the lines that it carries out are the first ones of all,
  and all of them if none stops it.
-/
import LineShell.Proofs.Loop

namespace LineShell

/-- A line that the read loop carried out. -/
structure Execution (σ : Type) where
  line : Bytes
  /-- The state behind the prompt. -/
  before : State σ
  result : Except Failure Flow
  after : State σ

/-- How the read loop ends. -/
inductive Ending where
  /-- A line ended the shell. -/
  | terminated (status : Status)
  /-- A line failed. -/
  | failed (failure : Failure)
  /-- No line was left. -/
  | endOfInput
  /-- No line was left, and the read behind the lines failed. -/
  | readError (error : IoError)
  deriving DecidableEq, Repr

namespace Ending

/-- The end of an input, which is reached unless a read fails. -/
def ofInput : Option IoError → Ending
  | none => endOfInput
  | some error => readError error

/-- The result of a loop that ends this way, given the status of the last command. -/
def result (lastStatus : Status) : Ending → Except Failure Status
  | terminated status => .ok status
  | failed failure => .error failure
  | endOfInput => .ok lastStatus
  | readError error => .error (.input error)

end Ending

namespace Execution

variable {σ : Type}

/-- Whether the loop goes on after a line. -/
def goesOn (execution : Execution σ) : Bool :=
  match execution.result with
  | .ok (.resume _) => true
  | .ok (.terminate _) => false
  | .error _ => false

/-- The state that executions leave, or the given one if there are none. -/
def last (st : State σ) : List (Execution σ) → State σ
  | [] => st
  | execution :: later => last execution.after later

/-- How a loop with these executions ends. -/
def ending (breakage : Option IoError) : List (Execution σ) → Ending
  | [] => .ofInput breakage
  | execution :: later =>
    match execution.result with
    | .error failure => .failed failure
    | .ok (.terminate status) => .terminated status
    | .ok (.resume _) => ending breakage later

/-- A line behind which the loop goes on leaves its end to the later ones. -/
theorem ending_of_goesOn {execution : Execution σ} (h : execution.goesOn)
    (breakage : Option IoError) (later : List (Execution σ)) :
    ending breakage (execution :: later) = ending breakage later := by
  rw [ending]
  unfold goesOn at h
  split at h
  · next status hresult => rw [hresult]
  · cases h
  · cases h

/-- The loop comes to the end of its input just if every line lets it go on. -/
theorem ending_eq_endOfInput_iff (executions : List (Execution σ)) :
    ending none executions = .endOfInput ↔ ∀ execution ∈ executions, execution.goesOn := by
  induction executions with
  | nil => simp [ending, Ending.ofInput]
  | cons execution later ih =>
    cases hgoes : execution.goesOn with
    | true =>
      rw [ending_of_goesOn hgoes, ih, List.forall_mem_cons]
      exact (and_iff_right hgoes).symm
    | false =>
      -- This line makes the end, which is another one.
      have hother : ending none (execution :: later) ≠ .endOfInput := by
        rw [ending]
        unfold goesOn at hgoes
        split at hgoes
        · cases hgoes
        · next status hresult =>
          rw [hresult]
          exact nofun
        · next failure hresult =>
          rw [hresult]
          exact nofun
      constructor
      · intro hend
        exact absurd hend hother
      · intro hall
        rw [hall execution List.mem_cons_self] at hgoes
        cases hgoes

end Execution

namespace Shell

variable {σ : Type} {sh : Shell σ} {st next : State σ}

/-- The executions of a loop over some lines, up to the line that stops it or the prompt
    that fails. -/
def executions (sh : Shell σ) : List Bytes → State σ → List (Execution σ)
  | [], _ => []
  | line :: later, st =>
    match sh.promptUser st with
    | (.error _, _) => []
    | (.ok (), prompted) =>
      let (result, next) := sh.executeLine (Utf8.decodeLossy line) prompted
      let execution : Execution σ := ⟨line, prompted, result, next⟩
      execution :: if execution.goesOn then sh.executions later next else []

/-- How the loop over an input ends, unless a prompt fails. -/
def ending (sh : Shell σ) (input : Input) (st : State σ) : Ending :=
  Execution.ending input.breakage (sh.executions input.lines st)

/-- What a loop with this ending comes to. If no line stops it, the shell prompts once more
    and finds no line. -/
def stopAt (sh : Shell σ) (ending : Ending) (st : State σ) :
    Except Failure Status × State σ :=
  match ending with
  | .terminated status => (.ok status, st)
  | .failed failure => (.error failure, st)
  | .endOfInput =>
    match sh.promptUser st with
    | (.error failure, st) => (.error failure, st)
    | (.ok (), st) => sh.endOfInput st
  | .readError error =>
    match sh.promptUser st with
    | (.error failure, st) => (.error failure, st)
    | (.ok (), st) => (.error (.input error), st)

/-! ## The first execution -/

/-- No line is carried out where the prompt fails. -/
theorem executions_of_unprompted {failure : Failure} (line : Bytes) (later : List Bytes)
    (prompted : sh.promptUser st = (.error failure, next)) :
    sh.executions (line :: later) st = [] := by
  rw [executions, prompted]

/-- The first line is carried out behind the prompt, and the others after it if the loop
    goes on. -/
theorem executions_of_prompted {before : State σ} {line : Bytes}
    {result : Except Failure Flow} (later : List Bytes)
    (prompted : sh.promptUser st = (.ok (), before))
    (executed : sh.executeLine (Utf8.decodeLossy line) before = (result, next)) :
    sh.executions (line :: later) st
      = ⟨line, before, result, next⟩ ::
        if (⟨line, before, result, next⟩ : Execution σ).goesOn then sh.executions later next
        else [] := by
  rw [executions, prompted]
  simp only
  rw [executed]

/-! ## The loop and its executions -/

/-- A prompt that fails stops the loop, also where no line is left. -/
theorem stopAt_of_unprompted {failure : Failure} (breakage : Option IoError)
    (prompted : sh.promptUser st = (.error failure, next)) :
    sh.stopAt (.ofInput breakage) st = (.error failure, next) := by
  cases breakage with
  | none => rw [Ending.ofInput, stopAt, prompted]
  | some error => rw [Ending.ofInput, stopAt, prompted]

/-- A loop over an input without lines. -/
theorem repl_of_nil {input : Input} (h : input.lines = []) (st : State σ) :
    sh.repl input st = sh.stopAt (.ofInput input.breakage) st := by
  rw [repl_eq_turn, turn]
  rcases prompted : sh.promptUser st with ⟨failure | _, st₁⟩
  · rw [stopAt_of_unprompted input.breakage prompted]
  · simp only
    rw [Input.readLine_of_nil h]
    cases input.breakage with
    | none => rw [Ending.ofInput, stopAt, prompted]
    | some error => rw [Ending.ofInput, stopAt, prompted]

/-- **The loop is its executions.** It comes to what its ending makes of the state that the
    last of them left. -/
theorem repl_eq_executions (sh : Shell σ) (input : Input) (st : State σ) :
    sh.repl input st
      = sh.stopAt (sh.ending input st) (Execution.last st (sh.executions input.lines st)) := by
  rw [ending]
  induction hl : input.lines generalizing input st with
  | nil => exact repl_of_nil hl st
  | cons line later ih =>
    obtain ⟨rest, hread⟩ := Input.readLine_of_cons hl
    obtain ⟨hlines, hbreak⟩ := Input.lines_of_line hread
    have hlater : rest.lines = later := by
      rw [hl] at hlines
      exact (List.cons.inj hlines).2.symm
    rcases prompted : sh.promptUser st with ⟨failure | _, before⟩
    · -- Without a prompt the line is not read.
      rw [executions_of_unprompted line later prompted, Execution.ending, Execution.last,
        stopAt_of_unprompted input.breakage prompted, repl_eq_turn, turn, prompted]
    · rw [repl_eq_turn, turn, prompted, hread]
      simp only
      rcases executed : sh.executeLine (Utf8.decodeLossy line) before
        with ⟨failure | status | status, next⟩
      · rw [executions_of_prompted later prompted executed]
        rfl
      · rw [executions_of_prompted later prompted executed]
        simp only
        rw [ih rest next hlater, hbreak]
        rfl
      · rw [executions_of_prompted later prompted executed]
        rfl

/-- A loop records nothing but what its lines record. -/
theorem env_stopAt (sh : Shell σ) (ending : Ending) (st : State σ) :
    (sh.stopAt ending st).2.env = st.env := by
  cases ending with
  | terminated status => rfl
  | failed failure => rfl
  | endOfInput =>
    rw [stopAt]
    rcases prompted : sh.promptUser st with ⟨_ | _, before⟩
    · rw [frame_of_promptUser prompted]
    · simp only
      rcases left : sh.endOfInput before with ⟨result, final⟩
      rw [frame_of_endOfInput left, frame_of_promptUser prompted]
  | readError error =>
    rw [stopAt]
    rcases prompted : sh.promptUser st with ⟨_ | _, before⟩ <;>
      rw [frame_of_promptUser prompted]

/-! ## Without a prompt -/

section
variable (hi : sh.config.interactive = false)
include hi

theorem stopAt_of_quiet (ending : Ending) (st : State σ) :
    sh.stopAt ending st = (ending.result st.env.lastStatus, st) := by
  cases ending with
  | terminated status => rfl
  | failed failure => rfl
  | endOfInput =>
    rw [stopAt, promptUser_of_quiet hi]
    exact endOfInput_of_quiet hi st
  | readError error =>
    rw [stopAt, promptUser_of_quiet hi]
    rfl

/-- The loop gives the result of its ending and leaves the state of its last line. -/
theorem repl_of_executions (input : Input) (st : State σ) :
    sh.repl input st
      = ((sh.ending input st).result
            (Execution.last st (sh.executions input.lines st)).env.lastStatus,
          Execution.last st (sh.executions input.lines st)) := by
  rw [repl_eq_executions, stopAt_of_quiet hi]

/-- The lines that are carried out are the first ones of all, and all of them if none stops
    the loop. -/
theorem line_executions (lines : List Bytes) (st : State σ) :
    (sh.executions lines st).map Execution.line <+: lines
      ∧ ((∀ execution ∈ sh.executions lines st, execution.goesOn) →
        (sh.executions lines st).map Execution.line = lines) := by
  induction lines generalizing st with
  | nil => exact ⟨List.prefix_refl [], fun _ => rfl⟩
  | cons line later ih =>
    rcases executed : sh.executeLine (Utf8.decodeLossy line) st with ⟨result, next⟩
    rw [executions_of_prompted later (promptUser_of_quiet hi st) executed]
    obtain ⟨hfirst, hall⟩ := ih next
    -- The later lines are carried out only if this one does not stop the loop.
    split
    · refine ⟨List.prefix_cons_inj _ |>.mpr hfirst, ?_⟩
      intro hgoes
      rw [List.map_cons, hall fun execution hmem => hgoes execution (List.mem_cons_of_mem _ hmem)]
    · next hstops =>
      refine ⟨⟨later, rfl⟩, ?_⟩
      intro hgoes
      exact absurd (hgoes _ List.mem_cons_self) hstops

end
end Shell
end LineShell
