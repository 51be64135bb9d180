/-
  LineShell.Proofs.Inheritance

  The variables along a line of shells, each of which was started by the one before.

  A shell whose builtins leave the variables alone holds, whatever it is asked to do, the
  variables that it captured, and every program that it starts receives the block of them.
  If this program is such a shell again, it captures that block, and so on. The relation
  `Inherits` describes what can be handed down from the entries of a block in this way, to
  any depth.

  The main statement is that there is exactly one such block, and that it says what was
  captured, sorted and without repetitions. Nothing is lost but what the first shell could
  not read, since a block that was made of captured variables is captured as it stands.
-/
import LineShell.Proofs.Capture
import LineShell.Proofs.StatusRange
import LineShell.Session

namespace LineShell

/-! ## Builtins and the variables -/

namespace Builtin

/-- The builtin never changes the variables. -/
def KeepsVars (builtin : Builtin) : Prop :=
  ∀ env name args action, builtin.offer env name args = some action →
    ∀ out, (action.perform out).env.vars = env.vars

theorem keepsVars_of_standard {builtin : Builtin} (h : builtin ∈ standard) :
    builtin.KeepsVars := by
  intro env name args action hoffer out
  rcases action_of_standard h hoffer with rfl | rfl
  · rcases Exit.env_of_perform env args out with henv | ⟨-, henv⟩ <;> rw [henv]
  · rw [Env.env_of_perform]

end Builtin

/-! ## A shell and its programs -/

/-- A state with these variables, in which every program so far has received the block of
    them. -/
structure State.Hands {σ : Type} (vars : List (String × String)) (st : State σ) : Prop where
  held : st.env.vars = vars
  received : ∀ child ∈ st.children, child.launch.block = Block.ofVars vars

section
variable {σ : Type} {sh : Shell σ} {name : String} {args argv : List String}
  {st st₁ : State σ} {vars : List (String × String)}
  (hkeeps : ∀ builtin ∈ sh.builtins, builtin.KeepsVars)

theorem Shell.hands_of_course {result : Except Failure Status} (hst : st.Hands vars)
    (h : Course sh name args st result st₁) : st₁.Hands vars := by
  cases h with
  | unresolved missing => exact hst
  | unflushed found flushed => exact ⟨hst.held, hst.received⟩
  | unfit found flushed nul => exact ⟨hst.held, hst.received⟩
  | @ordered location out report world found flushed fit started =>
    -- The order was made of the variables as they are.
    refine ⟨hst.held, ?_⟩
    intro child hchild
    rcases List.mem_append.mp hchild with hold | hnew
    · exact hst.received child hold
    · rw [List.mem_singleton.mp hnew, ← hst.held]
      rfl

include hkeeps

theorem Shell.hands_of_attempt {result : Except Failure Status} (hst : st.Hands vars)
    (h : sh.attempt name args st = (result, st₁)) : st₁.Hands vars := by
  rcases attempt_cases h with hprogram | ⟨builtin, hmem, action, hoffered, hperformed⟩
  · exact hands_of_course hst (course_iff.mpr hprogram)
  · rw [perform_eq] at hperformed
    cases hperformed
    exact ⟨(hkeeps builtin hmem st.env name args action hoffered st.out).trans hst.held,
      hst.received⟩

/-- Whatever the command is, a program that it starts receives the variables as they are, and
    they stay so. -/
theorem Shell.hands_of_run (hst : st.Hands vars) (argv : List String) :
    (sh.run argv st).2.Hands vars := by
  cases argv with
  | nil => exact hst
  | cons name args =>
    rcases attempted : sh.attempt name args st with ⟨result, st₁⟩
    obtain ⟨-, hvars, -, -, hchildren⟩ := frame_of_run attempted
    have hattempt := hands_of_attempt hkeeps hst attempted
    refine ⟨hvars.trans hattempt.held, ?_⟩
    rw [hchildren]
    exact hattempt.received

end

namespace Session

variable {σ : Type} {sh : Shell σ} {st : State σ} {holds : State σ → Prop}

/-- What every command preserves, and does not depend on standard output, a session
    preserves. -/
theorem holds_of_play (hout : ∀ (st : State σ) (out : Sink), holds st → holds { st with out })
    (hrun : ∀ argv st, holds st → holds (sh.run argv st).2) (steps : List Step)
    (hst : holds st) : holds (play sh st steps).2 := by
  -- A line is a command, so the loop of an input preserves it as well.
  have hline : sh.Invariant holds := by
    refine ⟨hout _ _, ?_⟩
    intro line st next result executed hst
    have hnext := hrun (Line.tokens line) st hst
    rw [show sh.run (Line.tokens line) st = (result, next) from executed] at hnext
    exact hnext
  induction steps generalizing st with
  | nil => exact hst
  | cons step steps ih =>
    have hnext : holds (perform sh st step).2 := by
      cases step with
      | line text => exact hrun (Line.tokens text) st hst
      | command argv => exact hrun argv st hst
      | input input => exact hline.of_repl input hst
    exact ih hnext

/-- In a session that starts without programs, all programs receive the first variables. -/
theorem hands_of_play (hkeeps : ∀ builtin ∈ sh.builtins, builtin.KeepsVars)
    (hstart : st.children = []) (steps : List Step) : (play sh st steps).2.Hands st.env.vars := by
  have hst : st.Hands st.env.vars := ⟨rfl, by rw [hstart]; exact List.forall_mem_nil _⟩
  have hout : ∀ (later : State σ) (out : Sink), later.Hands st.env.vars →
      State.Hands st.env.vars { later with out } := fun _ _ h => ⟨h.held, h.received⟩
  have hrun : ∀ argv (later : State σ), later.Hands st.env.vars →
      (sh.run argv later).2.Hands st.env.vars := fun argv _ h => Shell.hands_of_run hkeeps h argv
  exact holds_of_play hout hrun steps hst

end Session

/-! ## A line of shells -/

/-- What can be handed down from the entries of a block: a program receives it from a shell
    that captured these entries and whose builtins leave the variables alone, in whatever
    session on whatever machine, or from a shell further down the line. -/
inductive Inherits : List Bytes → Block → Prop where
  | child {σ : Type} {sh : Shell σ} (keeps : ∀ builtin ∈ sh.builtins, builtin.KeepsVars)
      (world : σ) (entries : List Bytes) (out err : Device) (steps : List Session.Step)
      {child : Child}
      (started : child ∈
        (Session.play sh (Program.startOn world entries out err) steps).2.children) :
      Inherits entries child.launch.block
  | later {entries : List Bytes} {block last : Block} (first : Inherits entries block)
      (next : Inherits block.entries last) : Inherits entries last

namespace Inherits

variable {entries : List Bytes} {block : Block}

/-- Only one block can be handed down. -/
theorem eq_ofVars (h : Inherits entries block) : block = Block.ofVars (Block.capture entries) := by
  induction h with
  | child keeps world entries out err steps started =>
    have hstart : (Program.startOn world entries out err).children = [] := rfl
    exact (Session.hands_of_play keeps hstart steps).received _ started
  | later first next ihfirst ihnext =>
    -- What is captured from a block that was handed down makes this block again.
    rw [ihnext, ihfirst, Block.ofVars_capture_entries]

/-- And it can be: nothing in it keeps a program from starting. -/
theorem ofVars_capture (hfree : ∀ bytes ∈ entries, 0 ∉ bytes) :
    Inherits entries (Block.ofVars (Block.capture entries)) := by
  let st := Program.startOn () entries .reliable .reliable
  let launch := External.launch ⟨"/bin/false", "/bin/false", []⟩ st.env
  -- Neither the words of the command nor a captured variable holds NUL.
  have fit : launch.hasNul = false := by
    rw [← Bool.not_eq_true, External.hasNul_launch]
    rintro (hpath | ⟨word, hword, hnul⟩ | ⟨k, v, hlast, hnul⟩)
    · exact absurd hpath (by decide)
    · rw [List.mem_singleton.mp hword] at hnul
      exact absurd hnul (by decide)
    · obtain ⟨hkey, hvalue⟩ := Block.nul_not_mem_of_mem_capture hfree
        (List.mem_reverse.mp (mem_of_lookup hlast))
      exact hnul.elim hkey hvalue
  have found : Lookup.find (Sample.shell.host.pathExists st.world) (st.env.get? "PATH") "/bin/false"
      = .ok (.asTyped "/bin/false") := rfl
  obtain ⟨result, final, course, hfinal⟩ : ∃ result final,
      Shell.Course Sample.shell "/bin/false" [] st result final
        ∧ final.children = [⟨launch, ⟨[], [], .ended 0x100⟩⟩] :=
    ⟨_, _, .ordered found rfl fit rfl, rfl⟩
  have attempted := Shell.course_iff.mp course
  rw [← Shell.attempt_program rfl (by decide) (by decide)] at attempted
  obtain ⟨-, -, -, -, hchildren⟩ := Shell.frame_of_run attempted
  have hkeeps : ∀ builtin ∈ Sample.shell.builtins, builtin.KeepsVars :=
    fun _ => Builtin.keepsVars_of_standard
  have started : (⟨launch, ⟨[], [], .ended 0x100⟩⟩ : Child)
      ∈ (Session.play Sample.shell st [.command ["/bin/false"]]).2.children := by
    change _ ∈ (Sample.shell.run ["/bin/false"] st).2.children
    rw [hchildren, hfinal]
    exact List.mem_singleton.mpr rfl
  exact .child hkeeps () entries .reliable .reliable _ started

/-- **A block is handed down unchanged.** From the entries of a block without NUL, a line of
    shells hands down exactly one block. Its keys ascend strictly. They are the captured
    keys, each of them once, and with each key stands the value of the last pair that was
    captured with it. Captured again the block gives its own pairs in its own order, and it
    is also what is handed down from its own entries, which are without NUL again. -/
theorem exists_unique_block (hfree : ∀ bytes ∈ entries, 0 ∉ bytes) :
    ∃ block : Block,
      (∀ other, Inherits entries other ↔ other = block)
      ∧ block.Ascending
      ∧ (∀ key, (block.map Prod.fst).count key
        = if key ∈ (Block.capture entries).map (fun pair => Utf8.encode pair.1) then 1 else 0)
      ∧ (∀ key, block.lookup (Utf8.encode key)
        = ((Block.capture entries).reverse.lookup key).map Utf8.encode)
      ∧ (Block.capture block.entries).map (fun pair => (Utf8.encode pair.1, Utf8.encode pair.2))
        = block
      ∧ (∀ later, Inherits block.entries later ↔ later = block)
      ∧ ∀ bytes ∈ block.entries, 0 ∉ bytes := by
  -- Without NUL, what can be handed down is the block of the captured variables and no other.
  have hunique : ∀ entries : List Bytes, (∀ bytes ∈ entries, 0 ∉ bytes) → ∀ other,
      Inherits entries other ↔ other = Block.ofVars (Block.capture entries) := by
    intro entries hfree other
    refine ⟨eq_ofVars, ?_⟩
    rintro rfl
    exact ofVars_capture hfree
  have hfree' := Block.zero_not_mem_entries hfree
  have hascending := Block.ascending_ofVars (Block.capture entries)
  refine ⟨_, hunique entries hfree, hascending, ?_, Block.lookup_ofVars _,
    Block.map_encode_capture entries, ?_, hfree'⟩
  · intro key
    rw [Block.count_key_of_ascending hascending]
    simp only [Block.mem_keys_ofVars]
  · intro later
    rw [hunique _ hfree', Block.ofVars_capture_entries]

/-- Two keys that are no texts are read as the same one, with which the later value goes. -/
theorem exists_unique_block_merged :
    let entries : List Bytes := [[0xFF, 0x3D, 0x31], Utf8.encode "=A=B=", [0xC3, 0x3D, 0x32]]
    (∀ bytes ∈ entries, 0 ∉ bytes)
      ∧ ∃ block, Inherits entries block ∧ (block.map Prod.fst).count (Utf8.encode "\uFFFD") = 1
        ∧ block.lookup (Utf8.encode "\uFFFD") = some (Utf8.encode "2") := by
  have hfree : ∀ bytes ∈ ([[0xFF, 0x3D, 0x31], Utf8.encode "=A=B=", [0xC3, 0x3D, 0x32]] :
      List Bytes), 0 ∉ bytes := by decide
  obtain ⟨block, hall, -, hcount, hlookup, -⟩ := exists_unique_block hfree
  refine ⟨hfree, block, (hall block).mpr rfl, ?_, ?_⟩
  · rw [hcount]
    decide
  · rw [hlookup]
    decide

end Inherits
end LineShell
