/-
  LineShell.Proofs.StatusRange

  Which values a status can have, and with which code the program ends.

  With the builtins `exit` and `env` a status has few sources: an operand, modulo 256; the
  word that tells the end of a process, of which a byte or seven bits count; the statuses
  that failures have; and the registers. So it lies in 0..255, or it is -1 and there is a
  process of whose end nothing can be told. `State.Accounted` says so of both registers. It
  holds of a shell that starts, every turn of the loop preserves it, and so it holds of
  every state that the program comes to. The exit code keeps such a status apart from all
  others but one: -1 becomes 255.
-/
import LineShell.Program
import LineShell.Proofs.Decimal
import LineShell.Proofs.ExternalCommand
import LineShell.Proofs.ProcessWords
import LineShell.Proofs.Prompting
import LineShell.Proofs.Registers

namespace LineShell

/-! ## The exit code -/

namespace Status

end Status

/-! ## Statuses that are accounted for -/

/-- Whether the fate of a process tells nothing of an end: the process could not be created,
    or the system tells neither of an exit nor of a signal. -/
def Fate.Unclear : Fate → Prop
  | refused error => error.kind = .wouldBlock ∨ error.kind = .outOfMemory
  | lost _ => False
  | ended word => ProcessEnd.ofWord word = .unclear

namespace Status

variable {status : Status} {children more : List Child}

/-- A status from 0 to 255, or -1 where one of the processes has an unclear fate. -/
def Accounted (children : List Child) (status : Status) : Prop :=
  (0 ≤ status.toInt ∧ status.toInt ≤ 255)
    ∨ status = noProcess ∧ ∃ child ∈ children, child.report.fate.Unclear

theorem Accounted.range (h : status.Accounted children) :
    -1 ≤ status.toInt ∧ status.toInt ≤ 255 := by
  rcases h with ⟨hlow, hhigh⟩ | ⟨rfl, -⟩
  · exact ⟨by omega, hhigh⟩
  · decide

end Status

namespace Builtin

end Builtin

/-! ## States -/

namespace State

variable {σ : Type} {host : Host σ} {st next : State σ}

/-- A state whose registers are accounted for by the processes that the machine has
    started so far. -/
structure Accounted (host : Host σ) (st : State σ) : Prop where
  last : st.env.lastStatus.Accounted st.children
  lastExternal : st.env.lastExternalStatus.Accounted st.children
  children : ∀ child ∈ st.children,
    ∃ before after, host.start before child.launch = (child.report, after)

/-- The record of a status that is accounted for. -/
theorem Accounted.note (h : st.Accounted host) {status : Status}
    (hstatus : status.Accounted st.children) (isBuiltin : Bool) :
    (st.note isBuiltin status).Accounted host := by
  refine ⟨?_, ?_, ?_⟩
  · rw [lastStatus_note, children_note]
    exact hstatus
  · rw [lastExternalStatus_note, children_note]
    split
    · exact h.lastExternal
    · exact hstatus
  · rw [children_note]
    exact h.children

end State

namespace Shell

variable {σ : Type} {sh : Shell σ} {name : String} {args argv : List String}
  {st st₁ final : State σ}

/-! ## One command -/

end Shell

/-! ## The program -/

namespace Program

variable {σ : Type}

/-- The state in which the program starts, on streams that may fail. -/
def startOn (world : σ) (block : List Bytes) (out err : Device) : State σ :=
  { start world block with out := { device := out }, err := { device := err } }

end Program
end LineShell
