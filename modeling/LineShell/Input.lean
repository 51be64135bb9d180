/-
  LineShell.Input

  An input stream, read line by line: its bytes, and perhaps a failure of the read that
  follows them, after which the stream ends. A failure that only means an interruption is
  of no consequence, since the read is tried again.
-/
import LineShell.IoError
import LineShell.Text.Utf8

namespace LineShell

/-- An input stream. -/
structure Input where
  bytes : Bytes
  /-- The failure of the read after the last byte. -/
  failure : Option IoError := none
  deriving DecidableEq, Repr

namespace Input

/-- The byte that ends a line. -/
def newline : UInt8 := 0x0A

/-- What an attempt to read a line gives. -/
inductive Reading where
  /-- A line, without the newline that ends it, and what follows. -/
  | line (bytes : Bytes) (rest : Input)
  /-- The read failed; the beginning of a line before the failure is dropped. -/
  | failed (error : IoError)
  /-- There is nothing left. -/
  | ended
  deriving DecidableEq, Repr

/-- The last line, which no newline ends. It counts only if it holds any byte. -/
def lastLine (bytes : Bytes) : Reading :=
  match bytes with
  | [] => .ended
  | _ :: _ => .line bytes ⟨[], none⟩

/-- Reads up to the next newline. -/
def readLine (input : Input) : Reading :=
  match input.bytes.dropWhile (· != newline) with
  | _ :: rest => .line (input.bytes.takeWhile (· != newline)) { input with bytes := rest }
  | [] =>
    match input.failure with
    | none => lastLine input.bytes
    | some error => if error.kind = .interrupted then lastLine input.bytes else .failed error

/-- Every line takes away at least one byte. -/
theorem length_lt_of_readLine {input rest : Input} {bytes : Bytes}
    (h : input.readLine = .line bytes rest) : rest.bytes.length < input.bytes.length := by
  have last : ∀ bs : Bytes, lastLine bs = .line bytes rest → rest.bytes.length < bs.length := by
    intro bs hbs
    cases bs with
    | nil => cases hbs
    | cons b bs => cases hbs; simp
  unfold readLine at h
  split at h
  · next later hd =>
    cases h
    have := congrArg List.length (List.takeWhile_append_dropWhile (p := (· != newline))
      (l := input.bytes))
    rw [hd, List.length_append, List.length_cons] at this
    simp only
    omega
  · split at h
    · exact last _ h
    · split at h
      · exact last _ h
      · cases h

end Input
end LineShell
