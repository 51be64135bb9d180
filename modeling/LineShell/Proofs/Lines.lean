/-
  LineShell.Proofs.Lines

  The lines of an input, all at once.

  `Input.lines` cuts the bytes at every newline. What follows the last newline is a line
  only if it is not empty, and only if the end of the input is really reached: where the
  read behind it fails, it is the beginning of a line that is never known in full. The
  lemmas tie this to `Input.readLine`, which takes one line at a time: each reading is the
  first of the lines, and leaves the others.
-/
import LineShell.Input
import LineShell.Text.Fields

namespace LineShell

/-! ## Segments, from the left -/

namespace Text

variable {α : Type} [DecidableEq α]

/-- Without a separator, a list is its only segment. -/
theorem segments_of_dropWhile_nil {separator : α} {as : List α}
    (h : as.dropWhile (· != separator) = []) : segments separator as = [as] := by
  induction as with
  | nil => rfl
  | cons a as ih =>
    rw [List.dropWhile_cons] at h
    by_cases ha : a = separator
    · simp [ha] at h
    · rw [if_pos (by simpa using ha)] at h
      rw [segments, if_neg ha, ih h]

/-- The first segment ends at the first separator. -/
theorem segments_of_dropWhile_cons {separator b : α} {as rest : List α}
    (h : as.dropWhile (· != separator) = b :: rest) :
    segments separator as = as.takeWhile (· != separator) :: segments separator rest := by
  induction as with
  | nil => simp at h
  | cons a as ih =>
    rw [List.dropWhile_cons] at h
    by_cases ha : a = separator
    · rw [if_neg (by simp [ha])] at h
      cases h
      rw [segments, if_pos ha, List.takeWhile_cons, if_neg (by simp [ha])]
    · rw [if_pos (by simpa using ha)] at h
      rw [segments, if_neg ha, ih h, List.takeWhile_cons, if_pos (by simpa using ha)]

/-- There is always a segment. -/
theorem segments_ne_nil (separator : α) (as : List α) : segments separator as ≠ [] := by
  intro h
  have hlen := length_segments separator as
  rw [h] at hlen
  simp at hlen

/-- A separator keeps the segments before it apart from those behind it. -/
theorem segments_append_cons (separator : α) (as bs : List α) :
    segments separator (as ++ separator :: bs)
      = segments separator as ++ segments separator bs := by
  induction as with
  | nil => simp [segments]
  | cons a as ih =>
    rw [List.cons_append, segments, segments]
    by_cases ha : a = separator
    · rw [if_pos ha, if_pos ha, ih, List.cons_append]
    · rw [if_neg ha, if_neg ha, ih]
      -- The element joins the first segment, which stands before the separator.
      cases hs : segments separator as with
      | nil => exact absurd hs (segments_ne_nil separator as)
      | cons segment later => rfl

end Text

namespace Input

/-! ## All lines -/

/-- The failure that ends the reading, if there is one. An interruption does not. -/
def breakage (input : Input) : Option IoError :=
  input.failure.filter fun error => error.kind ≠ .interrupted

/-- A failed read breaks the input off, unless it was only interrupted. -/
theorem breakage_of_failure (bytes : Bytes) (error : IoError) :
    breakage ⟨bytes, some error⟩
      = if error.kind = .interrupted then none else some error := by
  show (some error).filter (fun error => error.kind ≠ .interrupted) = _
  rw [Option.filter_some]
  by_cases hkind : error.kind = .interrupted <;> simp [hkind]

/-- The lines that a newline ends. -/
def endedLines (bytes : Bytes) : List Bytes := (Text.segments newline bytes).dropLast

/-- What follows the last newline, as a line, if it is not empty. -/
def openLine (bytes : Bytes) : List Bytes :=
  (Text.segments newline bytes).getLast?.toList.filter (· ≠ [])

/-- The lines of an input. -/
def lines (input : Input) : List Bytes :=
  match input.breakage with
  | none => endedLines input.bytes ++ openLine input.bytes
  | some _ => endedLines input.bytes

/-! ## Line by line -/

variable {input rest : Input} {bytes : Bytes} {error : IoError}

theorem endedLines_of_dropWhile_nil {bytes : Bytes}
    (h : bytes.dropWhile (· != newline) = []) : endedLines bytes = [] := by
  rw [endedLines, Text.segments_of_dropWhile_nil h]
  rfl

theorem endedLines_of_dropWhile_cons {bytes later : Bytes} {b : UInt8}
    (h : bytes.dropWhile (· != newline) = b :: later) :
    endedLines bytes = bytes.takeWhile (· != newline) :: endedLines later := by
  rw [endedLines, Text.segments_of_dropWhile_cons h,
    List.dropLast_cons_of_ne_nil (Text.segments_ne_nil _ _)]
  rfl

theorem openLine_of_dropWhile_nil {bytes : Bytes}
    (h : bytes.dropWhile (· != newline) = []) : openLine bytes = [bytes].filter (· ≠ []) := by
  rw [openLine, Text.segments_of_dropWhile_nil h]
  rfl

theorem openLine_of_dropWhile_cons {bytes later : Bytes} {b : UInt8}
    (h : bytes.dropWhile (· != newline) = b :: later) :
    openLine bytes = openLine later := by
  rw [openLine, Text.segments_of_dropWhile_cons h, List.getLast?_cons]
  cases hs : Text.segments newline later with
  | nil => exact absurd hs (Text.segments_ne_nil _ _)
  | cons segment segments =>
    rw [openLine, hs, List.getLast?_eq_some_getLast (List.cons_ne_nil _ _)]
    rfl

/-- Reading, once no newline is left: the open line, if the end of the input is reached. -/
theorem readLine_of_dropWhile_nil (h : input.bytes.dropWhile (· != newline) = []) :
    input.readLine
      = match input.breakage with
        | none => lastLine input.bytes
        | some error => .failed error := by
  rcases input with ⟨bytes, _ | error⟩
  · unfold readLine
    rw [h]
    rfl
  · rw [breakage_of_failure]
    unfold readLine
    rw [h]
    by_cases hkind : error.kind = .interrupted <;> simp [hkind]

/-- A line that is read is the first of the lines, and the others are left. -/
theorem lines_of_line (h : input.readLine = .line bytes rest) :
    input.lines = bytes :: rest.lines ∧ rest.breakage = input.breakage := by
  cases hd : input.bytes.dropWhile (· != newline) with
  | cons b later =>
    -- A newline is found: the line before it is an ended one.
    unfold readLine at h
    rw [hd] at h
    cases h
    refine ⟨?_, rfl⟩
    unfold lines
    rw [endedLines_of_dropWhile_cons hd, openLine_of_dropWhile_cons hd]
    show (match input.breakage with | none => _ | some _ => _)
      = _ :: (match input.breakage with | none => _ | some _ => _)
    cases input.breakage <;> rfl
  | nil =>
    -- No newline is left: the line is the open one, and the input ends with it.
    rw [readLine_of_dropWhile_nil hd] at h
    cases hb : input.breakage with
    | some error =>
      rw [hb] at h
      cases h
    | none =>
      rw [hb] at h
      simp only [lastLine] at h
      split at h
      · cases h
      · next b bs hbytes =>
        cases h
        refine ⟨?_, rfl⟩
        rw [lines, hb, endedLines_of_dropWhile_nil hd, openLine_of_dropWhile_nil hd, hbytes]
        rfl

/-- At the end of the input no line is left, and nothing has failed. -/
theorem lines_of_ended (h : input.readLine = .ended) :
    input.lines = [] ∧ input.breakage = none := by
  cases hd : input.bytes.dropWhile (· != newline) with
  | cons b later =>
    unfold readLine at h
    rw [hd] at h
    cases h
  | nil =>
    rw [readLine_of_dropWhile_nil hd] at h
    cases hb : input.breakage with
    | some error =>
      rw [hb] at h
      cases h
    | none =>
      rw [hb] at h
      -- What no newline ends would be a last line if it held any byte.
      simp only [lastLine] at h
      split at h
      · next hbytes =>
        refine ⟨?_, rfl⟩
        rw [lines, hb, endedLines_of_dropWhile_nil hd, openLine_of_dropWhile_nil hd, hbytes]
        rfl
      · cases h

/-- Where a read fails, no line is left. -/
theorem lines_of_failed (h : input.readLine = .failed error) :
    input.lines = [] ∧ input.breakage = some error := by
  cases hd : input.bytes.dropWhile (· != newline) with
  | cons b later =>
    unfold readLine at h
    rw [hd] at h
    cases h
  | nil =>
    rw [readLine_of_dropWhile_nil hd] at h
    cases hb : input.breakage with
    | some failure =>
      rw [hb] at h
      cases h
      refine ⟨?_, rfl⟩
      rw [lines, hb, endedLines_of_dropWhile_nil hd]
    | none =>
      rw [hb] at h
      simp only [lastLine] at h
      split at h <;> cases h

/-- Where a line is left, it is read. -/
theorem readLine_of_cons {later : List Bytes} (h : input.lines = bytes :: later) :
    ∃ rest, input.readLine = .line bytes rest := by
  cases hr : input.readLine with
  | line first rest =>
    rw [(lines_of_line hr).1] at h
    cases h
    exact ⟨rest, rfl⟩
  | ended =>
    rw [(lines_of_ended hr).1] at h
    cases h
  | failed error =>
    rw [(lines_of_failed hr).1] at h
    cases h

/-- Where no line is left, the reading ends or fails. -/
theorem readLine_of_nil (h : input.lines = []) :
    input.readLine
      = match input.breakage with
        | none => .ended
        | some error => .failed error := by
  cases hr : input.readLine with
  | line first rest =>
    rw [(lines_of_line hr).1] at h
    cases h
  | ended => rw [(lines_of_ended hr).2]
  | failed error => rw [(lines_of_failed hr).2]

/-! ## One input behind another -/

/-- Bytes that end where a line ends. -/
def Whole (bytes : Bytes) : Prop := bytes = [] ∨ bytes.getLast? = some newline

/-- The input with bytes in front of it. -/
def prepend (first : Bytes) (input : Input) : Input :=
  { input with bytes := first ++ input.bytes }

theorem endedLines_append {first : Bytes} (h : Whole first) (second : Bytes) :
    endedLines (first ++ second) = endedLines first ++ endedLines second := by
  rcases h with rfl | hlast
  · rfl
  · obtain ⟨lines, rfl⟩ := List.getLast?_eq_some_iff.mp hlast
    have hfirst : endedLines (lines ++ [newline]) = Text.segments newline lines := by
      rw [endedLines, Text.segments_append_cons]
      exact List.dropLast_concat
    rw [hfirst, List.append_assoc, List.singleton_append, endedLines,
      Text.segments_append_cons, List.dropLast_append_of_ne_nil (Text.segments_ne_nil _ _)]
    rfl

theorem openLine_append {first : Bytes} (h : Whole first) (second : Bytes) :
    openLine (first ++ second) = openLine second := by
  rcases h with rfl | hlast
  · rfl
  · obtain ⟨lines, rfl⟩ := List.getLast?_eq_some_iff.mp hlast
    rw [List.append_assoc, List.singleton_append, openLine, Text.segments_append_cons,
      List.getLast?_append, openLine,
      List.getLast?_eq_some_getLast (Text.segments_ne_nil newline second)]
    rfl

/-- Bytes that end where a line ends have no open line. -/
theorem openLine_of_whole (h : Whole bytes) : openLine bytes = [] := by
  have hopen := openLine_append h []
  rwa [List.append_nil] at hopen

end Input
end LineShell
