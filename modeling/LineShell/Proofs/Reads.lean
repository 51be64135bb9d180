/-
  LineShell.Proofs.Reads

  An input as a sequence of reads.

  A stream is read in chunks of any size, and any of the reads may fail. `Input.readUntil`
  looks for the end of a line as a buffered reader does: it holds what came before, tries
  again after an interruption and gives up at any other failure. The main statement is that
  this reads the lines of `Input.ofReads`, which keeps of all reads the bytes up to the
  first failure that counts, and this failure. So an `Input` stands for every pattern of
  reads, and neither the size of the chunks nor an interruption leaves a trace.
-/
import LineShell.Proofs.Lines

namespace LineShell.Input

/-- What one read comes to. -/
inductive Read where
  /-- Some bytes. -/
  | bytes (chunk : Bytes)
  /-- A failure. -/
  | fails (error : IoError)
  deriving DecidableEq, Repr

/-- The failure of a read, unless it was only interrupted. -/
def Read.breaks? : Read → Option IoError
  | bytes _ => none
  | fails error => if error.kind = .interrupted then none else some error

/-- The input that reads amount to. -/
def ofReads : List Read → Input
  | [] => ⟨[], none⟩
  | .bytes chunk :: later => { ofReads later with bytes := chunk ++ (ofReads later).bytes }
  | .fails error :: later =>
    if error.kind = .interrupted then ofReads later else ⟨[], some error⟩

/-- Reads on to the end of the line whose first bytes are held. -/
def readUntil (held : Bytes) : List Read → Reading
  | [] => lastLine held
  | .bytes chunk :: later =>
    match chunk.dropWhile (· != newline) with
    | [] => readUntil (held ++ chunk) later
    | _ :: rest =>
      .line (held ++ chunk.takeWhile (· != newline)) (ofReads (.bytes rest :: later))
  | .fails error :: later =>
    if error.kind = .interrupted then readUntil held later else .failed error

/-- Bytes without a newline are passed over in the search for one. -/
theorem search_of_held {held : Bytes} (h : newline ∉ held) (bytes : Bytes) :
    (held ++ bytes).dropWhile (· != newline) = bytes.dropWhile (· != newline)
      ∧ (held ++ bytes).takeWhile (· != newline) = held ++ bytes.takeWhile (· != newline) := by
  have hall : ∀ b ∈ held, (b != newline) = true := by
    intro b hb
    have hne : b ≠ newline := fun heq => h (heq ▸ hb)
    simpa using hne
  exact ⟨List.dropWhile_append_of_pos hall, List.takeWhile_append_of_pos hall⟩

/-- A chunk with a newline ends the search, whatever follows it. -/
theorem search_of_found {chunk rest : Bytes} {b : UInt8}
    (h : chunk.dropWhile (· != newline) = b :: rest) (bytes : Bytes) :
    (chunk ++ bytes).dropWhile (· != newline) = b :: (rest ++ bytes)
      ∧ (chunk ++ bytes).takeWhile (· != newline) = chunk.takeWhile (· != newline) := by
  -- What is taken is shorter than the chunk, so the search ends inside it.
  have hlen := congrArg List.length
    (List.takeWhile_append_dropWhile (p := (· != newline)) (l := chunk))
  rw [h, List.length_append, List.length_cons] at hlen
  constructor
  · rw [List.dropWhile_append, h]
    rfl
  · rw [List.takeWhile_append, if_neg (by omega)]

theorem newline_notMem_of_dropWhile_nil {chunk : Bytes}
    (h : chunk.dropWhile (· != newline) = []) : newline ∉ chunk := by
  have hwhole := List.takeWhile_append_dropWhile (p := (· != newline)) (l := chunk)
  rw [h, List.append_nil] at hwhole
  have hall := List.all_takeWhile (p := (· != newline)) (l := chunk)
  rw [hwhole, List.all_eq_true] at hall
  intro hmem
  simpa using hall newline hmem

/-- The reads behind the held bytes make up the rest of the input. -/
theorem readLine_of_held {held : Bytes} (h : newline ∉ held) (reads : List Read) :
    readLine ⟨held ++ (ofReads reads).bytes, (ofReads reads).failure⟩
      = readUntil held reads := by
  have hnil : ∀ held : Bytes, newline ∉ held → held.dropWhile (· != newline) = [] := by
    intro held h
    have hsearch := (search_of_held h []).1
    rwa [List.append_nil] at hsearch
  -- On the reads; what is held grows by every chunk without a newline.
  induction reads generalizing held with
  | nil =>
    rw [readUntil, ofReads, List.append_nil, readLine_of_dropWhile_nil (hnil held h)]
    rfl
  | cons read reads ih =>
    cases read with
    | fails error =>
      rw [readUntil, ofReads]
      by_cases hkind : error.kind = .interrupted
      · rw [if_pos hkind, if_pos hkind]
        exact ih h
      · rw [if_neg hkind, if_neg hkind, List.append_nil, readLine_of_dropWhile_nil (hnil held h),
          breakage_of_failure, if_neg hkind]
    | bytes chunk =>
      rw [readUntil, ofReads]
      cases hd : chunk.dropWhile (· != newline) with
      | nil =>
        have hboth : newline ∉ held ++ chunk := by
          rw [List.mem_append, not_or]
          exact ⟨h, newline_notMem_of_dropWhile_nil hd⟩
        rw [← ih hboth, List.append_assoc]
      | cons b rest =>
        obtain ⟨hdrop, htake⟩ := search_of_held h (chunk ++ (ofReads reads).bytes)
        obtain ⟨hfound, hline⟩ := search_of_found hd (ofReads reads).bytes
        rw [readLine, hdrop, htake, hfound, hline]
        rfl

/-- **An input stands for every pattern of reads.** -/
theorem readLine_ofReads (reads : List Read) : (ofReads reads).readLine = readUntil [] reads :=
  readLine_of_held List.not_mem_nil reads

/-- What breaks the reading is the first failure that counts. -/
theorem breakage_ofReads (reads : List Read) :
    (ofReads reads).breakage = reads.findSome? Read.breaks? := by
  induction reads with
  | nil => rfl
  | cons read reads ih =>
    cases read with
    | bytes chunk => exact ih
    | fails error =>
      rw [ofReads, List.findSome?_cons, Read.breaks?]
      by_cases hkind : error.kind = .interrupted
      · rw [if_pos hkind, if_pos hkind]
        exact ih
      · rw [if_neg hkind, if_neg hkind, breakage_of_failure, if_neg hkind]

end LineShell.Input
