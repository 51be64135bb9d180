/-
  LineShell.Proofs.ByteWords

  The words of a line, found in its bytes.

  A line is read as bytes, decoded, and then cut at the delimiters. Since these are ASCII,
  the cuts can be made in the bytes as well, before anything is decoded
  (`splitOnP_decodeChars`): a delimiter byte stands for itself wherever it is, and no other
  byte comes to a delimiter. The main statement says so of words. Each word is decoded on
  its own, and what stands on one side of a delimiter byte has no part in the words on its
  other side, however broken the bytes are.
-/
import LineShell.Proofs.Decoding
import LineShell.Proofs.Words

namespace LineShell.Line

/-- The bytes that separate words: blank, tab, carriage return and newline. -/
def delimiterBytes : Bytes := [0x20, 0x09, 0x0D, 0x0A]

/-- Whether a byte separates words. -/
def isDelimiterByte (b : UInt8) : Bool := delimiterBytes.contains b

/-- The words of some bytes: they are cut at every delimiter byte, and empty pieces are
    dropped. -/
def byteWords (bytes : Bytes) : List Bytes :=
  (bytes.splitOnP isDelimiterByte).filter (!·.isEmpty)

variable {b : UInt8} {bytes word : Bytes}

/-! ## Delimiters as characters and as bytes -/

theorem delimiters_eq : delimiters = delimiterBytes.map fun b => Char.ofNat b.toNat := by decide

theorem ascii_of_isDelimiterByte (h : isDelimiterByte b = true) : b.toNat < 0x80 := by
  have hall : (delimiterBytes.all fun b => b.toNat < 0x80) = true := by decide
  exact of_decide_eq_true (List.all_eq_true.mp hall b (List.contains_iff_mem.mp h))

theorem isDelimiter_of_isDelimiterByte (h : isDelimiterByte b = true) :
    isDelimiter (Char.ofNat b.toNat) = true := by
  rw [isDelimiter, List.contains_iff_mem, delimiters_eq]
  exact List.mem_map.mpr ⟨b, List.contains_iff_mem.mp h, rfl⟩

theorem exists_delimiterByte {c : Char} (h : isDelimiter c = true) :
    ∃ b, isDelimiterByte b = true ∧ c = Char.ofNat b.toNat := by
  rw [isDelimiter, List.contains_iff_mem, delimiters_eq] at h
  obtain ⟨b, hb, rfl⟩ := List.mem_map.mp h
  exact ⟨b, List.contains_iff_mem.mpr hb, rfl⟩

/-- Bytes without a delimiter byte are read as a text without a delimiter. -/
theorem isDelimiter_of_mem_decodeChars (hword : ∀ b ∈ word, isDelimiterByte b = false) :
    ∀ c ∈ Utf8.decodeChars word, isDelimiter c = false := by
  intro c hc
  cases hdelimiter : isDelimiter c with
  | false => rfl
  | true =>
    -- An ASCII character of the text is one of the bytes.
    obtain ⟨b, hb, rfl⟩ := exists_delimiterByte hdelimiter
    have hmem := (Utf8.mem_decodeChars_iff (ascii_of_isDelimiterByte hb)).mp hc
    rw [hword b hmem] at hb
    cases hb

/-! ## Cut, then decoded -/

/-- Cutting at the delimiters and decoding can be done in either order. -/
theorem splitOnP_decodeChars (bytes : Bytes) :
    (Utf8.decodeChars bytes).splitOnP isDelimiter
      = (bytes.splitOnP isDelimiterByte).map Utf8.decodeChars := by
  induction bytes using Text.pieces_induction isDelimiterByte with
  | whole word hword =>
    rw [List.splitOnP_eq_singleton hword,
      List.splitOnP_eq_singleton (isDelimiter_of_mem_decodeChars hword)]
    rfl
  | cut word b later hword hb ih =>
    rw [Utf8.decodeChars_append_cons word (ascii_of_isDelimiterByte hb),
      List.splitOnP_append_cons_of_forall_mem (isDelimiter_of_mem_decodeChars hword) _
        (isDelimiter_of_isDelimiterByte hb),
      List.splitOnP_append_cons_of_forall_mem hword b hb, ih, List.map_cons]

theorem filter_map_decodeChars (pieces : List Bytes) :
    (pieces.map Utf8.decodeChars).filter (!·.isEmpty)
      = (pieces.filter (!·.isEmpty)).map Utf8.decodeChars := by
  -- Every byte leaves a character, be it U+FFFD, so no piece becomes empty.
  have hempty : ∀ piece : Bytes, (Utf8.decodeChars piece).isEmpty = piece.isEmpty := by
    intro piece
    rw [Bool.eq_iff_iff, List.isEmpty_iff, List.isEmpty_iff, Utf8.decodeChars_eq_nil_iff]
  rw [List.filter_map]
  congr 2
  funext piece
  simp only [Function.comp_apply, hempty]

/-- The delimiters of a text are the delimiter bytes it was read from. -/
theorem filter_decodeChars (bytes : Bytes) :
    (Utf8.decodeChars bytes).filter isDelimiter
      = (bytes.filter isDelimiterByte).map fun b => Char.ofNat b.toNat := by
  -- A piece between delimiters has none of them, neither as bytes nor as a text.
  have hnone : ∀ word : Bytes, (∀ b ∈ word, isDelimiterByte b = false) →
      (Utf8.decodeChars word).filter isDelimiter = [] ∧ word.filter isDelimiterByte = [] := by
    intro word hword
    refine ⟨List.filter_eq_nil_iff.mpr ?_, List.filter_eq_nil_iff.mpr ?_⟩
    · intro c hc
      rw [isDelimiter_of_mem_decodeChars hword c hc]
      exact Bool.false_ne_true
    · intro b hb
      rw [hword b hb]
      exact Bool.false_ne_true
  induction bytes using Text.pieces_induction isDelimiterByte with
  | whole word hword =>
    rw [(hnone word hword).1, (hnone word hword).2]
    rfl
  | cut word b later hword hb ih =>
    rw [Utf8.decodeChars_append_cons word (ascii_of_isDelimiterByte hb), List.filter_append,
      List.filter_append, (hnone word hword).1, (hnone word hword).2, List.nil_append,
      List.nil_append, List.filter_cons_of_pos (isDelimiter_of_isDelimiterByte hb),
      List.filter_cons_of_pos hb, List.map_cons, ih]

/-- **Words of bytes.** The words of a decoded line are the words of its bytes, each decoded
    on its own. These are the only words that the bytes are made of with gaps of delimiter
    bytes between them. The delimiters of the decoded line are its delimiter bytes, so that
    none is lost and none comes up. And a delimiter byte keeps apart what stands on its two
    sides: the words are those of the one side and then those of the other. -/
theorem tokens_decodeLossy (bytes : Bytes) :
    tokens (Utf8.decodeLossy bytes) = (byteWords bytes).map Utf8.decodeLossy
      ∧ (∀ words, Text.Divides isDelimiterByte bytes words ↔ words = byteWords bytes)
      ∧ (Utf8.decodeLossy bytes).toList.filter isDelimiter
        = (bytes.filter isDelimiterByte).map (fun b => Char.ofNat b.toNat)
      ∧ ∀ before b after, bytes = before ++ b :: after → isDelimiterByte b = true →
        tokens (Utf8.decodeLossy bytes)
          = tokens (Utf8.decodeLossy before) ++ tokens (Utf8.decodeLossy after) := by
  have htokens : ∀ bytes,
      tokens (Utf8.decodeLossy bytes) = (byteWords bytes).map Utf8.decodeLossy := by
    intro bytes
    rw [tokens, Utf8.toList_decodeLossy, Text.fields_eq_splitOnP, splitOnP_decodeChars,
      filter_map_decodeChars, List.map_map]
    rfl
  refine ⟨htokens bytes, ?_, ?_, ?_⟩
  · intro words
    rw [byteWords, ← Text.fields_eq_splitOnP]
    constructor
    · intro h
      exact (Text.fields_of_divides h).symm
    · rintro rfl
      exact Text.divides_fields isDelimiterByte bytes
  · rw [Utf8.toList_decodeLossy, filter_decodeChars]
  · rintro before b after rfl hb
    rw [htokens, htokens, htokens, ← List.map_append, byteWords, byteWords, byteWords,
      List.splitOnP_append_cons before after hb, List.filter_append]

/-- A sequence that a blank cuts off is one gap in its own word, and an overlong blank is no
    delimiter. -/
example : tokens (Utf8.decodeLossy [0xE2, 0x82, 0x20, 0x61, 0xC0, 0xA0])
    = ["\uFFFD", "a\uFFFD\uFFFD"] := by decide

end LineShell.Line
