/-
  LineShell.Proofs.Words

  A line is words and gaps, and there is one way only to read it so.

  `Text.Divides` says of any list, and of a class of separators, that the list is made of
  given words: a gap, a word, a gap, and so on to a last gap, where words hold no separator,
  gaps hold nothing else, and no gap between two words is empty. `Text.fields` finds such
  words (`divides_fields`), and no other list of words will do (`fields_of_divides`). It is
  also what is left of the pieces between any two separators if the empty ones are dropped
  (`fields_eq_splitOnP`). All this goes by pieces (`pieces_induction`): a list holds no
  separator, or it is a piece without one, a separator and a rest. The main statement says
  it of the words of a command line.
-/
import LineShell.Line

namespace LineShell

namespace Text

variable {α : Type} {isSeparator : α → Bool} {a : α} {as word : List α}
  {words : List (List α)}

/-! ## Piece by piece -/

/-- What holds of a list without separators, and of a piece, a separator and a rest whenever
    it holds of the rest, holds of every list. -/
theorem pieces_induction {motive : List α → Prop} (isSeparator : α → Bool)
    (whole : ∀ word, (∀ b ∈ word, isSeparator b = false) → motive word)
    (cut : ∀ word a as, (∀ b ∈ word, isSeparator b = false) → isSeparator a = true →
      motive as → motive (word ++ a :: as))
    (as : List α) : motive as := by
  -- The induction carries the piece that has begun, as the reading of a list does.
  have hbegun : ∀ word, (∀ b ∈ word, isSeparator b = false) → motive (word ++ as) := by
    induction as with
    | nil =>
      intro word hword
      rw [List.append_nil]
      exact whole word hword
    | cons a as ih =>
      intro word hword
      cases ha : isSeparator a with
      | true => exact cut word a as hword ha (ih [] (List.forall_mem_nil _))
      | false =>
        have hmore : ∀ b ∈ word ++ [a], isSeparator b = false := by
          intro b hb
          rcases List.mem_append.mp hb with hold | hnew
          · exact hword b hold
          · rw [List.mem_singleton.mp hnew]
            exact ha
        rw [List.append_cons]
        exact ih (word ++ [a]) hmore
  exact hbegun [] (List.forall_mem_nil _)

theorem closeRun_eq (run : List α) (later : List (List α)) :
    closeRun run later = [run.reverse].filter (!·.isEmpty) ++ later := by
  cases run with
  | nil => rfl
  | cons a run => simp [closeRun]

theorem fieldsAfter_append (hword : ∀ b ∈ word, isSeparator b = false) (run as : List α) :
    fieldsAfter isSeparator run (word ++ as)
      = fieldsAfter isSeparator (word.reverse ++ run) as := by
  -- Every element of the word lengthens the run, which is held last element first.
  induction word generalizing run with
  | nil => rfl
  | cons a word ih =>
    obtain ⟨ha, hlater⟩ := List.forall_mem_cons.mp hword
    rw [List.cons_append, fieldsAfter, if_neg (by rw [ha]; exact Bool.false_ne_true), ih hlater,
      List.reverse_cons, List.append_assoc, List.singleton_append]

theorem fields_of_free (hword : ∀ b ∈ word, isSeparator b = false) :
    fields isSeparator word = [word].filter (!·.isEmpty) := by
  have happend := fieldsAfter_append hword [] []
  rw [List.append_nil, List.append_nil] at happend
  rw [fields, happend, fieldsAfter, closeRun_eq, List.reverse_reverse, List.append_nil]

theorem fields_cut (hword : ∀ b ∈ word, isSeparator b = false) (ha : isSeparator a = true)
    (as : List α) :
    fields isSeparator (word ++ a :: as)
      = [word].filter (!·.isEmpty) ++ fields isSeparator as := by
  rw [fields, fieldsAfter_append hword, List.append_nil, fieldsAfter, if_pos ha, closeRun_eq,
    List.reverse_reverse, fields]

/-- The words are the pieces between the separators that are not empty. -/
theorem fields_eq_splitOnP (isSeparator : α → Bool) (as : List α) :
    fields isSeparator as = (as.splitOnP isSeparator).filter (!·.isEmpty) := by
  induction as using pieces_induction isSeparator with
  | whole word hword => rw [fields_of_free hword, List.splitOnP_eq_singleton hword]
  | cut word a as hword ha ih =>
    rw [fields_cut hword ha, List.splitOnP_append_cons_of_forall_mem hword a ha, ih,
      ← List.filter_append, List.singleton_append]

theorem flatten_fields (isSeparator : α → Bool) (as : List α) :
    (fields isSeparator as).flatten = as.filter (!isSeparator ·) := by
  -- A piece that is dropped is empty, so it holds no element that could be missed.
  have hpiece : ∀ word : List α, (∀ b ∈ word, isSeparator b = false) →
      ([word].filter (!·.isEmpty)).flatten = word.filter (!isSeparator ·) := by
    intro word hword
    have hself : word.filter (!isSeparator ·) = word :=
      List.filter_eq_self.mpr fun b hb => by rw [hword b hb]; rfl
    rw [hself]
    cases word <;> simp
  induction as using pieces_induction isSeparator with
  | whole word hword => rw [fields_of_free hword, hpiece word hword]
  | cut word a as hword ha ih =>
    rw [fields_cut hword ha, List.flatten_append, hpiece word hword, ih, List.filter_append,
      List.filter_cons_of_neg (by rw [ha]; exact Bool.false_ne_true)]

/-! ## Words and gaps -/

/-- A list is made of words and of gaps around them: a first gap, and then each word with
    the gap behind it. Only the first gap and the last may be empty. -/
structure Divides (isSeparator : α → Bool) (as : List α) (words : List (List α)) : Prop where
  nonempty : ∀ word ∈ words, word ≠ []
  free : ∀ word ∈ words, ∀ b ∈ word, isSeparator b = false
  gaps : ∃ (first : List α) (behind : List (List α)), behind.length = words.length
    ∧ (∀ gap ∈ first :: behind, ∀ b ∈ gap, isSeparator b = true)
    ∧ (∀ gap ∈ behind.dropLast, gap ≠ [])
    ∧ as = first ++ (List.zipWith (· ++ ·) words behind).flatten

namespace Divides

theorem nil : Divides isSeparator [] [] :=
  ⟨List.forall_mem_nil _, List.forall_mem_nil _, [], [], rfl, by simp, by simp, rfl⟩

theorem last (hne : word ≠ []) (hword : ∀ b ∈ word, isSeparator b = false) :
    Divides isSeparator word [word] where
  nonempty := by simpa using hne
  free := by simpa using hword
  -- Before the word and behind it there is a gap all the same, an empty one.
  gaps := ⟨[], [[]], rfl, by simp, by simp, by simp⟩

theorem separator (ha : isSeparator a = true) (h : Divides isSeparator as words) :
    Divides isSeparator (a :: as) words := by
  obtain ⟨nonempty, free, first, behind, hlength, hgaps, hbetween, rfl⟩ := h
  obtain ⟨hfirst, hbehind⟩ := List.forall_mem_cons.mp hgaps
  -- The separator lengthens the first gap.
  refine ⟨nonempty, free, a :: first, behind, hlength, ?_, hbetween, rfl⟩
  exact List.forall_mem_cons.mpr ⟨List.forall_mem_cons.mpr ⟨ha, hfirst⟩, hbehind⟩

/-- A word in front makes a gap behind it of the gap that was the first. -/
theorem cons (hne : word ≠ []) (hword : ∀ b ∈ word, isSeparator b = false)
    (ha : isSeparator a = true) (h : Divides isSeparator as words) :
    Divides isSeparator (word ++ a :: as) (word :: words) := by
  obtain ⟨nonempty, free, first, behind, hlength, hgaps, hbetween, rfl⟩ := h
  obtain ⟨hfirst, hbehind⟩ := List.forall_mem_cons.mp hgaps
  refine ⟨List.forall_mem_cons.mpr ⟨hne, nonempty⟩, List.forall_mem_cons.mpr ⟨hword, free⟩,
    [], (a :: first) :: behind, by simpa using hlength, ?_, ?_, by simp⟩
  · exact List.forall_mem_cons.mpr ⟨List.forall_mem_nil _,
      List.forall_mem_cons.mpr ⟨List.forall_mem_cons.mpr ⟨ha, hfirst⟩, hbehind⟩⟩
  · -- The new gap stands between two words, or it is the last one.
    cases behind with
    | nil => exact List.forall_mem_nil _
    | cons gap behind =>
      rw [List.dropLast_cons_of_ne_nil (List.cons_ne_nil gap behind)]
      exact List.forall_mem_cons.mpr ⟨List.cons_ne_nil a first, hbetween⟩

/-- In front of a first word stands a gap. Behind it stands nothing, and it is the last one,
    or a separator stands there, and the other words make what follows. -/
theorem of_cons (h : Divides isSeparator as (word :: words)) :
    word ≠ [] ∧ (∀ b ∈ word, isSeparator b = false)
      ∧ ∃ first rest, (∀ b ∈ first, isSeparator b = true) ∧ as = first ++ (word ++ rest)
        ∧ ((rest = [] ∧ words = [])
          ∨ ∃ a later, rest = a :: later ∧ isSeparator a = true
            ∧ Divides isSeparator later words) := by
  obtain ⟨nonempty, free, first, behind, hlength, hgaps, hbetween, rfl⟩ := h
  obtain ⟨hne, hlaterNe⟩ := List.forall_mem_cons.mp nonempty
  obtain ⟨hword, hlaterFree⟩ := List.forall_mem_cons.mp free
  obtain ⟨hfirst, hbehind⟩ := List.forall_mem_cons.mp hgaps
  cases behind with
  | nil => cases hlength
  | cons gap behind =>
    obtain ⟨hgap, hrest⟩ := List.forall_mem_cons.mp hbehind
    rw [List.length_cons, List.length_cons, Nat.add_right_cancel_iff] at hlength
    refine ⟨hne, hword, first, gap ++ (List.zipWith (· ++ ·) words behind).flatten, hfirst,
      by simp, ?_⟩
    cases gap with
    | nil =>
      -- An empty gap is the last one, so no word follows it.
      have hlast : behind = [] := by
        cases behind with
        | nil => rfl
        | cons next behind => exact absurd rfl (hbetween [] List.mem_cons_self)
      rw [hlast, List.length_nil] at hlength
      rw [List.length_eq_zero_iff.mp hlength.symm]
      exact .inl ⟨rfl, rfl⟩
    | cons a gap =>
      obtain ⟨ha, hgap⟩ := List.forall_mem_cons.mp hgap
      have hlaterBetween : ∀ gap ∈ behind.dropLast, gap ≠ [] := by
        intro other hother
        cases behind with
        | nil => cases hother
        | cons next behind => exact hbetween other (List.mem_cons_of_mem _ hother)
      exact .inr ⟨a, _, rfl, ha, hlaterNe, hlaterFree, gap, behind, hlength,
        List.forall_mem_cons.mpr ⟨hgap, hrest⟩, hlaterBetween, rfl⟩

theorem of_nil (h : Divides isSeparator as []) : ∀ b ∈ as, isSeparator b = true := by
  obtain ⟨-, -, first, behind, -, hgaps, -, rfl⟩ := h
  rw [List.zipWith_nil_left, List.flatten_nil, List.append_nil]
  exact hgaps first List.mem_cons_self

end Divides

/-- Every list is made of its words. -/
theorem divides_fields (isSeparator : α → Bool) (as : List α) :
    Divides isSeparator as (fields isSeparator as) := by
  induction as using pieces_induction isSeparator with
  | whole word hword =>
    rw [fields_of_free hword]
    cases word with
    | nil => exact .nil
    | cons b word => exact .last (List.cons_ne_nil b word) hword
  | cut word a as hword ha ih =>
    rw [fields_cut hword ha]
    cases word with
    | nil => exact .separator ha ih
    | cons b word => exact .cons (List.cons_ne_nil b word) hword ha ih

theorem fields_gap_append {gap : List α} (hgap : ∀ b ∈ gap, isSeparator b = true)
    (as : List α) : fields isSeparator (gap ++ as) = fields isSeparator as := by
  induction gap with
  | nil => rfl
  | cons a gap ih =>
    obtain ⟨ha, hlater⟩ := List.forall_mem_cons.mp hgap
    -- A cut at the very first element leaves an empty piece, which is no word.
    have hcut := fields_cut (List.forall_mem_nil _) ha (gap ++ as)
    rw [List.cons_append, ← List.nil_append (a :: (gap ++ as)), hcut, ih hlater]
    rfl

/-- A list is made of no other words than its own. -/
theorem fields_of_divides (h : Divides isSeparator as words) :
    fields isSeparator as = words := by
  induction words generalizing as with
  | nil =>
    have hgap := fields_gap_append h.of_nil []
    rw [List.append_nil] at hgap
    exact hgap
  | cons word words ih =>
    -- The first gap brings no word, so the given first word is the first one that is found.
    obtain ⟨hne, hword, first, rest, hfirst, rfl, hrest⟩ := h.of_cons
    have hkept : [word].filter (!·.isEmpty) = [word] := by simpa using hne
    rw [fields_gap_append hfirst]
    rcases hrest with ⟨rfl, rfl⟩ | ⟨a, later, rfl, ha, hlater⟩
    · rw [List.append_nil, fields_of_free hword, hkept]
    · rw [fields_cut hword ha, hkept, ih hlater, List.singleton_append]

end Text

/-! ## The words of a line -/

namespace Line

/-- **A line and its words.** A line is made of words and of gaps around them in exactly one
    way: its words are not empty and free of blanks, tabs, carriage returns and newlines,
    the gaps are made of these alone, and two words never stand without a gap between them.
    So the words are the pieces between the delimiters, without the empty ones, and they
    hold all characters of the line that are no delimiters, in their order. -/
theorem tokens_eq_iff (line : String) (words : List String) :
    (tokens line = words
        ↔ Text.Divides isDelimiter line.toList (words.map String.toList))
      ∧ tokens line
        = ((line.toList.splitOnP isDelimiter).filter (!·.isEmpty)).map String.ofList
      ∧ (tokens line).flatMap String.toList = line.toList.filter (!isDelimiter ·)
      ∧ ∀ c, isDelimiter c = true ↔ c = ' ' ∨ c = '\t' ∨ c = '\r' ∨ c = '\n' := by
  have hchars : (tokens line).map String.toList = Text.fields isDelimiter line.toList := by
    rw [tokens, List.map_map]
    exact (List.map_congr_left fun _ _ => String.toList_ofList).trans (List.map_id _)
  refine ⟨?_, ?_, ?_, ?_⟩
  · constructor
    · rintro rfl
      rw [hchars]
      exact Text.divides_fields isDelimiter line.toList
    · intro h
      have hwords := Text.fields_of_divides h
      rw [← hchars] at hwords
      exact (List.map_inj_right fun _ _ => String.toList_inj.mp).mp hwords
  · rw [tokens, Text.fields_eq_splitOnP]
  · rw [List.flatMap_def, hchars, Text.flatten_fields]
  · intro c
    simp [isDelimiter, delimiters]

/-- A gap may be of any length, and no character but a delimiter ends a word. -/
example : tokens " \t ls  -l\r\n" = ["ls", "-l"] := by decide

end Line
end LineShell
