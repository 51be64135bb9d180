/-
  LineShell.Proofs.Rejoining

  A line, its words, and the line that is made of these words again.

  Words that are joined with single blanks are found again (`Text.divides_intercalate`). So a
  command is the same whether it is given as a line, as the words of this line, or as a line
  that was joined from them. The joined line is the very line that was given just if this one
  is evenly spaced. The proof looks at the pieces between blanks: a blank at an end or next to
  another one leaves an empty piece (`Text.nil_mem_splitOn_iff`), which is no word, and which
  joining the words does not bring back.
-/
import LineShell.Proofs.Command
import LineShell.Proofs.Words

namespace LineShell

namespace Text

variable {α : Type} {isSeparator : α → Bool} {s : α} {as : List α} {words : List (List α)}

/-! ## Joined words -/

/-- Joined words are a list that is made of these words. -/
theorem divides_intercalate (hs : isSeparator s = true) (hne : ∀ word ∈ words, word ≠ [])
    (hfree : ∀ word ∈ words, ∀ b ∈ word, isSeparator b = false) :
    Divides isSeparator ([s].intercalate words) words := by
  induction words with
  | nil => exact .nil
  | cons word words ih =>
    obtain ⟨hword, hlater⟩ := List.forall_mem_cons.mp hne
    obtain ⟨hwordFree, hlaterFree⟩ := List.forall_mem_cons.mp hfree
    cases words with
    | nil =>
      rw [List.intercalate_singleton]
      exact .last hword hwordFree
    | cons next words =>
      rw [List.intercalate_cons_cons, List.append_assoc, List.singleton_append]
      exact .cons hword hwordFree hs (ih hlater hlaterFree)

theorem eq_or_mem_of_mem_intercalate {a : α} (h : a ∈ [s].intercalate words) :
    a = s ∨ ∃ word ∈ words, a ∈ word := by
  induction words with
  | nil => cases h
  | cons word words ih =>
    cases words with
    | nil =>
      rw [List.intercalate_singleton] at h
      exact .inr ⟨word, List.mem_cons_self, h⟩
    | cons next words =>
      rw [List.intercalate_cons_cons, List.append_assoc, List.singleton_append] at h
      rcases List.mem_append.mp h with hfirst | hlater
      · exact .inr ⟨word, List.mem_cons_self, hfirst⟩
      · rcases List.mem_cons.mp hlater with heq | hlater
        · exact .inl heq
        · rcases ih hlater with heq | ⟨other, hother, ha⟩
          · exact .inl heq
          · exact .inr ⟨other, List.mem_cons_of_mem _ hother, ha⟩

/-! ## Empty pieces -/

section
variable [DecidableEq α]

theorem nil_mem_splitOn_iff_tail (s : α) (as : List α) :
    [] ∈ as.splitOn s ↔ as = [] ∨ as.head? = some s ∨ [] ∈ (as.splitOn s).tail := by
  cases as with
  | nil => simp
  | cons a as =>
    rw [List.splitOn_cons_eq_if_modifyHead]
    by_cases ha : a = s
    · simp [ha]
    · obtain ⟨piece, pieces, hpieces⟩ := List.exists_cons_of_ne_nil (List.splitOn_ne_nil s as)
      simp [ha, hpieces]

/-- A piece behind the first one is empty just if a separator stands last or in front of
    another. -/
theorem nil_mem_tail_splitOn_iff (s : α) (as : List α) :
    [] ∈ (as.splitOn s).tail ↔ as.getLast? = some s ∨ [s, s] <:+: as := by
  induction as with
  | nil => simp
  | cons a as ih =>
    rw [List.splitOn_cons_eq_if_modifyHead, List.infix_cons_iff]
    by_cases ha : a = s
    · -- Behind a separator the first piece of the rest counts too.
      have htail : [] ∈ as.splitOn s
          ↔ as = [] ∨ as.head? = some s ∨ as.getLast? = some s ∨ [s, s] <:+: as := by
        rw [nil_mem_splitOn_iff_tail, ih]
      rw [if_pos (by simpa using ha), List.tail_cons, htail, ha]
      cases as with
      | nil => simp
      | cons b as =>
        have hpair : [s, s] <+: s :: b :: as ↔ b = s := by
          simp [eq_comm]
        rw [List.getLast?_cons_cons, hpair, List.head?_cons, Option.some_inj]
        simp only [reduceCtorEq, false_or, or_left_comm]
    · -- Any other element lengthens the first piece and leaves the pieces behind it.
      have hpair : ¬ [s, s] <+: a :: as := by
        simp [Ne.symm ha]
      have hlast : (a :: as).getLast? = some s ↔ as.getLast? = some s := by
        cases as with
        | nil => simp [ha]
        | cons b as => rw [List.getLast?_cons_cons]
      rw [if_neg (by simpa using ha), List.tail_modifyHead, ih, hlast, or_iff_right hpair]

theorem nil_mem_splitOn_iff (s : α) (as : List α) :
    [] ∈ as.splitOn s
      ↔ as = [] ∨ as.head? = some s ∨ as.getLast? = some s ∨ [s, s] <:+: as := by
  rw [nil_mem_splitOn_iff_tail, nil_mem_tail_splitOn_iff]

end

/-! ## Evenly spaced lists -/

theorem splitOnP_congr {p q : α → Bool} (h : ∀ a ∈ as, p a = q a) :
    as.splitOnP p = as.splitOnP q := by
  induction as with
  | nil => rfl
  | cons a as ih =>
    obtain ⟨ha, hlater⟩ := List.forall_mem_cons.mp h
    rw [List.splitOnP_cons_eq_if_modifyHead, List.splitOnP_cons_eq_if_modifyHead, ha, ih hlater]

/-- Joining the words of a list gives the list back just if it is evenly spaced: there is one
    kind of separator in it, and none stands first, last or in front of another. -/
theorem intercalate_fields_iff [DecidableEq α] (hs : isSeparator s = true) (as : List α) :
    [s].intercalate (fields isSeparator as) = as
      ↔ (∀ a ∈ as, isSeparator a = true → a = s)
        ∧ as.head? ≠ some s ∧ as.getLast? ≠ some s ∧ ¬ [s, s] <:+: as := by
  have hwords := divides_fields isSeparator as
  by_cases has : as = []
  · subst has
    simp
  constructor
  · intro hjoined
    have honly : ∀ a ∈ as, isSeparator a = true → a = s := by
      intro a ha hsep
      rw [← hjoined] at ha
      rcases eq_or_mem_of_mem_intercalate ha with heq | ⟨word, hword, hmem⟩
      · exact heq
      · rw [hwords.free word hword a hmem] at hsep
        cases hsep
    have hsome : fields isSeparator as ≠ [] := by
      intro hnone
      rw [hnone] at hjoined
      exact has hjoined.symm
    have hapart : ∀ word ∈ fields isSeparator as, s ∉ word := by
      intro word hword hmem
      rw [hwords.free word hword s hmem] at hs
      cases hs
    -- The pieces of the list are its words, and so none of them is empty.
    have hpieces : as.splitOn s = fields isSeparator as := by
      have hsplit := List.splitOn_intercalate s hapart hsome
      rw [hjoined] at hsplit
      exact hsplit
    have hfull : [] ∉ as.splitOn s := by
      intro hmem
      rw [hpieces] at hmem
      exact hwords.nonempty [] hmem rfl
    rw [nil_mem_splitOn_iff, not_or, not_or, not_or] at hfull
    exact ⟨honly, hfull.2⟩
  · rintro ⟨honly, hspaced⟩
    have hfull : [] ∉ as.splitOn s := by
      rw [nil_mem_splitOn_iff, not_or, not_or, not_or]
      exact ⟨has, hspaced⟩
    have hsame : ∀ a ∈ as, isSeparator a = (a == s) := by
      intro a ha
      rw [Bool.eq_iff_iff, beq_iff_eq]
      constructor
      · exact honly a ha
      · rintro rfl
        exact hs
    -- No piece is dropped, so the words are the pieces.
    have hpieces : fields isSeparator as = as.splitOn s := by
      rw [fields_eq_splitOnP, splitOnP_congr hsame, ← List.splitOn_eq_splitOnP,
        List.filter_eq_self]
      intro piece hpiece
      cases piece with
      | nil => exact absurd hpiece hfull
      | cons a piece => rfl
    rw [hpieces, List.intercalate_splitOn]

end Text

/-! ## The words of a line, joined -/

namespace Line

theorem map_toList_tokens (line : String) :
    (tokens line).map String.toList = Text.fields isDelimiter line.toList := by
  rw [tokens, List.map_map]
  exact (List.map_congr_left fun _ _ => String.toList_ofList).trans (List.map_id _)

theorem tokens_of_divides {line : String} {words : List String}
    (h : Text.Divides isDelimiter line.toList (words.map String.toList)) :
    tokens line = words := by
  have hwords := Text.fields_of_divides h
  rw [← map_toList_tokens] at hwords
  exact (List.map_inj_right fun _ _ => String.toList_inj.mp).mp hwords

/-- The words of a line, with a blank between any two of them. -/
def rejoin (line : String) : String := " ".intercalate (tokens line)

theorem toList_rejoin (line : String) :
    (rejoin line).toList = [' '].intercalate (Text.fields isDelimiter line.toList) := by
  rw [rejoin, String.toList_intercalate, map_toList_tokens]
  rfl

theorem tokens_rejoin (line : String) : tokens (rejoin line) = tokens line := by
  have hwords := Text.divides_fields isDelimiter line.toList
  apply tokens_of_divides
  rw [toList_rejoin, map_toList_tokens]
  exact Text.divides_intercalate rfl hwords.nonempty hwords.free

theorem rejoin_eq_iff (line : String) :
    rejoin line = line
      ↔ ('\t' ∉ line.toList ∧ '\r' ∉ line.toList ∧ '\n' ∉ line.toList)
        ∧ line.toList.head? ≠ some ' ' ∧ line.toList.getLast? ≠ some ' '
        ∧ ¬ [' ', ' '] <:+: line.toList := by
  have honly : (∀ c ∈ line.toList, isDelimiter c = true → c = ' ')
      ↔ '\t' ∉ line.toList ∧ '\r' ∉ line.toList ∧ '\n' ∉ line.toList := by
    constructor
    · intro h
      refine ⟨?_, ?_, ?_⟩ <;> intro hmem <;> exact absurd (h _ hmem rfl) (by decide)
    · rintro ⟨htab, hreturn, hnewline⟩ c hc hdelimiter
      have hcases : c = ' ' ∨ c = '\t' ∨ c = '\r' ∨ c = '\n' := by
        simpa [isDelimiter, delimiters] using hdelimiter
      rcases hcases with rfl | rfl | rfl | rfl
      · rfl
      · exact absurd hc htab
      · exact absurd hc hreturn
      · exact absurd hc hnewline
  rw [← String.toList_inj, toList_rejoin, Text.intercalate_fields_iff rfl, honly]

end Line

namespace Shell

variable {σ : Type}

/-- **Lines and words.** Joining the words of a line with single blanks gives the line back
    just if it holds no tab, carriage return or newline, neither starts nor ends with a
    blank, and has no two blanks next to each other. To the shell it is all the same: the
    line, the joined line and the words are one command, and so are any words and every line
    that is made of them and of gaps around them. -/
theorem executeLine_rejoin (sh : Shell σ) (line : String) (st : State σ) :
    (Line.rejoin line = line
        ↔ ('\t' ∉ line.toList ∧ '\r' ∉ line.toList ∧ '\n' ∉ line.toList)
          ∧ line.toList.head? ≠ some ' ' ∧ line.toList.getLast? ≠ some ' '
          ∧ ¬ [' ', ' '] <:+: line.toList)
      ∧ sh.executeLine (Line.rejoin line) st = sh.executeLine line st
      ∧ sh.executeLine line st = sh.run (Line.tokens line) st
      ∧ ∀ words, Text.Divides Line.isDelimiter line.toList (words.map String.toList) →
        sh.run words st = sh.executeLine line st := by
  refine ⟨Line.rejoin_eq_iff line, ?_, rfl, ?_⟩
  · rw [executeLine, executeLine, Line.tokens_rejoin]
  · intro words hwords
    rw [executeLine, Line.tokens_of_divides hwords]

/-- Gaps of any kind and length lead to the same command. -/
theorem executeLine_rejoin_gaps :
    Text.Divides Line.isDelimiter "\t false \t -x\r".toList (["false", "-x"].map String.toList)
      ∧ Sample.shell.run ["false", "-x"] Sample.state
        = Sample.shell.executeLine "\t false \t -x\r" Sample.state := by
  have hfields : Text.fields Line.isDelimiter "\t false \t -x\r".toList
      = ["false", "-x"].map String.toList := by decide
  have hwords : Text.Divides Line.isDelimiter "\t false \t -x\r".toList
      (["false", "-x"].map String.toList) := by
    rw [← hfields]
    exact Text.divides_fields _ _
  exact ⟨hwords, (executeLine_rejoin Sample.shell "\t false \t -x\r" Sample.state).2.2.2 _ hwords⟩

/-- A blank in front is lost, though no two blanks stand together. -/
example : Line.rejoin " ls -l" = "ls -l" := by decide

end Shell
end LineShell
