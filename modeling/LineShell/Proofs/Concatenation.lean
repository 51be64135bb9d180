/-
  LineShell.Proofs.Concatenation

  The words of two lines that are put together.

  Where the first line ends in a word and the second one begins with a word, the two become
  one (`Text.WordsMeet`, `Text.fields_of_wordsMeet`). At any other cut nothing is lost, made
  or changed, and the words are those of the first line and then those of the second
  (`Text.fields_append`). Both go along the first list piece by piece: the cut is seen in its
  last piece only, and a separator hides what stands in front of it (`Text.wordsMeet_cut`).
-/
import LineShell.Proofs.Words

namespace LineShell

namespace Text

variable {α : Type} {isSeparator : α → Bool} {a : α} {as bs word : List α}

/-- Whether two words meet where two lists are put together: no separator stands at the end
    of the first list or at the beginning of the second. An empty list has no word to meet. -/
def WordsMeet (isSeparator : α → Bool) (as bs : List α) : Prop :=
  (∃ a ∈ as.getLast?, isSeparator a = false) ∧ ∃ b ∈ bs.head?, isSeparator b = false

instance (isSeparator : α → Bool) (as bs : List α) :
    Decidable (WordsMeet isSeparator as bs) :=
  inferInstanceAs (Decidable (_ ∧ _))

theorem wordsMeet_cut (ha : isSeparator a = true) :
    WordsMeet isSeparator (word ++ a :: as) bs ↔ WordsMeet isSeparator as bs := by
  have hlast : (∃ b ∈ (word ++ a :: as).getLast?, isSeparator b = false)
      ↔ ∃ b ∈ as.getLast?, isSeparator b = false := by
    cases as with
    | nil => simp [ha]
    | cons b as => simp [List.getLast?_append, List.getLast?_cons_cons]
  exact and_congr_left' hlast

theorem fields_cons_separator (ha : isSeparator a = true) :
    fields isSeparator (a :: as) = fields isSeparator as := by
  have hgap : ∀ b ∈ [a], isSeparator b = true := by simpa using ha
  exact fields_gap_append hgap as

theorem fields_of_word (hne : word ≠ []) (hword : ∀ b ∈ word, isSeparator b = false) :
    fields isSeparator word = [word] := by
  rw [fields_of_free hword]
  simpa using hne

theorem fields_word_cut (hne : word ≠ []) (hword : ∀ b ∈ word, isSeparator b = false)
    (ha : isSeparator a = true) (as : List α) :
    fields isSeparator (word ++ a :: as) = word :: fields isSeparator as := by
  have hkept : [word].filter (!·.isEmpty) = [word] := by simpa using hne
  rw [fields_cut hword ha, hkept, List.singleton_append]

/-- In front of a list that begins with a word, more of this word lengthens it. -/
theorem fields_word_append (hword : ∀ b ∈ word, isSeparator b = false)
    (hbs : ∃ b ∈ bs.head?, isSeparator b = false) :
    ∃ next after, fields isSeparator bs = next :: after
      ∧ fields isSeparator (word ++ bs) = (word ++ next) :: after := by
  obtain ⟨b, hb, hfree⟩ := hbs
  have hlonger : ∀ next : List α, (∀ c ∈ next, isSeparator c = false) →
      ∀ c ∈ word ++ next, isSeparator c = false := by
    intro next hnext c hc
    rcases List.mem_append.mp hc with hc | hc
    · exact hword c hc
    · exact hnext c hc
  -- The first piece begins with `b`, so it is a word, alone and behind the other one.
  induction bs using pieces_induction isSeparator with
  | whole next hnext =>
    have hne : next ≠ [] := by
      rintro rfl
      cases hb
    exact ⟨next, [], fields_of_word hne hnext,
      fields_of_word (List.append_ne_nil_of_right_ne_nil word hne) (hlonger next hnext)⟩
  | cut next a as hnext ha =>
    have hne : next ≠ [] := by
      rintro rfl
      cases hb
      rw [ha] at hfree
      cases hfree
    refine ⟨next, fields isSeparator as, fields_word_cut hne hnext ha as, ?_⟩
    rw [← List.append_assoc]
    exact fields_word_cut (List.append_ne_nil_of_right_ne_nil word hne) (hlonger next hnext) ha as

/-- Two words that meet become one. -/
theorem fields_of_wordsMeet (h : WordsMeet isSeparator as bs) :
    ∃ before word next after, fields isSeparator as = before ++ [word]
      ∧ fields isSeparator bs = next :: after
      ∧ fields isSeparator (as ++ bs) = before ++ (word ++ next) :: after := by
  induction as using pieces_induction isSeparator with
  | whole word hword =>
    obtain ⟨⟨a, ha, -⟩, hbs⟩ := h
    have hne : word ≠ [] := by
      rintro rfl
      cases ha
    obtain ⟨next, after, hnext, hmerged⟩ := fields_word_append hword hbs
    exact ⟨[], word, next, after, fields_of_word hne hword, hnext, hmerged⟩
  | cut front a as hfront ha ih =>
    -- The word at the end of the list is the one at the end of what follows the separator.
    obtain ⟨before, word, next, after, hlast, hnext, hmerged⟩ := ih ((wordsMeet_cut ha).mp h)
    refine ⟨[front].filter (!·.isEmpty) ++ before, word, next, after, ?_, hnext, ?_⟩
    · rw [fields_cut hfront ha, hlast, List.append_assoc]
    · rw [List.append_assoc, List.cons_append, fields_cut hfront ha, hmerged, List.append_assoc]

/-- Where no words meet, each list keeps its own. -/
theorem fields_append (h : ¬ WordsMeet isSeparator as bs) :
    fields isSeparator (as ++ bs) = fields isSeparator as ++ fields isSeparator bs := by
  induction as using pieces_induction isSeparator with
  | whole word hword =>
    by_cases hne : word = []
    · rw [hne, fields_nil, List.nil_append, List.nil_append]
    · -- The first list ends in a word, so the second one is empty or begins with a separator.
      have hlast : ∃ b ∈ word.getLast?, isSeparator b = false :=
        ⟨word.getLast hne, List.getLast?_eq_some_getLast hne, hword _ (List.getLast_mem hne)⟩
      cases bs with
      | nil => rw [List.append_nil, fields_nil, List.append_nil]
      | cons b bs =>
        have hb : isSeparator b = true := by
          cases hfree : isSeparator b with
          | true => rfl
          | false => exact absurd ⟨hlast, b, rfl, hfree⟩ h
        rw [fields_word_cut hne hword hb, fields_of_word hne hword, fields_cons_separator hb,
          List.singleton_append]
  | cut front a as hfront ha ih =>
    rw [List.append_assoc, List.cons_append, fields_cut hfront ha, fields_cut hfront ha,
      ih (fun hmeet => h ((wordsMeet_cut ha).mpr hmeet)), List.append_assoc]

end Text

namespace Line

/-- **Lines put together.** If the first line ends and the second one begins with a character
    that is no delimiter, the last word of the first and the first word of the second become
    one word, and all other words stay as they are. In every other case, and in no other, the
    words are those of the first line followed by those of the second. So a line can be cut
    at any delimiter. -/
theorem tokens_append (first second : String) :
    (Text.WordsMeet isDelimiter first.toList second.toList →
        ∃ before word next after, tokens first = before ++ [word]
          ∧ tokens second = next :: after
          ∧ tokens (first ++ second) = before ++ (word ++ next) :: after)
      ∧ (tokens (first ++ second) = tokens first ++ tokens second
        ↔ ¬ Text.WordsMeet isDelimiter first.toList second.toList)
      ∧ ∀ c, isDelimiter c = true →
        tokens (first ++ String.singleton c ++ second) = tokens first ++ tokens second := by
  have hmeet : Text.WordsMeet isDelimiter first.toList second.toList →
      ∃ before word next after, tokens first = before ++ [word]
        ∧ tokens second = next :: after
        ∧ tokens (first ++ second) = before ++ (word ++ next) :: after := by
    intro h
    obtain ⟨before, word, next, after, hfirst, hsecond, hboth⟩ := Text.fields_of_wordsMeet h
    refine ⟨before.map String.ofList, String.ofList word, String.ofList next,
      after.map String.ofList, ?_, ?_, ?_⟩
    · rw [tokens, hfirst, List.map_append, List.map_singleton]
    · rw [tokens, hsecond, List.map_cons]
    · rw [tokens, String.toList_append, hboth, List.map_append, List.map_cons,
        String.ofList_append]
  refine ⟨hmeet, ⟨?_, ?_⟩, ?_⟩
  · intro hsplit h
    -- One word out of two: the number of the words tells the two cases apart.
    obtain ⟨before, word, next, after, hfirst, hsecond, hboth⟩ := hmeet h
    rw [hboth, hfirst, hsecond] at hsplit
    have hlength := congrArg List.length hsplit
    simp only [List.length_append, List.length_cons, List.length_nil] at hlength
    omega
  · intro h
    rw [tokens, String.toList_append, Text.fields_append h, List.map_append, tokens, tokens]
  · intro c hc
    have hcut : (first ++ String.singleton c ++ second).toList
        = first.toList ++ c :: second.toList := by
      simp
    have hapart : ¬ Text.WordsMeet isDelimiter first.toList (c :: second.toList) := by
      rintro ⟨-, b, hb, hfree⟩
      cases hb
      rw [hc] at hfree
      cases hfree
    rw [tokens, hcut, Text.fields_append hapart, Text.fields_cons_separator hc, List.map_append,
      tokens, tokens]

/-- A command that is cut inside a word and put together again. -/
theorem tokens_append_inside :
    Text.WordsMeet isDelimiter "ls  -l /t".toList "mp\t-a".toList
      ∧ ∃ before word next after, tokens "ls  -l /t" = before ++ [word]
        ∧ tokens "mp\t-a" = next :: after
        ∧ tokens ("ls  -l /t" ++ "mp\t-a") = before ++ (word ++ next) :: after :=
  ⟨by decide, (tokens_append "ls  -l /t" "mp\t-a").1 (by decide)⟩

end Line
end LineShell
