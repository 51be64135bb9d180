/-
  LineShell.Text.Fields

  Two ways to cut a list at separators.

    * `fields` keeps the maximal runs of other elements, so that neighbouring
      separators and separators at the ends leave no trace;
    * `segments` keeps what stands between any two separators, be it empty, so that
      there is one segment more than there are separators.
-/

namespace LineShell.Text

variable {α : Type}

/-! ## Maximal runs -/

/-- Puts a run, collected last element first, in front of the later ones, if it has any
    element. -/
def closeRun (run : List α) (later : List (List α)) : List (List α) :=
  match run with
  | [] => later
  | _ :: _ => run.reverse :: later

/-- The maximal runs of a list that is preceded by the unfinished run `run`, which is
    held last element first. -/
def fieldsAfter (isSeparator : α → Bool) (run : List α) : List α → List (List α)
  | [] => closeRun run []
  | a :: as =>
    if isSeparator a then closeRun run (fieldsAfter isSeparator [] as)
    else fieldsAfter isSeparator (a :: run) as

/-- The maximal runs of elements that are no separators, in order. -/
def fields (isSeparator : α → Bool) (as : List α) : List (List α) :=
  fieldsAfter isSeparator [] as

@[simp] theorem fields_nil (isSeparator : α → Bool) : fields isSeparator [] = [] := rfl

/-! ## Segments -/

/-- What stands before, between and after the separators, in order. -/
def segments [DecidableEq α] (separator : α) : List α → List (List α)
  | [] => [[]]
  | a :: as =>
    if a = separator then [] :: segments separator as
    else match segments separator as with
      | [] => [[a]]
      | segment :: later => (a :: segment) :: later

/-- There is one segment more than there are separators. -/
theorem length_segments [DecidableEq α] (separator : α) (as : List α) :
    (segments separator as).length = as.count separator + 1 := by
  induction as with
  | nil => rfl
  | cons a as ih =>
    simp only [segments]
    split
    · next h => simp [ih, h]
    · next h =>
      split
      · next hs => simp [hs] at ih
      · next hs =>
        rw [List.count_cons_of_ne (by simpa using h), ← ih, hs]
        simp

end LineShell.Text
