/-
  LineShell.Proofs.SearchLists

  What becomes of a search when its list or the files change.

  A search in two lists with a colon between them is a search in the first and then in the
  second (`Lookup.searchIn_append`), and lists may be joined from parts of any form
  (`Lookup.searchIn_intercalate`). So parts that hold nothing and parts that were searched
  before can be left out. Files that are added can only bring the answer nearer to the front
  of the list (`Lookup.firstExisting_mono`).
-/
import LineShell.Proofs.Resolution

namespace LineShell.Lookup

variable {pathExists : String → Bool} {name path list : String}

/-! ## Lists that are joined -/

theorem searchIn_empty : searchIn pathExists "" name = none := by
  have hone : "".toList.splitOn separator = [[]] := rfl
  rw [searchIn, hone, List.findSome?_singleton, hit_nil]

theorem searchIn_append (first second : String) :
    searchIn pathExists (first ++ ":" ++ second) name
      = (searchIn pathExists first name).or (searchIn pathExists second name) := by
  have hchars : (first ++ ":" ++ second).toList
      = first.toList ++ separator :: second.toList := by
    simp [separator]
  rw [searchIn, hchars, List.splitOn_append_cons_self, List.findSome?_append, searchIn, searchIn]

/-- A search in a joined list goes through the parts. -/
theorem searchIn_intercalate (lists : List String) :
    searchIn pathExists (":".intercalate lists) name
      = lists.findSome? fun list => searchIn pathExists list name := by
  induction lists with
  | nil => exact searchIn_empty
  | cons list lists ih =>
    by_cases hlast : lists = []
    · rw [hlast, String.intercalate_singleton, List.findSome?_singleton]
    · rw [String.intercalate_cons_of_ne_nil hlast, searchIn_append, ih, List.findSome?_cons]
      cases searchIn pathExists list name <;> rfl

/-- What was looked for before need not be looked for again. -/
theorem searchIn_repeated (before middle after : List String) (directory : String) :
    searchIn pathExists (":".intercalate (before ++ directory :: (middle ++ directory :: after)))
        name
      = searchIn pathExists (":".intercalate (before ++ directory :: (middle ++ after))) name := by
  have hcons : ∀ lists : List String,
      (directory :: lists).findSome? (fun list => searchIn pathExists list name)
        = (searchIn pathExists directory name).or
          (lists.findSome? fun list => searchIn pathExists list name) := by
    intro lists
    rw [← List.singleton_append, List.findSome?_append, List.findSome?_singleton]
  -- The second visit comes to nothing, or the first one has come to the same before.
  have hagain : ∀ x y z : Option String, x.or (y.or (x.or z)) = x.or (y.or z) := by
    intro x y z
    cases x <;> simp
  rw [searchIn_intercalate, searchIn_intercalate, List.findSome?_append, List.findSome?_append,
    hcons, hcons, List.findSome?_append, List.findSome?_append, hcons, hagain]

theorem searchIn_spaced (before after : List String) :
    searchIn pathExists (":".intercalate (before ++ "" :: after)) name
      = searchIn pathExists (":".intercalate (before ++ after)) name := by
  rw [searchIn_intercalate, searchIn_intercalate, List.findSome?_append, List.findSome?_append,
    List.findSome?_cons, searchIn_empty]

/-! ## Files that are added -/

theorem exists_of_firstExisting {directories : List String}
    (h : firstExisting pathExists name directories = some path) : pathExists path = true := by
  induction directories with
  | nil => cases h
  | cons directory later ih =>
    rw [firstExisting] at h
    split at h
    · next hexists =>
      cases h
      exact hexists
    · exact ih h

/-- If files are added, the first hit stays where it is, or it moves to the front. -/
theorem firstExisting_mono {fewer more : String → Bool}
    (hadded : ∀ path, fewer path = true → more path = true) {directories : List String}
    {i : Nat} {directory : String} (hi : directories[i]? = some directory)
    (hfound : firstExisting fewer name directories = some (candidate directory name)) :
    ∃ j nearer, j ≤ i ∧ directories[j]? = some nearer
      ∧ firstExisting more name directories = some (candidate nearer name)
      ∧ (candidate nearer name ≠ candidate directory name →
        j < i ∧ fewer (candidate nearer name) = false
          ∧ more (candidate nearer name) = true) := by
  induction directories generalizing i with
  | nil => cases hfound
  | cons first later ih =>
    rw [firstExisting] at hfound
    by_cases hmore : more (candidate first name) = true
    · -- The first directory has the file now. If it had it before, it was the answer before.
      refine ⟨0, first, Nat.zero_le i, rfl, by rw [firstExisting, if_pos hmore], ?_⟩
      intro hother
      have hfewer : fewer (candidate first name) = false := by
        rw [Bool.eq_false_iff]
        intro hbefore
        rw [if_pos hbefore] at hfound
        exact hother (Option.some.inj hfound)
      have hi : i ≠ 0 := by
        rintro rfl
        cases hi
        exact hother rfl
      exact ⟨by omega, hfewer, hmore⟩
    · -- The first directory never had the file, so both answers come from the later ones.
      have hfewer : ¬ fewer (candidate first name) = true := fun h => hmore (hadded _ h)
      rw [if_neg hfewer] at hfound
      cases i with
      | zero =>
        cases hi
        exact absurd (exists_of_firstExisting hfound) hfewer
      | succ i =>
        obtain ⟨j, nearer, hj, hnearer, hmoved, hlater⟩ := ih hi hfound
        refine ⟨j + 1, nearer, by omega, hnearer, by rw [firstExisting, if_neg hmore, hmoved], ?_⟩
        intro hother
        obtain ⟨hlt, hchange⟩ := hlater hother
        exact ⟨by omega, hchange⟩

/-! ## Changes of the list and of the files -/

theorem answer_or (first second : Option String) :
    answer (first.or second) = (answer first <|> answer second) := by
  cases first <;> rfl

/-- Two lists in which a search comes to the same find the same command. -/
theorem find_congr {other : String} (hbare : '/' ∉ name.toList)
    (h : searchIn pathExists list name = searchIn pathExists other name) :
    find pathExists (some list) name = find pathExists (some other) name := by
  by_cases hname : name = ""
  · rw [hname, find_empty, find_empty]
  · rw [find_bare hname hbare, find_bare hname hbare, h]

theorem find_bare_eq_ok_iff (hbare : '/' ∉ name.toList) {location : Location} :
    find pathExists (some list) name = .ok location
      ↔ name ≠ "" ∧ ∃ path, location = .searched path
        ∧ firstExisting pathExists name (directories list) = some path := by
  by_cases hname : name = ""
  · simp [hname, find_empty]
  rw [find_bare hname hbare, firstExisting_directories]
  cases searchIn pathExists list name with
  | none => simp [answer]
  | some path => simp [answer, hname, eq_comm]

/-- **Search lists.** For a name without a slash, a search in two lists with a colon between
    them finds what a search in the first one finds or, if that is nothing, what a search in
    the second one finds. So empty segments make no difference wherever they stand, and
    neither does a directory that stands further left already. If files are added and none is
    taken away, what was found in some directory is then found in this one or further left,
    and if it is not the same file, then one that was not there before is in front of it. -/
theorem find_joined (name : String) (hbare : '/' ∉ name.toList) :
    (∀ pathExists first second,
        find pathExists (some (first ++ ":" ++ second)) name
          = (find pathExists (some first) name <|> find pathExists (some second) name))
      ∧ (∀ pathExists before after,
        find pathExists (some (":".intercalate (before ++ "" :: after))) name
          = find pathExists (some (":".intercalate (before ++ after))) name)
      ∧ (∀ pathExists before directory middle after,
        find pathExists
            (some (":".intercalate (before ++ directory :: (middle ++ directory :: after)))) name
          = find pathExists (some (":".intercalate (before ++ directory :: (middle ++ after))))
            name)
      ∧ ∀ fewer more : String → Bool, (∀ path, fewer path = true → more path = true) →
        ∀ (list : String) (i : Nat) (directory : String), (directories list)[i]? = some directory →
        find fewer (some list) name = .ok (.searched (candidate directory name)) →
        ∃ j nearer, j ≤ i ∧ (directories list)[j]? = some nearer
          ∧ find more (some list) name = .ok (.searched (candidate nearer name))
          ∧ (candidate nearer name ≠ candidate directory name →
            j < i ∧ fewer (candidate nearer name) = false
              ∧ more (candidate nearer name) = true) := by
  refine ⟨?_, ?_, ?_, ?_⟩
  · intro pathExists first second
    by_cases hname : name = ""
    · subst hname
      rfl
    · rw [find_bare hname hbare, find_bare hname hbare, find_bare hname hbare, searchIn_append,
        answer_or]
  · intro pathExists before after
    exact find_congr hbare (searchIn_spaced before after)
  · intro pathExists before directory middle after
    exact find_congr hbare (searchIn_repeated before middle after directory)
  · intro fewer more hadded list i directory hi hfound
    obtain ⟨hname, path, hpath, hfirst⟩ := (find_bare_eq_ok_iff hbare).mp hfound
    cases hpath
    obtain ⟨j, nearer, hj, hnearer, hmoved, hchange⟩ := firstExisting_mono hadded hi hfirst
    have hnow : find more (some list) name = .ok (.searched (candidate nearer name)) :=
      (find_bare_eq_ok_iff hbare).mpr ⟨hname, _, rfl, hmoved⟩
    exact ⟨j, nearer, hj, hnearer, hnow, hchange⟩

/-- A file that is added to a directory further left is found instead. -/
theorem find_joined_added :
    '/' ∉ "ls".toList
      ∧ (∀ path : String, decide (path = "/bin/ls") = true →
        decide (path = "/bin/ls" ∨ path = "/opt/ls") = true)
      ∧ (directories ":/opt/::/bin")[1]? = some "/bin"
      ∧ find (fun path => path = "/bin/ls") (some ":/opt/::/bin") "ls"
        = .ok (.searched (candidate "/bin" "ls"))
      ∧ ∃ j nearer, j ≤ 1 ∧ (directories ":/opt/::/bin")[j]? = some nearer
        ∧ find (fun path => path = "/bin/ls" ∨ path = "/opt/ls") (some ":/opt/::/bin") "ls"
          = .ok (.searched (candidate nearer "ls"))
        ∧ (candidate nearer "ls" ≠ candidate "/bin" "ls" →
          j < 1 ∧ decide (candidate nearer "ls" = "/bin/ls") = false
            ∧ decide (candidate nearer "ls" = "/bin/ls" ∨ candidate nearer "ls" = "/opt/ls")
              = true) := by
  have hbare : '/' ∉ "ls".toList := by decide
  have hadded : ∀ path : String, decide (path = "/bin/ls") = true →
      decide (path = "/bin/ls" ∨ path = "/opt/ls") = true := by
    intro path h
    exact decide_eq_true (.inl (of_decide_eq_true h))
  have hdirectory : (directories ":/opt/::/bin")[1]? = some "/bin" := by decide
  have hfound : find (fun path => path = "/bin/ls") (some ":/opt/::/bin") "ls"
      = .ok (.searched (candidate "/bin" "ls")) := rfl
  exact ⟨hbare, hadded, hdirectory, hfound,
    (find_joined "ls" hbare).2.2.2 _ _ hadded _ _ _ hdirectory hfound⟩

end LineShell.Lookup
