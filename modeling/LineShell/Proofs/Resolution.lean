/-
  LineShell.Proofs.Resolution

  From the name of a command to a file, by rules.

  `Lookup.Resolves` lists the six ways in which the search for a command can go, and
  `Lookup.resolves_iff` says that these rules describe `Lookup.find`. The rule for a name that
  has to be looked for rests on `Lookup.FirstHit`: some segment of the list has the file, and
  no segment in front of it has one, where empty segments count for nothing. The search does
  the same, for it takes the first hit in the segments (`Lookup.searchIn`).

  The main statement adds what every path that is found has in common. It holds a slash, and
  this keeps the system from looking for a program of its own when the path is handed to it.
-/
import LineShell.Lookup
import LineShell.Machine.Search

namespace LineShell

theorem Text.segments_eq_splitOn {α : Type} [DecidableEq α] (separator : α) (as : List α) :
    segments separator as = as.splitOn separator := by
  induction as with
  | nil => rfl
  | cons a as ih =>
    rw [segments, List.splitOn_cons_eq_if_modifyHead, ih]
    by_cases ha : a = separator
    · rw [if_pos ha, if_pos (by simpa using ha)]
    · rw [if_neg ha, if_neg (by simpa using ha)]
      cases hpieces : as.splitOn separator with
      | nil => exact absurd hpieces (List.splitOn_ne_nil separator as)
      | cons piece pieces => rfl

namespace Lookup

variable {pathExists : String → Bool} {search : Option String} {name path list : String}
  {segment : List Char}

/-! ## Segment by segment -/

/-- What a search finds in one segment of a list. -/
def hit (pathExists : String → Bool) (name : String) (segment : List Char) : Option String :=
  if segment ≠ [] ∧ pathExists (candidate (String.ofList segment) name) = true then
    some (candidate (String.ofList segment) name)
  else none

theorem hit_eq_some_iff :
    hit pathExists name segment = some path
      ↔ segment ≠ [] ∧ path = candidate (String.ofList segment) name
        ∧ pathExists path = true := by
  rw [hit]
  constructor
  · intro h
    split at h
    · next hfound =>
      cases h
      exact ⟨hfound.1, rfl, hfound.2⟩
    · cases h
  · rintro ⟨hne, rfl, hexists⟩
    rw [if_pos ⟨hne, hexists⟩]

theorem hit_eq_none_iff :
    hit pathExists name segment = none
      ↔ (segment ≠ [] → pathExists (candidate (String.ofList segment) name) = false) := by
  rw [hit]
  by_cases hne : segment = []
  · simp [hne]
  · cases hexists : pathExists (candidate (String.ofList segment) name) <;> simp [hne]

theorem hit_nil : hit pathExists name [] = none :=
  hit_eq_none_iff.mpr fun h => absurd rfl h

/-- What a search finds in a list: the first hit in its segments. -/
def searchIn (pathExists : String → Bool) (list name : String) : Option String :=
  (list.toList.splitOn separator).findSome? (hit pathExists name)

theorem firstExisting_map_ofList (segments : List (List Char)) :
    firstExisting pathExists name ((segments.filter (· ≠ [])).map String.ofList)
      = segments.findSome? (hit pathExists name) := by
  induction segments with
  | nil => rfl
  | cons segment segments ih =>
    by_cases hne : segment = []
    · rw [List.filter_cons_of_neg (by simpa using hne), ih, hne,
        List.findSome?_cons, hit_nil]
    · rw [List.filter_cons_of_pos (by simpa using hne), List.map_cons, firstExisting,
        List.findSome?_cons, hit]
      cases hexists : pathExists (candidate (String.ofList segment) name) with
      | true => simp [hne]
      | false => simpa using ih

theorem firstExisting_directories (pathExists : String → Bool) (list name : String) :
    firstExisting pathExists name (directories list) = searchIn pathExists list name := by
  rw [directories, Text.segments_eq_splitOn, firstExisting_map_ofList, searchIn]

/-- What is found for a name that has to be looked for. -/
def answer : Option String → Except ShellError Location
  | some path => .ok (.searched path)
  | none => .error .notFound

theorem find_empty : find pathExists search "" = .error .notFound := rfl

theorem find_slash (hslash : '/' ∈ name.toList) :
    find pathExists search name
      = if pathExists name then .ok (.asTyped name) else .error .notFound := by
  have hname : name ≠ "" := by
    rintro rfl
    cases hslash
  unfold find
  rw [if_neg hname, if_pos hslash]

theorem find_unset (hbare : '/' ∉ name.toList) :
    find pathExists none name = .error .notFound := by
  unfold find
  rw [if_neg hbare]
  split <;> rfl

theorem find_bare (hname : name ≠ "") (hbare : '/' ∉ name.toList) (list : String) :
    find pathExists (some list) name = answer (searchIn pathExists list name) := by
  unfold find
  rw [if_neg hname, if_neg hbare]
  simp only [firstExisting_directories]
  cases searchIn pathExists list name <;> rfl

/-! ## The rules -/

/-- The first file with a name that a list leads to: the list is cut at its colons, and the
    candidate of some segment exists, while no segment in front of it has one that does. -/
def FirstHit (pathExists : String → Bool) (list name path : String) : Prop :=
  ∃ before segment after, list.toList.splitOn ':' = before ++ segment :: after
    ∧ segment ≠ [] ∧ path = candidate (String.ofList segment) name ∧ pathExists path = true
    ∧ ∀ earlier ∈ before, earlier ≠ [] →
      pathExists (candidate (String.ofList earlier) name) = false

/-- A list that leads to no file with a name. -/
def NoHit (pathExists : String → Bool) (list name : String) : Prop :=
  ∀ segment ∈ list.toList.splitOn ':', segment ≠ [] →
    pathExists (candidate (String.ofList segment) name) = false

/-- What becomes of the name of a command, given the search list if there is one. -/
inductive Resolves (pathExists : String → Bool) :
    Option String → String → Except ShellError Location → Prop where
  | unnamed {search : Option String} : Resolves pathExists search "" (.error .notFound)
  | typed {search : Option String} {name : String}
      (slash : '/' ∈ name.toList) (present : pathExists name = true) :
      Resolves pathExists search name (.ok (.asTyped name))
  | absent {search : Option String} {name : String}
      (slash : '/' ∈ name.toList) (missing : pathExists name = false) :
      Resolves pathExists search name (.error .notFound)
  | unset {name : String} (bare : '/' ∉ name.toList) :
      Resolves pathExists none name (.error .notFound)
  | searched {list name path : String} (named : name ≠ "") (bare : '/' ∉ name.toList)
      (hit : FirstHit pathExists list name path) :
      Resolves pathExists (some list) name (.ok (.searched path))
  | exhausted {list name : String} (bare : '/' ∉ name.toList)
      (missing : NoHit pathExists list name) :
      Resolves pathExists (some list) name (.error .notFound)

theorem firstHit_iff :
    FirstHit pathExists list name path ↔ searchIn pathExists list name = some path := by
  rw [searchIn, List.findSome?_eq_some_iff]
  constructor
  · rintro ⟨before, segment, after, hsegments, hne, hpath, hexists, hbefore⟩
    have hhit := hit_eq_some_iff.mpr ⟨hne, hpath, hexists⟩
    have hnone : ∀ earlier ∈ before, hit pathExists name earlier = none := by
      intro earlier hearlier
      exact hit_eq_none_iff.mpr (hbefore earlier hearlier)
    exact ⟨before, segment, after, hsegments, hhit, hnone⟩
  · rintro ⟨before, segment, after, hsegments, hhit, hnone⟩
    obtain ⟨hne, hpath, hexists⟩ := hit_eq_some_iff.mp hhit
    refine ⟨before, segment, after, hsegments, hne, hpath, hexists, ?_⟩
    intro earlier hearlier
    exact hit_eq_none_iff.mp (hnone earlier hearlier)

theorem noHit_iff :
    NoHit pathExists list name ↔ searchIn pathExists list name = none := by
  rw [searchIn, List.findSome?_eq_none_iff]
  constructor
  · intro h segment hsegment
    exact hit_eq_none_iff.mpr (h segment hsegment)
  · intro h segment hsegment
    exact hit_eq_none_iff.mp (h segment hsegment)

/-- The rules describe the search for a command. -/
theorem resolves_iff {result : Except ShellError Location} :
    Resolves pathExists search name result ↔ find pathExists search name = result := by
  constructor
  · intro h
    cases h with
    | unnamed => exact find_empty
    | typed slash present => rw [find_slash slash, if_pos present]
    | absent slash missing => rw [find_slash slash, if_neg (by rw [missing]; decide)]
    | unset bare => exact find_unset bare
    | searched named bare hit => rw [find_bare named bare, firstHit_iff.mp hit, answer]
    | @exhausted list name bare missing =>
      by_cases hname : name = ""
      · rw [hname, find_empty]
      · rw [find_bare hname bare, noHit_iff.mp missing, answer]
  · rintro rfl
    -- The rule is found by the name, then by the file or the list, and then by the search.
    by_cases hname : name = ""
    · rw [hname, find_empty]
      exact .unnamed
    by_cases hslash : '/' ∈ name.toList
    · rw [find_slash hslash]
      cases hexists : pathExists name with
      | true => exact .typed hslash hexists
      | false => exact .absent hslash hexists
    cases search with
    | none =>
      rw [find_unset hslash]
      exact .unset hslash
    | some list =>
      rw [find_bare hname hslash]
      cases hfound : searchIn pathExists list name with
      | none => exact .exhausted hslash (noHit_iff.mpr hfound)
      | some path => exact .searched hname hslash (firstHit_iff.mpr hfound)

/-! ## Paths that are found -/

/-- A command is only found where a file exists. -/
theorem exists_of_find {location : Location} (h : find pathExists search name = .ok location) :
    pathExists location.path = true := by
  cases resolves_iff.mpr h with
  | typed slash present => exact present
  | searched named bare hit =>
    obtain ⟨_, _, _, -, -, -, hexists, -⟩ := hit
    exact hexists

theorem candidate_of_slash (directory name : String) :
    candidate (directory ++ "/") name = directory ++ "/" ++ name := by
  rw [candidate, if_pos (by simp)]

theorem candidate_of_no_slash {directory : String}
    (h : directory.toList.getLast? ≠ some '/') :
    candidate directory name = directory ++ "/" ++ name := by
  rw [candidate, if_neg h]

theorem slash_mem_candidate (directory name : String) :
    '/' ∈ (candidate directory name).toList := by
  rw [candidate]
  split
  · next hlast =>
    rw [String.toList_append]
    exact List.mem_append_left _ (List.mem_of_getLast? hlast)
  · simp

theorem slash_mem_of_resolves {location : Location}
    (h : Resolves pathExists search name (.ok location)) : '/' ∈ location.path.toList := by
  cases h with
  | typed slash => exact slash
  | searched named bare hit =>
    obtain ⟨_, segment, _, -, -, rfl, -, -⟩ := hit
    exact slash_mem_candidate _ _

/-- **From a name to a file.** A name without any character is not found. A name with a slash
    is itself the path, whatever the search list is, and is found just if there is a file. Any
    other name is not found without a search list; with one, the file is the first that a
    segment of the list leads to. These rules leave no choice, and a search always has one
    answer. A candidate is the directory, a slash and the name, without a second slash where
    the directory ends with one. Whatever is found is a file that exists, its path holds a
    slash and is the name just if this was typed as a path; and a system that is handed the
    path makes no search of its own. -/
theorem find_iff_resolves (pathExists : String → Bool) (search : Option String) (name : String) :
    (∀ result, find pathExists search name = result ↔ Resolves pathExists search name result)
      ∧ (∀ directory, candidate (directory ++ "/") name = directory ++ "/" ++ name)
      ∧ (∀ directory, directory.toList.getLast? ≠ some '/' →
        candidate directory name = directory ++ "/" ++ name)
      ∧ ∀ location, find pathExists search name = .ok location →
        pathExists location.path = true ∧ location.path ≠ "" ∧ '/' ∈ location.path.toList
          ∧ (location.path = name ↔ location = .asTyped name)
          ∧ ∀ load systemList, Machine.search load systemList location.path
            = load location.path := by
  refine ⟨fun _ => resolves_iff.symm, fun directory => candidate_of_slash directory name,
    fun directory h => candidate_of_no_slash h, ?_⟩
  intro location hfound
  have hrule := resolves_iff.mpr hfound
  have hslash := slash_mem_of_resolves hrule
  have hpath : location.path ≠ "" := by
    intro hempty
    rw [hempty] at hslash
    cases hslash
  have hself : location.path = name ↔ location = .asTyped name := by
    cases hrule with
    | typed slash => exact iff_of_true rfl rfl
    | searched named bare hit =>
      -- A path that was made has a slash, and a name that was looked for has none.
      refine iff_of_false ?_ (by simp)
      intro hsame
      rw [hsame] at hslash
      exact bare hslash
  refine ⟨exists_of_find hfound, hpath, hslash, hself, ?_⟩
  intro load systemList
  rw [Machine.search, if_pos hslash]

/-- Behind empty segments and a directory without the file, a directory that ends with a
    slash. -/
theorem find_iff_resolves_later :
    find (fun path => path = "/bin/sh") (some "::/opt::/bin/:/usr") "sh"
        = .ok (.searched "/bin/sh")
      ∧ '/' ∈ (Location.searched "/bin/sh").path.toList
      ∧ Resolves (fun path => path = "/bin/sh") (some "::/opt::/bin/:/usr") "sh"
        (.ok (.searched "/bin/sh")) := by
  have hfound : find (fun path => path = "/bin/sh") (some "::/opt::/bin/:/usr") "sh"
      = .ok (.searched "/bin/sh") := rfl
  obtain ⟨hrules, -, -, hpaths⟩ :=
    find_iff_resolves (fun path => path = "/bin/sh") (some "::/opt::/bin/:/usr") "sh"
  exact ⟨hfound, (hpaths _ hfound).2.2.1, (hrules _).mp hfound⟩

end Lookup
end LineShell
