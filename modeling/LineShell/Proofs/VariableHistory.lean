/-
  LineShell.Proofs.VariableHistory

  The variables of a shell after any number of settings.

  Setting a variable has two cases (`assign_of_first`, `assign_of_absent`): the first pair with
  the key takes the value in its place, or a new pair goes behind all others. So the keys stay
  where they are, and a history of settings adds to them the keys that are new, in the order in
  which they were set first (`keysOf_setAll`). The main statement adds what is found under a
  key afterwards, and what each single setting leaves alone.

  Nothing here asks that the keys of the first pairs be distinct; if they are, they stay so.
-/
import LineShell.Proofs.ChildBlock

namespace LineShell.Environment

variable {key value : String} {vars pairs before after : List (String × String)}

/-- The keys of some pairs, in order and with repetitions. -/
def keysOf (pairs : List (String × String)) : List String := pairs.map Prod.fst

theorem keysOf_cons (k v : String) (pairs : List (String × String)) :
    keysOf ((k, v) :: pairs) = k :: keysOf pairs := rfl

theorem keysOf_append (first second : List (String × String)) :
    keysOf (first ++ second) = keysOf first ++ keysOf second := List.map_append

/-! ## The first and the last pair with a key -/

/-- What is found under a key stands in the first pair with it. -/
theorem lookup_eq_some_iff_first :
    pairs.lookup key = some value
      ↔ ∃ before after, pairs = before ++ (key, value) :: after ∧ key ∉ keysOf before := by
  rw [List.lookup_eq_some_iff]
  -- The library says of each earlier pair that its key is another one.
  have hkeys : ∀ before : List (String × String),
      (∀ pair ∈ before, (key != pair.1) = true) ↔ key ∉ keysOf before := by
    intro before
    rw [keysOf, List.mem_map]
    constructor
    · rintro hother ⟨pair, hpair, rfl⟩
      exact bne_iff_ne.mp (hother pair hpair) rfl
    · intro habsent pair hpair
      exact bne_iff_ne.mpr fun heq => habsent ⟨pair, hpair, heq.symm⟩
  simp only [hkeys]

/-- In the reversed list it stands in the last pair with it. -/
theorem lookup_reverse_eq_some_iff_last :
    pairs.reverse.lookup key = some value
      ↔ ∃ before after, pairs = before ++ (key, value) :: after ∧ key ∉ keysOf after := by
  have hreverse : ∀ pairs : List (String × String),
      key ∈ keysOf pairs.reverse ↔ key ∈ keysOf pairs := by
    intro pairs
    rw [keysOf, List.map_reverse, List.mem_reverse, keysOf]
  rw [lookup_eq_some_iff_first]
  constructor
  · rintro ⟨before, after, hpairs, habsent⟩
    refine ⟨after.reverse, before.reverse, ?_, ?_⟩
    · have h := congrArg List.reverse hpairs
      rw [List.reverse_reverse, List.reverse_append, List.reverse_cons, List.append_assoc,
        List.singleton_append] at h
      exact h
    · rwa [hreverse]
  · rintro ⟨before, after, rfl, habsent⟩
    refine ⟨after.reverse, before.reverse, ?_, ?_⟩
    · rw [List.reverse_append, List.reverse_cons, List.append_assoc, List.singleton_append]
    · rwa [hreverse]

theorem lookup_eq_none_iff_absent : pairs.lookup key = none ↔ key ∉ keysOf pairs := by
  rw [lookup_eq_none_iff, occurrences, List.count_eq_zero, keysOf]

theorem lookup_reverse_eq_none_iff_absent :
    pairs.reverse.lookup key = none ↔ key ∉ keysOf pairs := by
  rw [lookup_reverse_eq_none_iff, occurrences, List.count_eq_zero, keysOf]

/-- A key that is there has a first pair. -/
theorem exists_first (h : key ∈ keysOf vars) :
    ∃ before old after, vars = before ++ (key, old) :: after ∧ key ∉ keysOf before := by
  cases hfound : vars.lookup key with
  | none => exact absurd h (lookup_eq_none_iff_absent.mp hfound)
  | some old =>
    obtain ⟨before, after, hvars, habsent⟩ := lookup_eq_some_iff_first.mp hfound
    exact ⟨before, old, after, hvars, habsent⟩

/-! ## One setting -/

/-- The first pair with the key takes the value, and no other pair changes. -/
theorem assign_of_first (old : String) (h : key ∉ keysOf before) :
    assign key value (before ++ (key, old) :: after) = before ++ (key, value) :: after := by
  induction before with
  | nil => exact if_pos rfl
  | cons pair before ih =>
    obtain ⟨k, v⟩ := pair
    rw [keysOf_cons, List.mem_cons, not_or] at h
    obtain ⟨hhead, hlater⟩ := h
    rw [List.cons_append, assign, if_neg (Ne.symm hhead), ih hlater, List.cons_append]

/-- A new key comes behind all others. -/
theorem assign_of_absent (h : key ∉ keysOf vars) :
    assign key value vars = vars ++ [(key, value)] := by
  induction vars with
  | nil => rfl
  | cons pair vars ih =>
    obtain ⟨k, v⟩ := pair
    rw [keysOf_cons, List.mem_cons, not_or] at h
    obtain ⟨hhead, hlater⟩ := h
    rw [assign, if_neg (Ne.symm hhead), ih hlater, List.cons_append]

theorem keysOf_assign (key value : String) (vars : List (String × String)) :
    keysOf (assign key value vars)
      = if key ∈ keysOf vars then keysOf vars else keysOf vars ++ [key] := by
  by_cases h : key ∈ keysOf vars
  · rw [if_pos h]
    obtain ⟨before, old, after, rfl, habsent⟩ := exists_first h
    rw [assign_of_first old habsent, keysOf_append, keysOf_append, keysOf_cons, keysOf_cons]
  · rw [if_neg h, assign_of_absent h, keysOf_append]
    rfl

/-- A setting never makes a second pair with a key. -/
theorem nodup_keysOf_assign (h : (keysOf vars).Nodup) (key value : String) :
    (keysOf (assign key value vars)).Nodup := by
  rw [keysOf_assign]
  split
  · exact h
  · next hnew =>
    rw [List.nodup_append]
    refine ⟨h, by simp, ?_⟩
    intro k hk other hother heq
    rw [List.mem_singleton.mp hother] at heq
    rw [heq] at hk
    exact hnew hk

/-! ## Many settings -/

theorem setAll_cons (env : Environment) (key value : String) (updates : List (String × String)) :
    env.setAll ((key, value) :: updates) = (env.set key value).setAll updates := rfl

theorem setAll_concat (env : Environment) (updates : List (String × String))
    (key value : String) :
    env.setAll (updates ++ [(key, value)]) = (env.setAll updates).set key value :=
  List.foldl_append

/-- Settings change nothing but the variables. -/
theorem setAll_eq (env : Environment) (updates : List (String × String)) :
    env.setAll updates = { env with vars := (env.setAll updates).vars } := by
  induction updates generalizing env with
  | nil => rfl
  | cons pair updates ih =>
    obtain ⟨k, v⟩ := pair
    rw [setAll_cons, ih]
    rfl

/-- The keys that settings of `keys` add to those that are known: each once, in the order in
    which they are set first. -/
def newKeys (known keys : List String) : List String :=
  (keys.filter fun key => key ∉ known).eraseDups

theorem newKeys_of_mem {known : List String} (h : key ∈ known) (later : List String) :
    newKeys known (key :: later) = newKeys known later := by
  rw [newKeys, List.filter_cons_of_neg (by simpa using h), newKeys]

theorem newKeys_of_not_mem {known : List String} (h : key ∉ known) (later : List String) :
    newKeys known (key :: later) = key :: newKeys (known ++ [key]) later := by
  rw [newKeys, List.filter_cons_of_pos (by simpa using h), List.eraseDups_cons,
    List.filter_filter, newKeys]
  -- A later setting of this key brings nothing new, as if the key had been known.
  congr 2
  apply List.filter_congr
  intro other _
  by_cases heq : other = key
  · simp [heq]
  · simp [heq]

/-- No key is added twice. -/
theorem nodup_eraseDups (keys : List String) : keys.eraseDups.Nodup := by
  induction hlen : keys.length using Nat.strongRecOn generalizing keys with
  | ind n ih =>
    cases keys with
    | nil => exact List.nodup_nil
    | cons key later =>
      rw [List.eraseDups_cons, List.nodup_cons]
      have hshorter := List.length_filter_le (fun other => !other == key) later
      rw [List.length_cons] at hlen
      refine ⟨?_, ih _ (by omega) _ rfl⟩
      rw [List.mem_eraseDups, List.mem_filter]
      simp

/-- The keys stay as they are and get the new ones behind them. -/
theorem keysOf_setAll (env : Environment) (updates : List (String × String)) :
    keysOf (env.setAll updates).vars
      = keysOf env.vars ++ newKeys (keysOf env.vars) (keysOf updates) := by
  -- On the settings; after the first one its key counts as known.
  induction updates generalizing env with
  | nil => exact (List.append_nil _).symm
  | cons pair updates ih =>
    obtain ⟨key, value⟩ := pair
    have hset : (env.set key value).vars = assign key value env.vars := rfl
    rw [setAll_cons, ih, hset, keysOf_assign, keysOf_cons]
    by_cases hknown : key ∈ keysOf env.vars
    · rw [if_pos hknown, newKeys_of_mem hknown]
    · rw [if_neg hknown, newKeys_of_not_mem hknown, List.append_assoc, List.singleton_append]

theorem nodup_keysOf_setAll {env : Environment} (h : (keysOf env.vars).Nodup)
    (updates : List (String × String)) : (keysOf (env.setAll updates).vars).Nodup := by
  induction updates generalizing env with
  | nil => exact h
  | cons pair updates ih =>
    obtain ⟨key, value⟩ := pair
    have hset : (keysOf (env.set key value).vars).Nodup := nodup_keysOf_assign h key value
    exact ih hset

/-- **The variables after a history of settings.** A variable has the value that it was set to
    last, or else the value of the first pair with its key, or else none. The keys are those of
    the first pairs, as they stood, and behind them the keys that were set and were not there,
    each once and in the order in which they were set first. Every single setting replaces the
    value of one pair, the first with its key, or else appends a pair, and it leaves all other
    pairs and all registers as they were. So keys that are distinct stay distinct. -/
theorem vars_of_history (env : Environment) (updates : List (String × String)) :
    (∀ key value, (env.setAll updates).get? key = some value
        ↔ (∃ before after, updates = before ++ (key, value) :: after ∧ key ∉ keysOf after)
          ∨ (key ∉ keysOf updates
            ∧ ∃ before after, env.vars = before ++ (key, value) :: after
              ∧ key ∉ keysOf before))
      ∧ (∀ key, (env.setAll updates).get? key = none
        ↔ key ∉ keysOf updates ∧ key ∉ keysOf env.vars)
      ∧ (keysOf (env.setAll updates).vars
          = keysOf env.vars ++ newKeys (keysOf env.vars) (keysOf updates)
        ∧ (newKeys (keysOf env.vars) (keysOf updates)).Nodup)
      ∧ (∀ done key value later, updates = done ++ (key, value) :: later →
        (∃ before old after, (env.setAll done).vars = before ++ (key, old) :: after
            ∧ key ∉ keysOf before
            ∧ env.setAll (done ++ [(key, value)])
              = { env with vars := before ++ (key, value) :: after })
          ∨ (key ∉ keysOf (env.setAll done).vars
            ∧ env.setAll (done ++ [(key, value)])
              = { env with vars := (env.setAll done).vars ++ [(key, value)] }))
      ∧ ((keysOf env.vars).Nodup → (keysOf (env.setAll updates).vars).Nodup) := by
  refine ⟨?_, ?_, ⟨keysOf_setAll env updates, nodup_eraseDups _⟩, ?_,
    fun h => nodup_keysOf_setAll h updates⟩
  · intro key value
    rw [get?_setAll, Option.or_eq_some_iff, lookup_reverse_eq_some_iff_last,
      lookup_reverse_eq_none_iff_absent, get?, lookup_eq_some_iff_first]
  · intro key
    rw [get?_setAll, Option.or_eq_none_iff, lookup_reverse_eq_none_iff_absent, get?,
      lookup_eq_none_iff_absent]
  · intro done key value later _
    -- The setting is made on what the settings before it have left.
    have hstep : env.setAll (done ++ [(key, value)])
        = { env with vars := assign key value (env.setAll done).vars } := by
      rw [setAll_concat, setAll_eq env done]
      rfl
    rw [hstep]
    by_cases hpresent : key ∈ keysOf (env.setAll done).vars
    · obtain ⟨before, old, after, hvars, habsent⟩ := exists_first hpresent
      exact .inl ⟨before, old, after, hvars, habsent, by rw [hvars, assign_of_first old habsent]⟩
    · exact .inr ⟨hpresent, by rw [assign_of_absent hpresent]⟩

/-- A history on distinct keys, and the same on a repeated key. -/
theorem vars_of_history_repeated :
    let updates := [("C", "3"), ("B", "22"), ("C", "4")]
    let distinct : Environment := { vars := [("B", "2"), ("A", "1")] }
    let repeated : Environment := { vars := [("B", "2"), ("A", "1"), ("B", "0")] }
    (keysOf distinct.vars).Nodup ∧ (keysOf (distinct.setAll updates).vars).Nodup
      ∧ updates = [("C", "3")] ++ ("B", "22") :: [("C", "4")]
      ∧ (repeated.setAll updates).get? "B" = some "22"
      ∧ (repeated.setAll updates).get? "D" = none
      ∧ keysOf (repeated.setAll updates).vars = ["B", "A", "B", "C"]
      ∧ ∃ before old after,
        [("B", "2"), ("A", "1"), ("B", "0"), ("C", "3")] = before ++ ("B", old) :: after
          ∧ "B" ∉ keysOf before
          ∧ repeated.setAll [("C", "3"), ("B", "22")]
            = { repeated with vars := before ++ ("B", "22") :: after } := by
  intro updates distinct repeated
  have hdistinct : (keysOf distinct.vars).Nodup := by decide
  obtain ⟨-, -, -, -, hnodup⟩ := vars_of_history distinct updates
  obtain ⟨hfound, hmissing, ⟨hkeys, -⟩, hstep, -⟩ := vars_of_history repeated updates
  refine ⟨hdistinct, hnodup hdistinct, rfl, ?_, ?_, ?_, ?_⟩
  · exact (hfound "B" "22").mpr (.inl ⟨[("C", "3")], [("C", "4")], rfl, by decide⟩)
  · exact (hmissing "D").mpr (by decide)
  · rw [hkeys]
    decide
  · rcases hstep [("C", "3")] "B" "22" [("C", "4")] rfl with hfirst | ⟨habsent, -⟩
    · exact hfirst
    · exact absurd (by decide) habsent

end LineShell.Environment
