/-
  LineShell.Proofs.ChildBlock

  The variables that a started program receives.

  A shell holds its variables as a list in which a key may occur more than once. Three
  readers go through this list: looking a variable up stops at the first pair with its key,
  setting it changes the first pair, and the block of a started program keeps the last
  pair. For each of them one lemma tells which pair counts, the block being a map with
  strictly ascending keys. From this follows, for variables that were set any number of
  times, when a program receives the value that the shell itself sees: for every key that
  stood in the first list at most once, and for a repeated key only by coincidence.
-/
import LineShell.Interpreter
import LineShell.Proofs.Decoding

namespace LineShell

/-! ## Lists of pairs -/

section
variable {κ ν : Type} [BEq κ] [LawfulBEq κ]

theorem mem_of_lookup {pairs : List (κ × ν)} {key : κ} {value : ν}
    (h : pairs.lookup key = some value) : (key, value) ∈ pairs := by
  obtain ⟨before, after, rfl, -⟩ := List.lookup_eq_some_iff.mp h
  exact List.mem_append_right before List.mem_cons_self

variable [DecidableEq κ]

theorem lookup_cons_eq_ite (k other : κ) (v : ν) (pairs : List (κ × ν)) :
    ((k, v) :: pairs).lookup other = if other = k then some v else pairs.lookup other := by
  rw [List.lookup_cons]
  by_cases h : other = k
  · rw [if_pos h, beq_iff_eq.mpr h]
  · rw [if_neg h, beq_eq_false_iff_ne.mpr h]

/-- Where each pair replaces what was seen under its key, the last pair with a key counts. -/
theorem lookup_foldl {β : Type} (view : β → κ → Option ν) (put : β → κ × ν → β)
    (hput : ∀ b pair key, view (put b pair) key = if key = pair.1 then some pair.2 else view b key)
    (pairs : List (κ × ν)) (b : β) (key : κ) :
    view (pairs.foldl put b) key = (pairs.reverse.lookup key).or (view b key) := by
  induction pairs generalizing b with
  | nil => rfl
  | cons pair pairs ih =>
    rw [List.foldl_cons, ih, hput, List.reverse_cons, List.lookup_append, Option.or_assoc,
      lookup_cons_eq_ite]
    congr 1
    split <;> rfl

end

/-! ## The block as a map -/

namespace Block

/-- The keys of a block ascend strictly, so no key occurs twice. -/
def Ascending (block : Block) : Prop := block.Pairwise fun first second => first.1 < second.1

/-- After an insertion the new value is found under its key, and any other as before. -/
theorem lookup_insert (key value : Bytes) (block : Block) (other : Bytes) :
    (insert key value block).lookup other
      = if other = key then some value else block.lookup other := by
  induction block with
  | nil => exact lookup_cons_eq_ite key other value []
  | cons head rest ih =>
    obtain ⟨k, v⟩ := head
    -- The new pair goes in front of the first one, takes its place, or goes further behind.
    rw [insert]
    split
    · exact lookup_cons_eq_ite key other value ((k, v) :: rest)
    · split
      · next heq =>
        rw [lookup_cons_eq_ite, lookup_cons_eq_ite, heq]
        split <;> rfl
      · next hne =>
        rw [lookup_cons_eq_ite, lookup_cons_eq_ite, ih]
        by_cases hk : other = k
        · rw [if_pos hk, if_neg (by rw [hk]; exact fun h => hne h.symm), if_pos hk]
        · rw [if_neg hk, if_neg hk]

/-- An insertion brings no key but the new one. -/
theorem mem_insert {key value : Bytes} {block : Block} {entry : Bytes × Bytes}
    (h : entry ∈ insert key value block) : entry = (key, value) ∨ entry ∈ block := by
  induction block with
  | nil => exact .inl (List.mem_singleton.mp h)
  | cons head rest ih =>
    obtain ⟨k, v⟩ := head
    rw [insert] at h
    split at h
    · exact List.mem_cons.mp h
    · split at h
      · exact (List.mem_cons.mp h).imp_right (List.mem_cons_of_mem _)
      · rcases List.mem_cons.mp h with rfl | hrest
        · exact .inr List.mem_cons_self
        · exact (ih hrest).imp_right (List.mem_cons_of_mem _)

theorem ascending_insert {block : Block} (h : block.Ascending) (key value : Bytes) :
    (insert key value block).Ascending := by
  induction block with
  | nil => exact List.pairwise_singleton _ _
  | cons head rest ih =>
    obtain ⟨k, v⟩ := head
    obtain ⟨hhead, hrest⟩ := List.pairwise_cons.mp h
    rw [insert]
    split
    · next hlt =>
      -- The new key stands below the first one, and so below all of them.
      refine List.pairwise_cons.mpr ⟨?_, h⟩
      intro entry hentry
      rcases List.mem_cons.mp hentry with rfl | hmem
      · exact hlt
      · exact List.lt_trans hlt (hhead entry hmem)
    · next hnlt =>
      split
      · next heq =>
        rw [heq]
        exact List.pairwise_cons.mpr ⟨hhead, hrest⟩
      · next hne =>
        have hgt : k < key := by
          rcases Std.lt_trichotomy key k with hlt | heq | hgt
          · exact absurd hlt hnlt
          · exact absurd heq hne
          · exact hgt
        refine List.pairwise_cons.mpr ⟨?_, ih hrest⟩
        intro entry hentry
        rcases mem_insert hentry with rfl | hmem
        · exact hgt
        · exact hhead entry hmem

theorem ascending_ofPairs (pairs : List (Bytes × Bytes)) : (ofPairs pairs).Ascending := by
  have hfold : ∀ block : Block, block.Ascending →
      (pairs.foldl (fun block pair => insert pair.1 pair.2 block) block).Ascending := by
    induction pairs with
    | nil => exact fun block h => h
    | cons pair pairs ih => exact fun block h => ih _ (ascending_insert h pair.1 pair.2)
  exact hfold [] List.Pairwise.nil

/-- In a map the entries are what can be found. -/
theorem mem_iff_lookup {block : Block} (h : block.Ascending) {key value : Bytes} :
    (key, value) ∈ block ↔ block.lookup key = some value := by
  refine ⟨?_, mem_of_lookup⟩
  induction block with
  | nil => exact fun hmem => absurd hmem List.not_mem_nil
  | cons head rest ih =>
    obtain ⟨k, v⟩ := head
    obtain ⟨hhead, hrest⟩ := List.pairwise_cons.mp h
    intro hmem
    rw [lookup_cons_eq_ite]
    rcases List.mem_cons.mp hmem with heq | hlater
    · cases heq
      exact if_pos rfl
    · -- A pair behind the first one has a greater key.
      have hne : key ≠ k := by
        intro heq
        have hlt := hhead (key, value) hlater
        rw [heq] at hlt
        exact List.lt_irrefl k hlt
      rw [if_neg hne]
      exact ih hrest hlater

theorem lookup_ofPairs (pairs : List (Bytes × Bytes)) (key : Bytes) :
    (ofPairs pairs).lookup key = pairs.reverse.lookup key := by
  have hfold := lookup_foldl (fun block key => List.lookup key block)
    (fun block pair => insert pair.1 pair.2 block)
    (fun block pair key => lookup_insert pair.1 pair.2 block key) pairs [] key
  rw [List.lookup_nil, Option.or_none] at hfold
  exact hfold

theorem ascending_ofVars (vars : List (String × String)) : (ofVars vars).Ascending :=
  ascending_ofPairs _

/-- Of several pairs with a key the last one goes into the block. -/
theorem lookup_ofVars (vars : List (String × String)) (key : String) :
    (ofVars vars).lookup (Utf8.encode key) = (vars.reverse.lookup key).map Utf8.encode := by
  have hmap : ∀ pairs : List (String × String),
      (pairs.map fun pair => (Utf8.encode pair.1, Utf8.encode pair.2)).lookup (Utf8.encode key)
        = (pairs.lookup key).map Utf8.encode := by
    intro pairs
    induction pairs with
    | nil => rfl
    | cons pair pairs ih =>
      obtain ⟨k, v⟩ := pair
      rw [List.map_cons, lookup_cons_eq_ite, lookup_cons_eq_ite, ih]
      by_cases h : key = k
      · rw [if_pos h, if_pos (Utf8.encode_inj.mpr h)]
        rfl
      · rw [if_neg h, if_neg (fun heq => h (Utf8.encode_inj.mp heq))]
  rw [ofVars, lookup_ofPairs, ← List.map_reverse]
  exact hmap vars.reverse

/-- The entries of the block of some variables. -/
theorem mem_ofVars {vars : List (String × String)} {key value : Bytes} :
    (key, value) ∈ ofVars vars
      ↔ ∃ k v, vars.reverse.lookup k = some v ∧ key = Utf8.encode k ∧ value = Utf8.encode v := by
  constructor
  · intro hmem
    -- The key of an entry is that of some pair, and so the bytes of a text.
    have hfound := (mem_iff_lookup (ascending_ofVars vars)).mp hmem
    rw [ofVars, lookup_ofPairs] at hfound
    obtain ⟨⟨k, v⟩, -, heq⟩ := List.mem_map.mp (List.mem_reverse.mp (mem_of_lookup hfound))
    have hkey : Utf8.encode k = key := congrArg Prod.fst heq
    have hvalue := (mem_iff_lookup (ascending_ofVars vars)).mp hmem
    rw [← hkey, lookup_ofVars] at hvalue
    obtain ⟨last, hlast, hencoded⟩ := Option.map_eq_some_iff.mp hvalue
    exact ⟨k, last, hlast, hkey.symm, hencoded.symm⟩
  · rintro ⟨k, v, hlast, rfl, rfl⟩
    rw [mem_iff_lookup (ascending_ofVars vars), lookup_ofVars, hlast]
    rfl

end Block

/-! ## Setting variables -/

namespace Environment

/-- How many pairs have a key. -/
def occurrences (key : String) (vars : List (String × String)) : Nat :=
  (vars.map Prod.fst).count key

/-- A variable that was set is found with its new value, any other as before. -/
theorem lookup_assign (key value : String) (vars : List (String × String)) (other : String) :
    (assign key value vars).lookup other
      = if other = key then some value else vars.lookup other := by
  induction vars with
  | nil => exact lookup_cons_eq_ite key other value []
  | cons pair vars ih =>
    obtain ⟨k, v⟩ := pair
    rw [assign]
    split
    · next heq =>
      rw [lookup_cons_eq_ite, lookup_cons_eq_ite, heq]
      split <;> rfl
    · next hne =>
      rw [lookup_cons_eq_ite, lookup_cons_eq_ite, ih]
      by_cases hk : other = k
      · rw [if_pos hk, if_neg (by rw [hk]; exact hne), if_pos hk]
      · rw [if_neg hk, if_neg hk]

theorem occurrences_cons (k v other : String) (vars : List (String × String)) :
    occurrences other ((k, v) :: vars) = occurrences other vars + if k = other then 1 else 0 := by
  simp only [occurrences, List.map_cons, List.count_cons, beq_iff_eq]

/-- Setting a variable never adds a pair to one that is there. -/
theorem occurrences_assign (key value : String) (vars : List (String × String))
    (other : String) :
    occurrences other (assign key value vars)
      = if other = key then max 1 (occurrences key vars) else occurrences other vars := by
  induction vars with
  | nil =>
    rw [assign, occurrences_cons]
    by_cases h : other = key
    · simp [h, occurrences]
    · simp [h, Ne.symm h, occurrences]
  | cons pair vars ih =>
    obtain ⟨k, v⟩ := pair
    -- A pair with the key takes the value, and nothing is added behind it.
    rw [assign]
    split
    · next heq =>
      rw [occurrences_cons, occurrences_cons, occurrences_cons, heq]
      by_cases h : other = key
      · simp [h]
      · simp [h]
    · next hne =>
      rw [occurrences_cons, occurrences_cons, occurrences_cons, ih]
      by_cases h : other = key
      · rw [if_pos h, if_pos h, if_neg (by rw [h]; exact hne), if_neg hne]
        rfl
      · rw [if_neg h, if_neg h]

/-- A variable is found, from either end, just if some pair has its key. -/
theorem lookup_eq_none_iff {key : String} {vars : List (String × String)} :
    vars.lookup key = none ↔ occurrences key vars = 0 := by
  rw [List.lookup_eq_none_iff, occurrences, List.count_eq_zero, List.mem_map]
  constructor
  · rintro h ⟨pair, hpair, heq⟩
    exact bne_iff_ne.mp (h pair hpair) heq.symm
  · intro h pair hpair
    exact bne_iff_ne.mpr fun heq => h ⟨pair, hpair, heq.symm⟩

theorem lookup_reverse_eq_none_iff {key : String} {vars : List (String × String)} :
    vars.reverse.lookup key = none ↔ occurrences key vars = 0 := by
  rw [lookup_eq_none_iff, occurrences, List.map_reverse, List.count_reverse, occurrences]

/-- A variable that is set gets a new last pair only if it was there once at most. -/
theorem lookup_reverse_assign (key value : String) (vars : List (String × String))
    (other : String) :
    (assign key value vars).reverse.lookup other
      = if other = key ∧ occurrences key vars ≤ 1 then some value
        else vars.reverse.lookup other := by
  -- Behind the first pair nothing changes, so a second pair with the key stays the last.
  have hcons : ∀ (k v : String) (vars : List (String × String)),
      ((k, v) :: vars).reverse.lookup other
        = (vars.reverse.lookup other).or (if other = k then some v else none) := by
    intro k v vars
    rw [List.reverse_cons, List.lookup_append, lookup_cons_eq_ite, List.lookup_nil]
  induction vars with
  | nil =>
    rw [assign, hcons]
    simp [occurrences]
  | cons pair vars ih =>
    obtain ⟨k, v⟩ := pair
    rw [assign, hcons]
    split
    · next heq =>
      rw [hcons, occurrences_cons, if_pos heq]
      by_cases hother : other = key
      · rcases hlast : vars.reverse.lookup other with _ | last
        · have hnone : occurrences key vars = 0 := by
            rw [← lookup_reverse_eq_none_iff, ← hother, hlast]
          simp [hnone, hother, heq]
        · have hsome : occurrences key vars ≠ 0 := by
            rw [ne_eq, ← lookup_reverse_eq_none_iff, ← hother, hlast]
            exact Option.some_ne_none last
          have hmany : ¬ (other = key ∧ occurrences key vars + 1 ≤ 1) := by
            rintro ⟨-, h⟩
            omega
          rw [if_neg hmany]
          rfl
      · rw [if_neg (by rw [heq]; exact hother), if_neg (fun h => hother h.1),
          if_neg (by rw [heq]; exact hother)]
    · next hne =>
      rw [hcons, occurrences_cons, if_neg hne, ih, Nat.add_zero]
      split
      · rfl
      · rfl

/-! ## Many settings -/

theorem get?_setAll (env : Environment) (updates : List (String × String)) (key : String) :
    (env.setAll updates).get? key = (updates.reverse.lookup key).or (env.get? key) :=
  lookup_foldl get? (fun env pair => env.set pair.1 pair.2)
    (fun env pair key => lookup_assign pair.1 pair.2 env.vars key) updates env key

/-- The last pair with a key, after some variables were set: it is the last update of a
    variable that was there once at most, and stays what it was for any other. -/
theorem lookup_reverse_setAll (env : Environment) (updates : List (String × String))
    (key : String) :
    (env.setAll updates).vars.reverse.lookup key
      = if occurrences key env.vars ≤ 1
        then (updates.reverse.lookup key).or (env.vars.reverse.lookup key)
        else env.vars.reverse.lookup key := by
  induction updates generalizing env with
  | nil =>
    rw [setAll, List.foldl_nil, List.reverse_nil, List.lookup_nil, Option.none_or, ite_self]
  | cons pair updates ih =>
    obtain ⟨k, v⟩ := pair
    -- The first update is one assignment, and of the others the same is known already. None of
    -- them makes a key occur more than once that did not.
    have hset : (env.set k v).vars = assign k v env.vars := rfl
    rw [setAll, List.foldl_cons, ← setAll, ih, hset, occurrences_assign, lookup_reverse_assign,
      List.reverse_cons, List.lookup_append, lookup_cons_eq_ite, List.lookup_nil, Option.or_assoc]
    by_cases hkey : key = k
    · subst hkey
      by_cases honce : occurrences key env.vars ≤ 1
      · rw [if_pos rfl, if_pos (by omega), if_pos ⟨rfl, honce⟩, if_pos honce, if_pos rfl]
        rfl
      · rw [if_pos rfl, if_neg (by omega), if_neg (fun h => honce h.2), if_neg honce]
    · rw [if_neg hkey, if_neg (fun h : key = k ∧ _ => hkey h.1), if_neg hkey, Option.none_or]

/-- A variable that is there once at most is the same from either end. -/
theorem lookup_reverse_of_once {key : String} {vars : List (String × String)}
    (h : occurrences key vars ≤ 1) : vars.reverse.lookup key = vars.lookup key := by
  induction vars with
  | nil => rfl
  | cons pair vars ih =>
    obtain ⟨k, v⟩ := pair
    rw [occurrences_cons] at h
    rw [List.reverse_cons, List.lookup_append, lookup_cons_eq_ite, lookup_cons_eq_ite,
      List.lookup_nil]
    by_cases hkey : key = k
    · rw [if_pos hkey.symm] at h
      have hnone : occurrences key vars = 0 := by omega
      rw [lookup_reverse_eq_none_iff.mpr hnone, if_pos hkey, Option.none_or]
      exact (if_pos hkey).symm
    · rw [if_neg (Ne.symm hkey)] at h
      rw [ih h, if_neg hkey, if_neg hkey, Option.or_none]

/-- **What the shell and its programs see of a variable.** Whatever pairs a shell began with
    and whatever was set since, it sees the latest update of a variable or else the first of
    the pairs. So does a program, if the key stood in at most one of the pairs; for a
    repeated key a program receives the last of the pairs, and no update ever reaches it. A
    variable that the one does not have the other lacks too, and both see the same value
    just if the key was not repeated or the last pair happens to hold what the shell sees. -/
theorem block_of_launch (pairs updates : List (String × String)) (command : External)
    (key : String) :
    let env := setAll { vars := pairs } updates
    let block := (command.launch env).block
    block.Ascending
      ∧ env.get? key = (updates.reverse.lookup key).or (pairs.lookup key)
      ∧ block.lookup (Utf8.encode key)
        = (if occurrences key pairs ≤ 1 then (updates.reverse.lookup key).or (pairs.lookup key)
            else pairs.reverse.lookup key).map Utf8.encode
      ∧ (block.lookup (Utf8.encode key) = none ↔ env.get? key = none)
      ∧ (block.lookup (Utf8.encode key) = (env.get? key).map Utf8.encode
        ↔ occurrences key pairs ≤ 1
          ∨ pairs.reverse.lookup key = (updates.reverse.lookup key).or (pairs.lookup key)) := by
  intro env block
  have hseen : env.get? key = (updates.reverse.lookup key).or (pairs.lookup key) :=
    get?_setAll { vars := pairs } updates key
  have hreceived : block.lookup (Utf8.encode key)
      = (if occurrences key pairs ≤ 1 then (updates.reverse.lookup key).or (pairs.lookup key)
          else pairs.reverse.lookup key).map Utf8.encode := by
    rw [show block = Block.ofVars env.vars from rfl, Block.lookup_ofVars,
      lookup_reverse_setAll { vars := pairs } updates key]
    split
    · next honce => rw [lookup_reverse_of_once honce]
    · rfl
  refine ⟨Block.ascending_ofVars env.vars, hseen, hreceived, ?_, ?_⟩
  · rw [hreceived, hseen, Option.map_eq_none_iff]
    split
    · rfl
    · next hmany =>
      -- A repeated key is found from either end, so neither of the two lacks it.
      have hlast : pairs.reverse.lookup key ≠ none := by
        rw [ne_eq, lookup_reverse_eq_none_iff]
        omega
      have hfirst : pairs.lookup key ≠ none := by
        rw [ne_eq, lookup_eq_none_iff]
        omega
      rw [Option.or_eq_none_iff]
      exact ⟨fun h => absurd h hlast, fun h => absurd h.2 hfirst⟩
  · rw [hreceived, hseen]
    have hinj : ∀ first second : Option String,
        first.map Utf8.encode = second.map Utf8.encode ↔ first = second := by
      intro first second
      exact Option.map_inj_right fun s t h => Utf8.encode_inj.mp h
    rw [hinj]
    by_cases honce : occurrences key pairs ≤ 1
    · simp [honce]
    · simp [honce]

theorem block_of_launch_repeated :
    let env := setAll { vars := [("K", "1"), ("K", "2")] } [("K", "3")]
    let block := (External.launch ⟨"env", "/usr/bin/env", []⟩ env).block
    env.get? "K" = some "3"
      ∧ block.lookup (Utf8.encode "K") = some (Utf8.encode "2")
      ∧ block.lookup (Utf8.encode "K") ≠ (env.get? "K").map Utf8.encode := by
  decide

end Environment
end LineShell
