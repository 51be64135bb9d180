/-
  LineShell.Proofs.Capture

  From the entries of a block to variables, and back to the entries of a block.

  Not every list of pairs survives this way. A pair with an empty key, or with an equals
  sign behind the first byte of the key, would be cut at another place, and a text that was
  read with gaps is not written as it was. The pairs that a shell captures are of a better
  kind: `Block.IsKey` says what a key is that was cut from an entry, and reading it as a
  text and writing this text gives such a key again. So a block that was made of captured
  variables, which `Block.ofVars` sorts and rids of repetitions, is captured as it stands.
-/
import LineShell.Proofs.ChildBlock

namespace LineShell.Block

variable {key value bytes : Bytes} {entries : List Bytes} {block : Block}

/-! ## Keys -/

/-- What can stand in front of the equals sign at which an entry is cut: some bytes with no
    equals sign behind the first of them. -/
structure IsKey (key : Bytes) : Prop where
  ne_nil : key ≠ []
  tail_free : equalsSign ∉ key.tail

/-- Whether some bytes are a key can be seen from their text. -/
theorem isKey_iff : IsKey key ↔ Utf8.decodeChars key ≠ [] ∧ '=' ∉ (Utf8.decodeChars key).tail := by
  have hsign : '=' ∈ (Utf8.decodeChars key).tail ↔ equalsSign ∈ key.tail :=
    Utf8.mem_tail_decodeChars_iff (b := equalsSign) (by decide)
  rw [ne_eq, Utf8.decodeChars_eq_nil_iff, hsign]
  exact ⟨fun h => ⟨h.ne_nil, h.tail_free⟩, fun h => ⟨h.1, h.2⟩⟩

/-- Reading and writing makes a key of a key, whatever bytes it has. -/
theorem isKey_encode_decodeLossy : IsKey (Utf8.encode (Utf8.decodeLossy key)) ↔ IsKey key := by
  rw [isKey_iff, isKey_iff, Utf8.decodeChars_encode, Utf8.toList_decodeLossy]

/-! ## Entries -/

/-- The entry of a key is cut behind the key. -/
theorem split?_entry (h : IsKey key) (value : Bytes) :
    split? (entry key value) = some (key, value) := by
  cases key with
  | nil => exact absurd rfl h.ne_nil
  | cons first rest =>
    have hfree : ∀ b ∈ rest, (b != equalsSign) = true := by
      intro b hb
      exact bne_iff_ne.mpr fun heq => h.tail_free (heq ▸ hb)
    -- The rest of the key is passed over, and the sign behind it stops the search.
    have hsign : ¬ (equalsSign != equalsSign) = true := by decide
    rw [entry, List.cons_append, split?, List.dropWhile_append_of_pos hfree,
      List.takeWhile_append_of_pos hfree,
      List.dropWhile_cons_of_neg (p := (· != equalsSign)) hsign,
      List.takeWhile_cons_of_neg (p := (· != equalsSign)) hsign, List.append_nil]

/-- Bytes with an equals sign behind the first of them are the entry of a key. -/
theorem exists_entry (h : equalsSign ∈ bytes.tail) :
    ∃ key value, IsKey key ∧ bytes = entry key value := by
  cases bytes with
  | nil => exact absurd h List.not_mem_nil
  | cons first rest =>
    -- The first of the equals signs is the one at which the entry is cut.
    obtain ⟨before, after, hrest, hfree⟩ := List.eq_append_cons_of_mem h
    rw [List.tail_cons] at hrest
    exact ⟨first :: before, after, ⟨List.cons_ne_nil _ _, hfree⟩, by rw [hrest]; rfl⟩

theorem split?_eq_none (h : equalsSign ∉ bytes.tail) : split? bytes = none := by
  cases bytes with
  | nil => rfl
  | cons first rest =>
    have hall : ∀ b ∈ rest, (b != equalsSign) = true := by
      intro b hb
      exact bne_iff_ne.mpr fun heq => h (heq ▸ hb)
    rw [split?, ← List.append_nil rest, List.dropWhile_append_of_pos hall]
    rfl

/-- An entry as a text is its key and its value as texts, although the bytes around the
    equals sign may be parts of broken sequences. -/
theorem decodeLossy_entry (key value : Bytes) :
    Utf8.decodeLossy (entry key value)
      = Utf8.decodeLossy key ++ "=" ++ Utf8.decodeLossy value := by
  have hchars : Utf8.decodeChars (entry key value)
      = Utf8.decodeChars key ++ '=' :: Utf8.decodeChars value :=
    Utf8.decodeChars_append_cons key (b := equalsSign) (by decide) value
  rw [← String.toList_inj, String.toList_append, String.toList_append, Utf8.toList_decodeLossy,
    Utf8.toList_decodeLossy, Utf8.toList_decodeLossy, hchars, List.append_assoc]
  rfl

/-! ## Captured variables -/

theorem capture_cons_entry (h : IsKey key) (value : Bytes) (entries : List Bytes) :
    capture (entry key value :: entries)
      = (Utf8.decodeLossy key, Utf8.decodeLossy value) :: capture entries := by
  rw [capture, List.filterMap_cons_some (split?_entry h value)]
  rfl

theorem capture_cons_of_not_mem (h : equalsSign ∉ bytes.tail) (entries : List Bytes) :
    capture (bytes :: entries) = capture entries := by
  rw [capture, List.filterMap_cons_none (split?_eq_none h), capture]

theorem exists_of_mem_capture {k v : String} (h : (k, v) ∈ capture entries) :
    ∃ key value, IsKey key ∧ entry key value ∈ entries
      ∧ k = Utf8.decodeLossy key ∧ v = Utf8.decodeLossy value := by
  induction entries with
  | nil => exact absurd h List.not_mem_nil
  | cons bytes entries ih =>
    have hlater : (k, v) ∈ capture entries → ∃ key value, IsKey key
        ∧ entry key value ∈ bytes :: entries
        ∧ k = Utf8.decodeLossy key ∧ v = Utf8.decodeLossy value := by
      intro hmem
      obtain ⟨key, value, hkey, hentry, hk, hv⟩ := ih hmem
      exact ⟨key, value, hkey, List.mem_cons_of_mem _ hentry, hk, hv⟩
    -- An entry brings one variable, which stands in front, or none.
    by_cases hsign : equalsSign ∈ bytes.tail
    · obtain ⟨key, value, hkey, rfl⟩ := exists_entry hsign
      rw [capture_cons_entry hkey] at h
      rcases List.mem_cons.mp h with heq | hmem
      · cases heq
        exact ⟨key, value, hkey, List.mem_cons_self, rfl, rfl⟩
      · exact hlater hmem
    · rw [capture_cons_of_not_mem hsign] at h
      exact hlater h

/-- A block whose keys are keys is captured pair by pair. -/
theorem capture_entries (h : ∀ pair ∈ block, IsKey pair.1) :
    capture block.entries
      = block.map fun pair => (Utf8.decodeLossy pair.1, Utf8.decodeLossy pair.2) := by
  induction block with
  | nil => rfl
  | cons pair block ih =>
    obtain ⟨hpair, hblock⟩ := List.forall_mem_cons.mp h
    have hentries : Block.entries (pair :: block) = entry pair.1 pair.2 :: Block.entries block :=
      rfl
    rw [hentries, capture_cons_entry hpair, ih hblock, List.map_cons]

/-! ## A sorted block -/

/-- A key above all others goes to the end. -/
theorem insert_of_forall_lt (h : ∀ pair ∈ block, pair.1 < key) (value : Bytes) :
    insert key value block = block ++ [(key, value)] := by
  induction block with
  | nil => rfl
  | cons pair block ih =>
    obtain ⟨hpair, hblock⟩ := List.forall_mem_cons.mp h
    have hlt : ¬ key < pair.1 := List.lt_asymm hpair
    have hne : key ≠ pair.1 := fun heq => List.lt_irrefl key (by rw [heq] at hpair ⊢; exact hpair)
    rw [insert, if_neg hlt, if_neg hne, ih hblock, List.cons_append]

/-- The pairs of a sorted block are the block. -/
theorem ofPairs_of_ascending (h : block.Ascending) : ofPairs block = block := by
  -- The pairs come in ascending order, so each of them goes behind all that are there.
  have hfold : ∀ done : Block, (done ++ block).Ascending →
      block.foldl (fun block pair => insert pair.1 pair.2 block) done = done ++ block := by
    clear h
    induction block with
    | nil => exact fun done _ => (List.append_nil done).symm
    | cons pair block ih =>
      intro done hdone
      have hbelow : ∀ first ∈ done, first.1 < pair.1 := fun first hfirst =>
        (List.pairwise_append.mp hdone).2.2 first hfirst pair List.mem_cons_self
      have hnext : (done ++ [pair] ++ block).Ascending := by
        rw [List.append_assoc]
        exact hdone
      rw [List.foldl_cons, insert_of_forall_lt hbelow, ih _ hnext, List.append_assoc]
      rfl
  exact hfold [] h

/-- In a sorted block a key occurs once or not at all. -/
theorem count_key_of_ascending (h : block.Ascending) (key : Bytes) :
    (block.map Prod.fst).count key = if key ∈ block.map Prod.fst then 1 else 0 := by
  have hnodup : (block.map Prod.fst).Nodup := by
    refine List.pairwise_map.mpr (h.imp ?_)
    intro first second hlt heq
    rw [heq] at hlt
    exact List.lt_irrefl second.1 hlt
  exact hnodup.count

/-! ## The block of captured variables -/

theorem mem_keys_ofVars (vars : List (String × String)) :
    key ∈ (ofVars vars).map Prod.fst ↔ key ∈ vars.map fun pair => Utf8.encode pair.1 := by
  rw [List.mem_map, List.mem_map]
  constructor
  · rintro ⟨⟨key, value⟩, hmem, rfl⟩
    obtain ⟨k, v, hlast, rfl, -⟩ := mem_ofVars.mp hmem
    exact ⟨(k, v), List.mem_reverse.mp (mem_of_lookup hlast), rfl⟩
  · rintro ⟨⟨k, v⟩, hmem, rfl⟩
    -- Some pair has the key, so there is a last one.
    cases hlast : vars.reverse.lookup k with
    | none =>
      have hnone := List.lookup_eq_none_iff.mp hlast (k, v) (List.mem_reverse.mpr hmem)
      simp at hnone
    | some last => exact ⟨_, mem_ofVars.mpr ⟨k, last, hlast, rfl, rfl⟩, rfl⟩

/-- An entry of the block of captured variables: a key that was captured and the value that
    was captured with it, as texts. -/
theorem exists_of_mem_ofVars_capture {pair : Bytes × Bytes} (h : pair ∈ ofVars (capture entries)) :
    ∃ key value, IsKey key ∧ entry key value ∈ entries
      ∧ pair = (Utf8.encode (Utf8.decodeLossy key), Utf8.encode (Utf8.decodeLossy value)) := by
  obtain ⟨first, second⟩ := pair
  obtain ⟨k, v, hlast, rfl, rfl⟩ := mem_ofVars.mp h
  obtain ⟨key, value, hkey, hentry, rfl, rfl⟩ :=
    exists_of_mem_capture (List.mem_reverse.mp (mem_of_lookup hlast))
  exact ⟨key, value, hkey, hentry, rfl⟩

/-- The block of captured variables is captured as it stands. -/
theorem map_encode_capture (entries : List Bytes) :
    (capture (ofVars (capture entries)).entries).map
        (fun pair => (Utf8.encode pair.1, Utf8.encode pair.2))
      = ofVars (capture entries) := by
  have hkeys : ∀ pair ∈ ofVars (capture entries), IsKey pair.1 := by
    intro pair hpair
    obtain ⟨key, value, hkey, -, rfl⟩ := exists_of_mem_ofVars_capture hpair
    exact isKey_encode_decodeLossy.mpr hkey
  rw [capture_entries hkeys, List.map_map]
  -- The keys and values of the block are forms of texts, and these are read back.
  refine (List.map_congr_left ?_).trans (List.map_id _)
  intro pair hpair
  obtain ⟨key, value, -, -, rfl⟩ := exists_of_mem_ofVars_capture hpair
  simp only [Function.comp_apply, Utf8.decodeLossy_encode, id_eq]

/-- So what is captured from it makes the same block again. -/
theorem ofVars_capture_entries (entries : List Bytes) :
    ofVars (capture (ofVars (capture entries)).entries) = ofVars (capture entries) := by
  have hpairs : ∀ vars, ofVars vars
      = ofPairs (vars.map fun pair => (Utf8.encode pair.1, Utf8.encode pair.2)) := fun _ => rfl
  rw [hpairs (capture (ofVars (capture entries)).entries), map_encode_capture,
    ofPairs_of_ascending (ascending_ofVars _)]

/-! ## NUL -/

/-- Where no entry holds NUL, no captured text does. -/
theorem nul_not_mem_of_mem_capture (hfree : ∀ bytes ∈ entries, 0 ∉ bytes) {k v : String}
    (h : (k, v) ∈ capture entries) : '\x00' ∉ k.toList ∧ '\x00' ∉ v.toList := by
  have hzero : ∀ bytes : Bytes, '\x00' ∈ (Utf8.decodeLossy bytes).toList ↔ 0 ∈ bytes := by
    intro bytes
    rw [Utf8.toList_decodeLossy]
    exact Utf8.mem_decodeChars_iff (b := 0) (by decide)
  obtain ⟨key, value, -, hentry, rfl, rfl⟩ := exists_of_mem_capture h
  have hbytes := hfree _ hentry
  rw [entry, List.mem_append, List.mem_cons] at hbytes
  rw [hzero, hzero]
  exact ⟨fun hkey => hbytes (.inl hkey), fun hvalue => hbytes (.inr (.inr hvalue))⟩

theorem zero_not_mem_entries (hfree : ∀ bytes ∈ entries, 0 ∉ bytes) :
    ∀ bytes ∈ (ofVars (capture entries)).entries, 0 ∉ bytes := by
  intro bytes hbytes hzero
  obtain ⟨⟨key, value⟩, hpair, rfl⟩ := List.mem_map.mp hbytes
  obtain ⟨k, v, hlast, rfl, rfl⟩ := mem_ofVars.mp hpair
  obtain ⟨hkey, hvalue⟩ :=
    nul_not_mem_of_mem_capture hfree (List.mem_reverse.mp (mem_of_lookup hlast))
  change 0 ∈ Utf8.encode k ++ equalsSign :: Utf8.encode v at hzero
  rw [List.mem_append, List.mem_cons, Utf8.zero_mem_encode, Utf8.zero_mem_encode] at hzero
  rcases hzero with h | h | h
  · exact hkey h
  · exact absurd h (by decide)
  · exact hvalue h

end LineShell.Block
