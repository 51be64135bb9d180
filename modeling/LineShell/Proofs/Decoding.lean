/-
  LineShell.Proofs.Decoding

  What the reading of bytes as text keeps of the bytes.

  A byte below 0x80 continues no sequence and stands for itself, wherever it is: what has
  begun before it is a gap, and what follows is read from the start. No other byte ever
  comes to a character below 0x80. Both rest on `Begun.Sound`, which every sequence that
  begins satisfies: only bytes from 0x80 on continue it, and whichever of them do, it comes
  to a character from U+0080 on. So the reading can be cut at any ASCII byte
  (`decodeChars_append_cons`), and the ASCII characters of a text are the ASCII bytes it was
  read from (`mem_decodeChars_iff`).

  The other half is about the form that `encode` writes: it is read back without a gap
  (`decodeLossy_encode`).
-/
import LineShell.Text.Utf8

namespace LineShell.Utf8

variable {b c : UInt8} {as bs bytes : Bytes} {state : Option Begun}

/-! ## Leading bytes -/

theorem Range.has_iff (range : Range) (b : UInt8) :
    range.has b = true ↔ range.low.toNat ≤ b.toNat ∧ b.toNat ≤ range.high.toNat := by
  simp only [Range.has, Bool.and_eq_true, decide_eq_true_eq, UInt8.le_iff_toNat_le]

theorem has_anyTail : anyTail.has b = true ↔ 0x80 ≤ b.toNat ∧ b.toNat ≤ 0xBF :=
  Range.has_iff anyTail b

/-- The range of the byte behind a leading byte. -/
def secondRange (b : UInt8) : Range :=
  if b = 0xE0 then ⟨0xA0, 0xBF⟩
  else if b = 0xED then ⟨0x80, 0x9F⟩
  else if b = 0xF0 then ⟨0x90, 0xBF⟩
  else if b = 0xF4 then ⟨0x80, 0x8F⟩
  else anyTail

theorem has_secondRange :
    (secondRange b).has c = true
      ↔ 0x80 ≤ c.toNat ∧ c.toNat ≤ 0xBF ∧ (b.toNat = 0xE0 → 0xA0 ≤ c.toNat)
        ∧ (b.toNat = 0xED → c.toNat ≤ 0x9F) ∧ (b.toNat = 0xF0 → 0x90 ≤ c.toNat)
        ∧ (b.toNat = 0xF4 → c.toNat ≤ 0x8F) := by
  have hvalue : ∀ d : UInt8, b = d ↔ b.toNat = d.toNat := fun d => UInt8.toNat_inj.symm
  simp only [secondRange, hvalue, UInt8.reduceToNat]
  -- One case for each of the five ranges.
  repeat' split
  all_goals
    rw [Range.has_iff]
    simp only [anyTail, UInt8.reduceToNat]
    omega

/-- What a byte leads, by its value: itself, nothing, or a sequence of two, three or four
    bytes. -/
theorem lead_eq (b : UInt8) :
    lead b
      = if b.toNat < 0x80 then ([some (Char.ofNat b.toNat)], none)
        else if b.toNat < 0xC2 then ([none], none)
        else if b.toNat < 0xE0 then ([], some ⟨b.toNat - 0xC0, secondRange b, []⟩)
        else if b.toNat < 0xF0 then ([], some ⟨b.toNat - 0xE0, secondRange b, [anyTail]⟩)
        else if b.toNat < 0xF5 then
          ([], some ⟨b.toNat - 0xF0, secondRange b, [anyTail, anyTail]⟩)
        else ([none], none) := by
  have hvalue : ∀ d : UInt8, b = d ↔ b.toNat = d.toNat := fun d => UInt8.toNat_inj.symm
  -- The four leading bytes with a range of their own are singled out by `lead`, and here by
  -- `secondRange`; over their numbers the two sides are the same case distinction.
  simp only [lead, secondRange, UInt8.lt_iff_toNat_lt, hvalue, UInt8.reduceToNat]
  grind

/-! ## Sequences that have begun -/

/-- Whether a number is that of a character beyond ASCII. -/
def BeyondAscii (n : Nat) : Prop := 0x80 ≤ n ∧ (n < 0xD800 ∨ 0xDFFF < n ∧ n < 0x110000)

theorem toNat_ofNat {n : Nat} (h : n.isValidChar) : (Char.ofNat n).toNat = n := by
  rw [Char.ofNat, dif_pos h]
  rfl

theorem BeyondAscii.le_toNat {n : Nat} (h : BeyondAscii n) : 0x80 ≤ (Char.ofNat n).toNat := by
  rw [toNat_ofNat h.2]
  exact h.1

/-- A sequence that only bytes beyond ASCII continue, and that comes to a character beyond
    ASCII, whichever of the bytes that can continue it do. -/
inductive Begun.Sound : Begun → Prop where
  /-- One more byte completes it. -/
  | last {bits : Nat} {next : Range} (tail : ∀ b, next.has b = true → 0x80 ≤ b.toNat)
      (value : ∀ b, next.has b = true → BeyondAscii (bits * 64 + (b.toNat - 0x80))) :
      Sound ⟨bits, next, []⟩
  /-- More than one byte is still to come. -/
  | more {bits : Nat} {next range : Range} {later : List Range}
      (tail : ∀ b, next.has b = true → 0x80 ≤ b.toNat)
      (rest : ∀ b, next.has b = true →
        Sound ⟨bits * 64 + (b.toNat - 0x80), range, later⟩) :
      Sound ⟨bits, next, range :: later⟩

theorem Begun.Sound.le_of_has {begun : Begun} (h : begun.Sound)
    (hb : begun.next.has b = true) : 0x80 ≤ b.toNat := by
  cases h with
  | last tail value => exact tail b hb
  | more tail rest => exact tail b hb

theorem le_of_has_secondRange (first : UInt8) (second : UInt8)
    (h : (secondRange first).has second = true) : 0x80 ≤ second.toNat :=
  (has_secondRange.mp h).1

theorem le_of_has_anyTail (b : UInt8) (h : anyTail.has b = true) : 0x80 ≤ b.toNat :=
  (has_anyTail.mp h).1

theorem sound_two (hlow : 0xC2 ≤ b.toNat) (hhigh : b.toNat < 0xE0) :
    Begun.Sound ⟨b.toNat - 0xC0, secondRange b, []⟩ := by
  refine .last (le_of_has_secondRange b) ?_
  intro second hsecond
  have h2 := has_secondRange.mp hsecond
  rw [BeyondAscii]
  omega

theorem sound_three (hlow : 0xE0 ≤ b.toNat) (hhigh : b.toNat < 0xF0) :
    Begun.Sound ⟨b.toNat - 0xE0, secondRange b, [anyTail]⟩ := by
  -- Behind E0 the second range keeps out what is too small, behind ED the surrogates.
  refine .more (le_of_has_secondRange b) fun second hsecond => .last le_of_has_anyTail ?_
  intro third hthird
  have h2 := has_secondRange.mp hsecond
  have h3 := has_anyTail.mp hthird
  rw [BeyondAscii]
  omega

theorem sound_four (hlow : 0xF0 ≤ b.toNat) (hhigh : b.toNat < 0xF5) :
    Begun.Sound ⟨b.toNat - 0xF0, secondRange b, [anyTail, anyTail]⟩ := by
  -- Behind F0 the second range keeps out what is too small, behind F4 what is too great.
  refine .more (le_of_has_secondRange b) fun second hsecond =>
    .more le_of_has_anyTail fun third hthird => .last le_of_has_anyTail ?_
  intro fourth hfourth
  have h2 := has_secondRange.mp hsecond
  have h3 := has_anyTail.mp hthird
  have h4 := has_anyTail.mp hfourth
  rw [BeyondAscii]
  omega

/-- What a byte leads: itself, if it is ASCII; nothing, so that it is a gap; or a sound
    sequence. -/
theorem lead_cases (b : UInt8) :
    (b.toNat < 0x80 ∧ lead b = ([some (Char.ofNat b.toNat)], none))
      ∨ (0x80 ≤ b.toNat ∧ lead b = ([none], none))
      ∨ (0x80 ≤ b.toNat ∧ ∃ begun : Begun, lead b = ([], some begun) ∧ begun.Sound) := by
  -- The middle cases begin a sequence, the others between and behind them leave a gap.
  rw [lead_eq]
  by_cases hascii : b.toNat < 0x80
  · exact .inl ⟨hascii, if_pos hascii⟩
  · rw [if_neg hascii]
    rw [Nat.not_lt] at hascii
    refine .inr ?_
    split
    · exact .inl ⟨hascii, rfl⟩
    · split
      · next hlow hhigh => exact .inr ⟨hascii, _, rfl, sound_two (by omega) hhigh⟩
      · split
        · next hlow hhigh => exact .inr ⟨hascii, _, rfl, sound_three (by omega) hhigh⟩
        · split
          · next hlow hhigh => exact .inr ⟨hascii, _, rfl, sound_four (by omega) hhigh⟩
          · exact .inl ⟨hascii, rfl⟩

theorem sound_none : ∀ begun ∈ (none : Option Begun), begun.Sound :=
  fun begun h => absurd h (Option.not_mem_none begun)

/-! ## One byte after another -/

section
variable {bits : Nat} {next range : Range} {later : List Range} {begun : Begun}

theorem step_last (h : next.has b = true) :
    step (some ⟨bits, next, []⟩) b
      = ([some (Char.ofNat (bits * 64 + (b.toNat - 0x80)))], none) := by
  rw [step, if_pos h]
  rfl

theorem step_more (h : next.has b = true) :
    step (some ⟨bits, next, range :: later⟩) b
      = ([], some ⟨bits * 64 + (b.toNat - 0x80), range, later⟩) := by
  rw [step, if_pos h]
  rfl

theorem step_other (h : begun.next.has b = false) :
    step (some begun) b = (none :: (lead b).1, (lead b).2) := by
  rw [step, if_neg (by rw [h]; exact Bool.false_ne_true)]

end

/-- What one byte brings. If it is ASCII it closes what has begun, as the end of the bytes
    would, and stands for itself. Otherwise it brings no ASCII character, and what has begun
    behind it is sound. -/
theorem step_cases (hstate : ∀ begun ∈ state, begun.Sound) (b : UInt8) :
    (b.toNat < 0x80
        ∧ step state b = (scanAfter state [] ++ [some (Char.ofNat b.toNat)], none))
      ∨ (0x80 ≤ b.toNat ∧ (∀ ch, some ch ∈ (step state b).1 → 0x80 ≤ ch.toNat)
        ∧ ∀ begun ∈ (step state b).2, begun.Sound) := by
  cases state with
  | none =>
    rw [step]
    rcases lead_cases b with ⟨hb, h⟩ | ⟨hb, h⟩ | ⟨hb, begun, h, hsound⟩
    · exact .inl ⟨hb, h⟩
    · rw [h]
      exact .inr ⟨hb, by simp, sound_none⟩
    · rw [h]
      exact .inr ⟨hb, by simp, by simpa using hsound⟩
  | some begun =>
    have hbegun : begun.Sound := hstate begun rfl
    cases hhas : begun.next.has b with
    | true =>
      -- The byte continues the sequence, so it is no ASCII byte.
      refine .inr ⟨hbegun.le_of_has hhas, ?_⟩
      cases hbegun with
      | last tail value =>
        rw [step_last hhas]
        refine ⟨?_, sound_none⟩
        intro ch hch
        rw [Option.some.inj (List.mem_singleton.mp hch)]
        exact (value b hhas).le_toNat
      | more tail rest =>
        rw [step_more hhas]
        refine ⟨by simp, ?_⟩
        intro continued hcontinued
        rw [← Option.some.inj hcontinued]
        exact rest b hhas
    | false =>
      -- The sequence is a gap, and the byte leads what it would lead on its own.
      rw [step_other hhas]
      rcases lead_cases b with ⟨hb, h⟩ | ⟨hb, h⟩ | ⟨hb, later, h, hsound⟩
      · rw [h]
        exact .inl ⟨hb, rfl⟩
      · rw [h]
        exact .inr ⟨hb, by simp, sound_none⟩
      · rw [h]
        exact .inr ⟨hb, by simp, by simpa using hsound⟩

theorem scanAfter_cons (state : Option Begun) (b : UInt8) (bs : Bytes) :
    scanAfter state (b :: bs) = (step state b).1 ++ scanAfter (step state b).2 bs := rfl

/-- The reading can be cut at an ASCII byte. -/
theorem scanAfter_append_cons (hstate : ∀ begun ∈ state, begun.Sound) (as : Bytes)
    (hb : b.toNat < 0x80) (bs : Bytes) :
    scanAfter state (as ++ b :: bs)
      = scanAfter state as ++ some (Char.ofNat b.toNat) :: scan bs := by
  -- On the bytes before the cut; what has begun stays sound from byte to byte.
  induction as generalizing state with
  | nil =>
    rcases step_cases hstate b with ⟨-, h⟩ | ⟨hlow, -⟩
    · rw [List.nil_append, scanAfter_cons, h, List.append_assoc, List.singleton_append, scan]
    · omega
  | cons a as ih =>
    have hnext : ∀ begun ∈ (step state a).2, begun.Sound := by
      rcases step_cases hstate a with ⟨-, h⟩ | ⟨-, -, hsound⟩
      · rw [h]
        exact sound_none
      · exact hsound
    rw [List.cons_append, scanAfter, ih hnext, scanAfter, List.append_assoc]

theorem some_not_mem_scanAfter_nil (state : Option Begun) (ch : Char) :
    some ch ∉ scanAfter state [] := by
  intro h
  obtain ⟨_, -, hgap⟩ := List.mem_map.mp h
  cases hgap

/-- An ASCII character that is read is one of the bytes. -/
theorem exists_of_mem_scanAfter (hstate : ∀ begun ∈ state, begun.Sound) {ch : Char}
    (hch : ch.toNat < 0x80) (h : some ch ∈ scanAfter state bytes) :
    ∃ b ∈ bytes, b.toNat < 0x80 ∧ ch = Char.ofNat b.toNat := by
  induction bytes generalizing state with
  | nil => exact absurd h (some_not_mem_scanAfter_nil state ch)
  | cons b bytes ih =>
    have hlater : ∀ state : Option Begun, (∀ begun ∈ state, begun.Sound) →
        some ch ∈ scanAfter state bytes →
        ∃ d ∈ b :: bytes, d.toNat < 0x80 ∧ ch = Char.ofNat d.toNat := by
      intro state hstate hmem
      obtain ⟨d, hd, hfound⟩ := ih hstate hmem
      exact ⟨d, List.mem_cons_of_mem b hd, hfound⟩
    rw [scanAfter_cons] at h
    -- The character is this byte, or it is read behind it: no byte but an ASCII one brings an
    -- ASCII character.
    rcases step_cases hstate b with ⟨hb, hstep⟩ | ⟨-, hbeyond, hsound⟩
    · rw [hstep] at h
      rcases List.mem_append.mp h with hnow | hmem
      · rcases List.mem_append.mp hnow with hgap | hself
        · exact absurd hgap (some_not_mem_scanAfter_nil state ch)
        · cases List.mem_singleton.mp hself
          exact ⟨b, List.mem_cons_self, hb, rfl⟩
      · exact hlater none sound_none hmem
    · rcases List.mem_append.mp h with hnow | hmem
      · have hge := hbeyond ch hnow
        omega
      · exact hlater _ hsound hmem

/-- What has begun comes to a character or a gap. -/
theorem scanAfter_some_ne_nil (begun : Begun) (bytes : Bytes) :
    scanAfter (some begun) bytes ≠ [] := by
  induction bytes generalizing begun with
  | nil => exact List.cons_ne_nil _ _
  | cons b bytes ih =>
    -- The next byte completes the sequence, continues it or leaves a gap in its place.
    rw [scanAfter, step]
    split
    · split
      · simp
      · exact ih _
    · simp

theorem scan_eq_nil_iff : scan bytes = [] ↔ bytes = [] := by
  constructor
  · cases bytes with
    | nil => exact fun _ => rfl
    | cons b bytes =>
      intro h
      rw [scan, scanAfter, step] at h
      rcases lead_cases b with ⟨-, hlead⟩ | ⟨-, hlead⟩ | ⟨-, begun, hlead, -⟩ <;>
        rw [hlead] at h
      · simp at h
      · simp at h
      · exact absurd h (scanAfter_some_ne_nil begun bytes)
  · rintro rfl
    rfl

/-! ## The text of bytes -/

/-- The text can be cut at an ASCII byte, which stands for itself. -/
theorem decodeChars_append_cons (as : Bytes) (hb : b.toNat < 0x80) (bs : Bytes) :
    decodeChars (as ++ b :: bs)
      = decodeChars as ++ Char.ofNat b.toNat :: decodeChars bs := by
  rw [decodeChars, scan, scanAfter_append_cons sound_none as hb, List.map_append, List.map_cons]
  rfl

/-- An ASCII byte is read as the character of its number, and nothing else is. -/
theorem mem_decodeChars_iff (hb : b.toNat < 0x80) :
    Char.ofNat b.toNat ∈ decodeChars bytes ↔ b ∈ bytes := by
  have hvalue : ∀ d : UInt8, d.toNat < 0x80 → (Char.ofNat d.toNat).toNat = d.toNat := by
    intro d hd
    exact toNat_ofNat (.inl (by omega))
  constructor
  · intro h
    obtain ⟨found, hfound, hget⟩ := List.mem_map.mp h
    cases found with
    | none =>
      -- The character that stands for a gap is none of ASCII.
      have hgap := congrArg Char.toNat hget
      rw [hvalue b hb] at hgap
      have hreplacement : replacement.toNat = 0xFFFD := rfl
      rw [Option.getD_none, hreplacement] at hgap
      omega
    | some ch =>
      rw [Option.getD_some] at hget
      rw [hget] at hfound
      obtain ⟨d, hd, hlow, heq⟩ :=
        exists_of_mem_scanAfter sound_none (by rw [hvalue b hb]; exact hb) hfound
      have hsame := congrArg Char.toNat heq
      rw [hvalue b hb, hvalue d hlow] at hsame
      rwa [UInt8.toNat_inj.mp hsame]
  · intro h
    obtain ⟨before, after, rfl⟩ := List.append_of_mem h
    rw [decodeChars_append_cons before hb after]
    exact List.mem_append_right _ List.mem_cons_self

theorem decodeChars_eq_nil_iff : decodeChars bytes = [] ↔ bytes = [] := by
  rw [decodeChars, List.map_eq_nil_iff, scan_eq_nil_iff]

/-- The same behind the first byte and the first character: what comes before an ASCII byte
    leaves at least one character before it. -/
theorem mem_tail_decodeChars_iff (hb : b.toNat < 0x80) :
    Char.ofNat b.toNat ∈ (decodeChars bytes).tail ↔ b ∈ bytes.tail := by
  cases bytes with
  | nil => exact iff_of_false List.not_mem_nil List.not_mem_nil
  | cons first rest =>
    rw [List.tail_cons]
    constructor
    · intro h
      rcases List.mem_cons.mp ((mem_decodeChars_iff hb).mp (List.mem_of_mem_tail h)) with
        rfl | hrest
      · -- The first byte stands for the first character, so the other is one of the rest.
        have hcut := decodeChars_append_cons [] hb rest
        rw [List.nil_append] at hcut
        rw [hcut] at h
        exact (mem_decodeChars_iff hb).mp h
      · exact hrest
    · intro h
      obtain ⟨before, after, rfl⟩ := List.append_of_mem h
      have hbefore : decodeChars (first :: before) ≠ [] :=
        fun hnil => List.cons_ne_nil _ _ (decodeChars_eq_nil_iff.mp hnil)
      rw [← List.cons_append, decodeChars_append_cons (first :: before) hb after,
        List.tail_append_of_ne_nil hbefore]
      exact List.mem_append_right _ List.mem_cons_self

theorem toList_decodeLossy (bytes : Bytes) : (decodeLossy bytes).toList = decodeChars bytes :=
  String.toList_ofList

/-! ## Written and read back -/

section
variable {b₁ b₂ b₃ b₄ : UInt8}

theorem scan_two (hlow : 0xC2 ≤ b₁.toNat) (hhigh : b₁.toNat < 0xE0)
    (h₂ : (secondRange b₁).has b₂ = true) (bs : Bytes) :
    scan (b₁ :: b₂ :: bs)
      = some (Char.ofNat ((b₁.toNat - 0xC0) * 64 + (b₂.toNat - 0x80))) :: scan bs := by
  rw [scan, scanAfter_cons, step, lead_eq, if_neg (by omega), if_neg (by omega),
    if_pos (by omega), List.nil_append, scanAfter_cons, step_last h₂]
  rfl

theorem scan_three (hlow : 0xE0 ≤ b₁.toNat) (hhigh : b₁.toNat < 0xF0)
    (h₂ : (secondRange b₁).has b₂ = true) (h₃ : anyTail.has b₃ = true) (bs : Bytes) :
    scan (b₁ :: b₂ :: b₃ :: bs)
      = some (Char.ofNat (((b₁.toNat - 0xE0) * 64 + (b₂.toNat - 0x80)) * 64
          + (b₃.toNat - 0x80))) :: scan bs := by
  rw [scan, scanAfter_cons, step, lead_eq, if_neg (by omega), if_neg (by omega),
    if_neg (by omega), if_pos (by omega), List.nil_append, scanAfter_cons, step_more h₂,
    List.nil_append, scanAfter_cons, step_last h₃]
  rfl

theorem scan_four (hlow : 0xF0 ≤ b₁.toNat) (hhigh : b₁.toNat < 0xF5)
    (h₂ : (secondRange b₁).has b₂ = true) (h₃ : anyTail.has b₃ = true)
    (h₄ : anyTail.has b₄ = true) (bs : Bytes) :
    scan (b₁ :: b₂ :: b₃ :: b₄ :: bs)
      = some (Char.ofNat ((((b₁.toNat - 0xF0) * 64 + (b₂.toNat - 0x80)) * 64
          + (b₃.toNat - 0x80)) * 64 + (b₄.toNat - 0x80))) :: scan bs := by
  rw [scan, scanAfter_cons, step, lead_eq, if_neg (by omega), if_neg (by omega),
    if_neg (by omega), if_neg (by omega), if_pos (by omega), List.nil_append, scanAfter_cons,
    step_more h₂, List.nil_append, scanAfter_cons, step_more h₃, List.nil_append,
    scanAfter_cons, step_last h₄]
  rfl

end

/-- The form of a character is read as this character, whatever follows. -/
theorem scan_utf8EncodeChar_append (ch : Char) (bs : Bytes) :
    scan (String.utf8EncodeChar ch ++ bs) = some ch :: scan bs := by
  have hbyte : ∀ n, n < 256 → (UInt8.ofNat n).toNat = n :=
    fun n hn => UInt8.toNat_ofNat_of_lt' hn
  have hself : ∀ n, n = ch.val.toNat → Char.ofNat n = ch := by
    rintro _ rfl
    exact Char.ofNat_toNat ch
  have hvalid : ch.val.toNat < 0xD800 ∨ 0xDFFF < ch.val.toNat ∧ ch.val.toNat < 0x110000 :=
    ch.valid
  rw [String.utf8EncodeChar.eq_def]
  generalize ch.val.toNat = n at hvalid hself
  simp only
  -- By the length of the form. Each byte of it is known by its number.
  split
  · next hone =>
    have h₁ := hbyte n (by omega)
    rw [List.singleton_append, scan, scanAfter_cons, step, lead_eq, if_pos (by omega), h₁,
      hself n rfl]
    rfl
  · split
    · next hone htwo =>
      have h₁ := hbyte (n / 64 % 32 + 192) (by omega)
      have h₂ := hbyte (n % 64 + 128) (by omega)
      rw [List.cons_append, List.singleton_append,
        scan_two (by omega) (by omega) (has_secondRange.mpr (by omega)), hself _ (by omega)]
    · split
      · next hone htwo hthree =>
        have h₁ := hbyte (n / 4096 % 16 + 224) (by omega)
        have h₂ := hbyte (n / 64 % 64 + 128) (by omega)
        have h₃ := hbyte (n % 64 + 128) (by omega)
        rw [List.cons_append, List.cons_append, List.singleton_append,
          scan_three (by omega) (by omega) (has_secondRange.mpr (by omega))
            (has_anyTail.mpr (by omega)), hself _ (by omega)]
      · next hone htwo hthree =>
        have h₁ := hbyte (n / 262144 % 8 + 240) (by omega)
        have h₂ := hbyte (n / 4096 % 64 + 128) (by omega)
        have h₃ := hbyte (n / 64 % 64 + 128) (by omega)
        have h₄ := hbyte (n % 64 + 128) (by omega)
        rw [List.cons_append, List.cons_append, List.cons_append, List.singleton_append,
          scan_four (by omega) (by omega) (has_secondRange.mpr (by omega))
            (has_anyTail.mpr (by omega)) (has_anyTail.mpr (by omega)), hself _ (by omega)]

/-- What is written is read back. -/
theorem decodeChars_encodeChars (chars : List Char) : decodeChars (encodeChars chars) = chars := by
  have hscan : scan (encodeChars chars) = chars.map some := by
    induction chars with
    | nil => rfl
    | cons ch chars ih =>
      have hcons : encodeChars (ch :: chars)
          = String.utf8EncodeChar ch ++ encodeChars chars := List.flatMap_cons
      rw [hcons, scan_utf8EncodeChar_append, ih, List.map_cons]
  rw [decodeChars, hscan, List.map_map]
  exact List.map_id chars

theorem decodeLossy_encode (text : String) : decodeLossy (encode text) = text := by
  rw [decodeLossy, encode, decodeChars_encodeChars, String.ofList_toList]

/-- A text is known by its bytes. -/
theorem encode_inj {s t : String} : encode s = encode t ↔ s = t := by
  constructor
  · intro h
    rw [← decodeLossy_encode s, h, decodeLossy_encode]
  · intro h
    rw [h]

theorem decodeChars_encode (text : String) : decodeChars (encode text) = text.toList :=
  decodeChars_encodeChars text.toList

/-- A text holds NUL just if its bytes do. -/
theorem zero_mem_encode {s : String} : 0 ∈ encode s ↔ '\x00' ∈ s.toList := by
  rw [← decodeChars_encode]
  exact (mem_decodeChars_iff (by decide)).symm

end LineShell.Utf8
