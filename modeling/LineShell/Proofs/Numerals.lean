/-
  LineShell.Proofs.Numerals

  Which texts `exit` takes for a number, for which number, and what becomes of it.

  `Denotes` says what the decimal numerals of a number are: its digits, with any number of
  zeros before them. A text of digits is a numeral of its decimal value and of no other number
  (`denotes_iff`), as `exit` can tell by the bytes of the text (`isNumber_iff`). The fold over
  these digits never leaves the small numbers: `Exact` is what holds at each of them, and it
  rests on the same invariant as the result, that the status so far is a remainder.
-/
import LineShell.Proofs.Decimal
import LineShell.Proofs.ProcessWords
import LineShell.Proofs.ValidText

namespace LineShell

/-! ## Text with one byte for each character -/

namespace Utf8

variable {text : String}

theorem utf8EncodeChar_of_ascii {c : Char} (h : c.toNat < 0x80) :
    String.utf8EncodeChar c = [UInt8.ofNat c.toNat] := by
  have hbyte : (UInt8.ofNat c.toNat).toNat = c.toNat :=
    UInt8.toNat_ofNat_of_lt' (Nat.lt_of_lt_of_le h (by decide))
  have hone : String.utf8EncodeChar (Char.ofNat (UInt8.ofNat c.toNat).toNat)
      = [UInt8.ofNat c.toNat] := encode_one (by omega)
  rwa [hbyte, Char.ofNat_toNat] at hone

theorem encode_of_ascii (h : ∀ c ∈ text.toList, c.toNat < 0x80) :
    encode text = text.toList.map fun c => UInt8.ofNat c.toNat := by
  rw [encode, encodeChars, List.map_eq_flatMap, List.flatMap_def, List.flatMap_def,
    List.map_congr_left fun c hc => utf8EncodeChar_of_ascii (h c hc)]

/-- The characters of a text whose bytes are ASCII. -/
theorem toList_of_ascii (h : ∀ b ∈ encode text, b.toNat < 0x80) :
    text.toList = (encode text).map fun b => Char.ofNat b.toNat := by
  have hencode : encode (String.ofList ((encode text).map fun b => Char.ofNat b.toNat))
      = encode text := by
    rw [encode, String.toList_ofList, encodeChars, List.flatMap_map, List.flatMap_def,
      List.map_congr_left fun b hb => encode_one (h b hb), ← List.flatMap_def,
      List.flatMap_singleton']
  have hchars := congrArg String.toList (encode_inj.mp hencode)
  rw [String.toList_ofList] at hchars
  exact hchars.symm

end Utf8

namespace Builtin.Exit

variable {text : String} {c : Char} {chars : List Char}

/-! ## Digits -/

/-- Whether a byte is a decimal digit in ASCII. -/
def IsDigit (b : UInt8) : Prop := '0'.toNat ≤ b.toNat ∧ b.toNat ≤ '9'.toNat

theorem isDigit_iff : c.isDigit = true ↔ '0'.toNat ≤ c.toNat ∧ c.toNat ≤ '9'.toNat := by
  simp only [Char.isDigit, Bool.and_eq_true, decide_eq_true_eq]
  rfl

theorem isNumber_eq_true_iff :
    isNumber text = true ↔ text.toList ≠ [] ∧ ∀ c ∈ text.toList, c.isDigit = true := by
  rw [isNumber, Bool.and_eq_true, decide_eq_true_eq, List.all_eq_true]

/-- The bytes of a number are its characters, one for each. -/
theorem encode_of_isNumber (h : isNumber text = true) :
    Utf8.encode text = text.toList.map fun c => UInt8.ofNat c.toNat := by
  apply Utf8.encode_of_ascii
  intro c hc
  have hdigit := isDigit_iff.mp ((isNumber_eq_true_iff.mp h).2 c hc)
  have hnine : '9'.toNat = 57 := rfl
  omega

/-- Whether a text is a number can be told by its bytes. -/
theorem isNumber_iff (text : String) :
    isNumber text = true ↔ Utf8.encode text ≠ [] ∧ ∀ b ∈ Utf8.encode text, IsDigit b := by
  have hnine : '9'.toNat = 57 := rfl
  constructor
  · intro h
    obtain ⟨hne, hdigits⟩ := isNumber_eq_true_iff.mp h
    rw [encode_of_isNumber h]
    refine ⟨fun h => hne (List.map_eq_nil_iff.mp h), ?_⟩
    intro b hb
    obtain ⟨c, hc, rfl⟩ := List.mem_map.mp hb
    have hdigit := isDigit_iff.mp (hdigits c hc)
    have hbyte : (UInt8.ofNat c.toNat).toNat = c.toNat :=
      UInt8.toNat_ofNat_of_lt' (Nat.lt_of_le_of_lt hdigit.2 (by decide))
    rw [IsDigit, hbyte]
    exact hdigit
  · rintro ⟨hne, hdigits⟩
    have hascii : ∀ b ∈ Utf8.encode text, b.toNat < 0x80 := by
      intro b hb
      have hdigit := (hdigits b hb).2
      omega
    have hchars := Utf8.toList_of_ascii hascii
    rw [isNumber_eq_true_iff, hchars]
    refine ⟨fun h => hne (List.map_eq_nil_iff.mp h), ?_⟩
    intro c hc
    obtain ⟨b, hb, rfl⟩ := List.mem_map.mp hc
    have hdigit := hdigits b hb
    have hbyte : (Char.ofNat b.toNat).toNat = b.toNat :=
      Utf8.toNat_ofNat (.inl (by have := hdigit.2; omega))
    rw [isDigit_iff, hbyte]
    exact hdigit

/-! ## Numerals -/

/-- Whether a text is a decimal numeral of a number: its digits, with zeros before them. -/
def Denotes (text : String) (n : Nat) : Prop :=
  ∃ zeros, text.toList = List.replicate zeros '0' ++ Nat.toDigits 10 n

/-- A digit is the numeral of its value. -/
theorem toDigits_digit (h : c.isDigit = true) :
    Nat.toDigits 10 (c.toNat - '0'.toNat) = [c] := by
  have hdigit := isDigit_iff.mp h
  have hzero : '0'.toNat = 48 := rfl
  have hsmall : c.toNat - '0'.toNat < 10 := Nat.lt_succ_of_le (digit_le_nine h)
  rw [Nat.toDigits_of_lt_base hsmall]
  apply congrArg fun c => [c]
  apply Char.toNat_inj.mp
  rw [Nat.toNat_digitChar_of_lt_ten hsmall]
  omega

/-- Digits behind the numeral of a number that is not zero go on with it. -/
theorem toDigits_append (h : ∀ c ∈ chars, c.isDigit = true) {n : Nat} (hn : 0 < n) :
    Nat.toDigits 10 n ++ chars = Nat.toDigits 10 (Nat.ofDigitChars 10 chars n) := by
  induction chars generalizing n with
  | nil => rw [List.append_nil, Nat.ofDigitChars_nil]
  | cons c chars ih =>
    obtain ⟨hc, hchars⟩ := List.forall_mem_cons.mp h
    have hsmall : c.toNat - '0'.toNat < 10 := Nat.lt_succ_of_le (digit_le_nine hc)
    have hnext : Nat.toDigits 10 n ++ [c] = Nat.toDigits 10 (10 * n + (c.toNat - '0'.toNat)) := by
      rw [← toDigits_digit hc]
      exact Nat.toDigits_append_toDigits (by decide) hn hsmall
    rw [List.append_cons, hnext, ih hchars (by omega), Nat.ofDigitChars_cons]

/-- Digits are a numeral of their value. -/
theorem exists_zeros (hne : chars ≠ []) (h : ∀ c ∈ chars, c.isDigit = true) :
    ∃ zeros, chars
      = List.replicate zeros '0' ++ Nat.toDigits 10 (Nat.ofDigitChars 10 chars 0) := by
  induction chars with
  | nil => exact absurd rfl hne
  | cons c chars ih =>
    obtain ⟨hc, hchars⟩ := List.forall_mem_cons.mp h
    have hvalue : Nat.ofDigitChars 10 (c :: chars) 0
        = Nat.ofDigitChars 10 chars (c.toNat - '0'.toNat) := by
      rw [Nat.ofDigitChars_cons, Nat.mul_zero, Nat.zero_add]
    rw [hvalue]
    by_cases hzero : c = '0'
    · subst hzero
      cases chars with
      | nil => exact ⟨0, rfl⟩
      | cons next chars =>
        -- One zero more before the other digits, which have the same value.
        obtain ⟨zeros, hzeros⟩ := ih (List.cons_ne_nil _ _) hchars
        refine ⟨zeros + 1, ?_⟩
        rw [List.replicate_succ, List.cons_append, Nat.sub_self, ← hzeros]
    · have hpositive : 0 < c.toNat - '0'.toNat := by
        have hdigit := isDigit_iff.mp hc
        have hne : c.toNat ≠ '0'.toNat := fun h => hzero (Char.toNat_inj.mp h)
        omega
      refine ⟨0, ?_⟩
      rw [← toDigits_append hchars hpositive, toDigits_digit hc]
      rfl

/-- **Numerals.** A text denotes a number if it is made of digits and this is their value. -/
theorem denotes_iff {n : Nat} : Denotes text n ↔ isNumber text = true ∧ decimalValue text = n := by
  constructor
  · rintro ⟨zeros, hchars⟩
    rw [isNumber_eq_true_iff, decimalValue, hchars]
    refine ⟨⟨?_, ?_⟩, ?_⟩
    · exact List.append_ne_nil_of_right_ne_nil _ Nat.toDigits_ne_nil
    · intro c hc
      rcases List.mem_append.mp hc with hzero | hdigit
      · rw [List.eq_of_mem_replicate hzero]
        rfl
      · exact Nat.isDigit_of_mem_toDigits (by decide) (by decide) hdigit
    · rw [Nat.ofDigitChars_append, Nat.ofDigitChars_replicate_zero, Nat.mul_zero,
        Nat.ofDigitChars_ten_toDigits]
  · rintro ⟨hnumber, rfl⟩
    obtain ⟨hne, hdigits⟩ := isNumber_eq_true_iff.mp hnumber
    exact exists_zeros hne hdigits

/-! ## The arithmetic of one digit -/

/-- That one more digit is added to a status without an overflow, and that on the way nothing
    but numbers from 0 to 2559 comes up. -/
structure Exact (status : Status) (c : Char) : Prop where
  status_range : 0 ≤ status.toInt ∧ status.toInt ≤ 255
  digit : '0'.toNat ≤ c.toNat ∧ (digitValue c).toInt = (c.toNat : Int) - '0'.toNat
  digit_range : 0 ≤ (digitValue c).toInt ∧ (digitValue c).toInt ≤ 9
  product : (status * 10).toInt = status.toInt * 10
  product_range : 0 ≤ (status * 10).toInt ∧ (status * 10).toInt ≤ 2550
  sum : (status * 10 + digitValue c).toInt = (status * 10).toInt + (digitValue c).toInt
  sum_range : 0 ≤ (status * 10 + digitValue c).toInt
    ∧ (status * 10 + digitValue c).toInt ≤ 2559
  remainder : (addDigit status c).toInt = (status * 10 + digitValue c).toInt % 256

theorem exact_statusOf (h : c.isDigit = true) (n : Nat) : Exact (statusOf n) c := by
  have hdigit := isDigit_iff.mp h
  have hnine := digit_le_nine h
  have hvalue := toInt_digitValue h
  have hstatus := toInt_statusOf n
  have hproduct := toInt_statusOf_mul n
  have hsum := toInt_mul_add_digit h n
  have hnext : (addDigit (statusOf n) c).toInt
      = ((10 * n + (c.toNat - '0'.toNat)) % 256 : Nat) := by
    rw [addDigit_statusOf h, toInt_statusOf]
  exact {
    status_range := by omega
    digit := ⟨hdigit.1, by omega⟩
    digit_range := by omega
    product := by omega
    product_range := by omega
    sum := by omega
    sum_range := by omega
    remainder := by omega }

/-- **The value of an operand.** The operand of `exit` is read just if it has bytes and all of
    them are ASCII digits, and otherwise it is reported as it stands. The digits denote exactly
    one number in decimal, and the status is this number modulo 256, which is also its exit
    code. It is computed digit by digit, one byte each, and at every digit of an operand of any
    length nothing overflows, the subtraction that takes its value included. -/
theorem parseStatus_of_bytes (text : String) :
    ((∃ status, parseStatus text = .ok status)
        ↔ Utf8.encode text ≠ [] ∧ ∀ b ∈ Utf8.encode text, IsDigit b)
      ∧ (¬ (Utf8.encode text ≠ [] ∧ ∀ b ∈ Utf8.encode text, IsDigit b) →
        parseStatus text = .error (.illegalNumber text))
      ∧ ∀ status, parseStatus text = .ok status →
        (∃ n : Nat, Denotes text n ∧ (∀ m, Denotes text m → m = n)
          ∧ status.toInt = (n % 256 : Nat) ∧ status.exitByte.toNat = n % 256)
        ∧ (status.exitByte.toNat : Int) = status.toInt
        ∧ Utf8.encode text = text.toList.map (fun c => UInt8.ofNat c.toNat)
        ∧ status = text.toList.foldl addDigit 0
        ∧ ∀ before c after, text.toList = before ++ c :: after →
          Exact (before.foldl addDigit 0) c := by
  rw [← isNumber_iff, parseStatus_eq]
  by_cases hnumber : isNumber text = true
  · rw [if_pos hnumber]
    refine ⟨⟨fun _ => hnumber, fun _ => ⟨_, rfl⟩⟩, fun h => absurd hnumber h, ?_⟩
    rintro _ ⟨⟩
    have hdigits := (isNumber_eq_true_iff.mp hnumber).2
    have hbyte : ((statusOf (decimalValue text)).exitByte.toNat : Int)
        = (statusOf (decimalValue text)).toInt := by
      rw [Status.toNat_exitByte, toInt_statusOf]
      omega
    have hvalue := toInt_statusOf (decimalValue text)
    refine ⟨⟨decimalValue text, denotes_iff.mpr ⟨hnumber, rfl⟩, ?_, hvalue, by omega⟩, hbyte,
      encode_of_isNumber hnumber, (foldl_addDigit hdigits 0).symm, ?_⟩
    · intro m hm
      exact (denotes_iff.mp hm).2.symm
    · -- The digits before have come to the status of their value.
      intro before c after hchars
      rw [hchars] at hdigits
      obtain ⟨hbefore, hrest⟩ := List.forall_mem_append.mp hdigits
      rw [show (0 : Status) = statusOf 0 from rfl, foldl_addDigit hbefore]
      exact exact_statusOf (List.forall_mem_cons.mp hrest).1 _
  · rw [if_neg hnumber]
    refine ⟨⟨?_, fun h => absurd h hnumber⟩, fun _ => rfl, ?_⟩
    · rintro ⟨status, ⟨⟩⟩
    · rintro status ⟨⟩

/-- Zeros before the digits do not count, and a sign is no digit. -/
theorem parseStatus_of_bytes_zeros :
    parseStatus "00300" = .ok 44 ∧ (44 : Status).toInt = (300 % 256 : Nat)
      ∧ (∀ m, Denotes "00300" m → m = 300)
      ∧ parseStatus "+3" = .error (.illegalNumber "+3") := by
  have hread : parseStatus "00300" = .ok 44 := rfl
  have hdenotes : Denotes "00300" 300 := ⟨2, by decide⟩
  obtain ⟨-, -, hvalue⟩ := parseStatus_of_bytes "00300"
  obtain ⟨-, hrefused, -⟩ := parseStatus_of_bytes "+3"
  obtain ⟨⟨n, -, hunique, hstatus, -⟩, -⟩ := hvalue 44 hread
  obtain rfl := hunique 300 hdenotes
  refine ⟨hread, hstatus, hunique, hrefused ?_⟩
  rintro ⟨-, hdigits⟩
  exact absurd (hdigits 43 (by decide)).1 (by decide)

end Builtin.Exit
end LineShell
