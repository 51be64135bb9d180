/-
  LineShell.Proofs.Decimal

  The status that the operand of `exit` stands for.

  `addDigit` reduces modulo 256 at every digit, in signed 32-bit arithmetic. The invariant
  of the fold is that the status so far lies in 0..255: then ten times this status and one
  more digit is at most 2559, nothing overflows, and the step is the one that computes the
  decimal value of the text, modulo 256.
-/
import LineShell.Builtin.Exit

namespace LineShell.Builtin.Exit

/-- The number that a text of decimal digits denotes. -/
def decimalValue (text : String) : Nat := Nat.ofDigitChars 10 text.toList 0

/-- Whether a text is made of decimal digits, of which there is at least one. -/
def isNumber (text : String) : Bool := text.toList ≠ [] && text.toList.all Char.isDigit

/-- The status with the value of a number, modulo 256. -/
def statusOf (n : Nat) : Status := (n % 256).toInt32

/-! ## One digit -/

theorem digit_le_nine {c : Char} (h : c.isDigit = true) : c.toNat - '0'.toNat ≤ 9 := by
  simp only [Char.isDigit, Bool.and_eq_true, decide_eq_true_eq] at h
  have hle : c.toNat ≤ '9'.toNat := h.2
  have hnine : '9'.toNat = '0'.toNat + 9 := by decide
  omega

theorem toInt_statusOf (n : Nat) : (statusOf n).toInt = (n % 256 : Nat) :=
  Int32.toInt_ofNat_of_lt (by omega)

theorem toInt_digitValue {c : Char} (h : c.isDigit = true) :
    (digitValue c).toInt = (c.toNat - '0'.toNat : Nat) :=
  Int32.toInt_ofNat_of_lt (by have := digit_le_nine h; omega)

/-- Ten times a status is at most 2550. -/
theorem toInt_statusOf_mul (n : Nat) : (statusOf n * 10).toInt = (n % 256 * 10 : Nat) := by
  rw [Int32.toInt_mul, toInt_statusOf, show (10 : Int32).toInt = 10 from rfl]
  rw [Int.bmod_eq_of_le (by omega) (by omega)]
  omega

/-- Before it is reduced, a status and one more digit stay far below any overflow. -/
theorem toInt_mul_add_digit {c : Char} (h : c.isDigit = true) (n : Nat) :
    (statusOf n * 10 + digitValue c).toInt
      = (n % 256 * 10 + (c.toNat - '0'.toNat) : Nat) := by
  have hdigit := digit_le_nine h
  -- At most 2559, of more than two thousand million.
  rw [Int32.toInt_add, toInt_statusOf_mul, toInt_digitValue h,
    Int.bmod_eq_of_le (by omega) (by omega)]
  omega

/-- One more digit, modulo 256. -/
theorem addDigit_statusOf {c : Char} (h : c.isDigit = true) (n : Nat) :
    addDigit (statusOf n) c = statusOf (10 * n + (c.toNat - '0'.toNat)) := by
  apply Int32.toInt.inj
  rw [addDigit, Int32.toInt_mod, toInt_mul_add_digit h, toInt_statusOf,
    show (256 : Int32).toInt = 256 from rfl, Int.tmod_eq_emod_of_nonneg (by omega)]
  omega

/-! ## All digits -/

/-- The fold over the digits is the decimal value, modulo 256. -/
theorem foldl_addDigit {chars : List Char} (h : ∀ c ∈ chars, c.isDigit = true) (n : Nat) :
    chars.foldl addDigit (statusOf n) = statusOf (Nat.ofDigitChars 10 chars n) := by
  -- The value so far is kept in full beside its remainder.
  induction chars generalizing n with
  | nil => rw [List.foldl_nil, Nat.ofDigitChars_nil]
  | cons c chars ih =>
    obtain ⟨hc, hchars⟩ := List.forall_mem_cons.mp h
    rw [List.foldl_cons, addDigit_statusOf hc, ih hchars, Nat.ofDigitChars_cons]

/-- A number is read as its decimal value modulo 256; any other text is no number. -/
theorem parseStatus_eq (text : String) :
    parseStatus text
      = if isNumber text then .ok (statusOf (decimalValue text))
        else .error (.illegalNumber text) := by
  rw [parseStatus]
  by_cases hnumber : isNumber text = true
  · have hparts : text.toList ≠ [] ∧ text.toList.all Char.isDigit = true := by
      simpa [isNumber] using hnumber
    rw [if_pos hparts, if_pos hnumber, show (0 : Status) = statusOf 0 from rfl,
      foldl_addDigit (List.all_eq_true.mp hparts.2), decimalValue]
  · rw [if_neg hnumber, if_neg (by simpa [isNumber] using hnumber)]

end LineShell.Builtin.Exit
