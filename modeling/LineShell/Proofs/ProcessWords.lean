/-
  LineShell.Proofs.ProcessWords

  The word with which the system tells the end of a process, bit by bit.

  A mask keeps a field of bits, and a shift to the right moves one down. The shift repeats the
  sign, but the mask behind it keeps only bits that were moved, so a negative word is taken
  apart like any other. What counts of a word are its low seven bits, `ProcessEnd.signalBits`,
  and the eight bits from the eighth on, `ProcessEnd.codeBits`, and `ProcessEnd.ofWord_eq` says
  how. All else follows from this equation: the status of every word, the bits that it does not
  depend on, and the exit code that a shell has with this status.
-/
import LineShell.Status

namespace LineShell

/-! ## The low bits of a word -/

/-- The bits of a word under a mask of low bits are a remainder. -/
theorem Int32.toInt_and_mask (word : Int32) (mask : Nat) (hmask : mask < 0x7FFFFFFF)
    (hlow : ∀ n, n &&& mask = n % (mask + 1)) :
    (word &&& Int32.ofNat mask).toInt = (word.toUInt32.toNat % (mask + 1) : Nat) := by
  have hsmall : word.toUInt32.toNat % (mask + 1) < mask + 1 := Nat.mod_lt _ (Nat.succ_pos mask)
  have hnat : (word.toBitVec &&& BitVec.ofNat 32 mask).toNat
      = word.toUInt32.toNat % (mask + 1) := by
    rw [BitVec.toNat_and, BitVec.toNat_ofNat, Nat.mod_eq_of_lt (by omega), hlow]
    rfl
  change (word.toBitVec &&& BitVec.ofNat 32 mask).toInt = _
  rw [BitVec.toInt_eq_toNat_of_lt (by omega), hnat]

/-- The exit code of a status is its value modulo 256. -/
theorem Status.toNat_exitByte (status : Status) :
    (status.exitByte.toNat : Int) = status.toInt % 256 := by
  have hnat : status.exitByte.toNat = status.toBitVec.toNat % 256 := rfl
  have hint : status.toInt = status.toBitVec.toInt := rfl
  rw [hnat, hint, BitVec.toInt_eq_toNat_bmod, Int.bmod_def]
  split <;> omega

namespace ProcessEnd

/-! ## Fields of bits -/

/-- The low seven bits of a word, as a number. -/
def signalBits (word : Int32) : Nat := (word.toBitVec.extractLsb' 0 7).toNat

/-- The bits 8 to 15 of a word, as a number. -/
def codeBits (word : Int32) : Nat := (word.toBitVec.extractLsb' 8 8).toNat

theorem signalBits_lt (word : Int32) : signalBits word < 128 :=
  (word.toBitVec.extractLsb' 0 7).isLt

theorem codeBits_lt (word : Int32) : codeBits word < 256 :=
  (word.toBitVec.extractLsb' 8 8).isLt

theorem and_signalMask (word : Int32) : word &&& 0x7F = Int32.ofNat (signalBits word) := by
  have hsmall := signalBits_lt word
  have hbits : signalBits word = word.toUInt32.toNat % 128 := by
    rw [signalBits, BitVec.extractLsb'_toNat, Nat.shiftRight_zero]
    rfl
  have hmask : (word &&& 0x7F).toInt = (word.toUInt32.toNat % 128 : Nat) :=
    Int32.toInt_and_mask word 0x7F (by decide) fun n => Nat.and_two_pow_sub_one_eq_mod n 7
  apply Int32.toInt.inj
  rw [hmask, Int32.toInt_ofNat_of_lt (by omega), hbits]

/-- A shift to the right moves a field of bits down. The copies of the sign come from above,
    and they do not get as far as the low byte. -/
theorem extract_shiftRight (word : Int32) :
    (word >>> 8).toBitVec.extractLsb' 0 8 = word.toBitVec.extractLsb' 8 8 := by
  have hshift : (word >>> 8).toBitVec = word.toBitVec.sshiftRight 8 :=
    Int32.toBitVec_shiftRight word 8
  rw [hshift]
  apply BitVec.eq_of_getLsbD_eq
  intro i hi
  have hmoved : ¬ 32 ≤ i := by omega
  rw [BitVec.getLsbD_extractLsb', BitVec.getLsbD_extractLsb', BitVec.getLsbD_sshiftRight,
    Nat.zero_add, if_pos (by omega), decide_eq_false hmoved, Bool.not_false, Bool.true_and]

theorem and_codeMask (word : Int32) : (word >>> 8) &&& 0xFF = Int32.ofNat (codeBits word) := by
  have hsmall := codeBits_lt word
  have hbits : codeBits word = (word >>> 8).toUInt32.toNat % 256 := by
    rw [codeBits, ← extract_shiftRight, BitVec.extractLsb'_toNat, Nat.shiftRight_zero]
    rfl
  have hmask : ((word >>> 8) &&& 0xFF).toInt = ((word >>> 8).toUInt32.toNat % 256 : Nat) :=
    Int32.toInt_and_mask (word >>> 8) 0xFF (by decide) fun n =>
      Nat.and_two_pow_sub_one_eq_mod n 8
  apply Int32.toInt.inj
  rw [hmask, Int32.toInt_ofNat_of_lt (by omega), hbits]

/-- A word is read by the two fields of its bits. -/
theorem ofWord_eq (word : Int32) :
    ofWord word
      = if signalBits word = 0 then exited (Int32.ofNat (codeBits word))
        else if signalBits word = 127 then unclear
        else signaled (Int32.ofNat (signalBits word)) := by
  have hsmall := signalBits_lt word
  have hvalue : (Int32.ofNat (signalBits word)).toInt = signalBits word :=
    Int32.toInt_ofNat_of_lt (by omega)
  rw [ofWord, and_signalMask, and_codeMask]
  -- The tests on the masked word are tests on the field.
  by_cases hzero : signalBits word = 0
  · rw [if_pos hzero, hzero]
    rfl
  · have hne : Int32.ofNat (signalBits word) ≠ 0 := by
      intro h
      rw [h] at hvalue
      exact hzero (Int.ofNat.inj hvalue.symm)
    rw [if_neg hne, if_neg hzero]
    by_cases hfull : signalBits word = 127
    · rw [if_pos hfull, hfull]
      rfl
    · have hne' : Int32.ofNat (signalBits word) ≠ 0x7F := by
        intro h
        rw [h] at hvalue
        exact hfull (Int.ofNat.inj hvalue.symm)
      rw [if_neg hne', if_neg hfull]

/-! ## The three kinds of words -/

variable {word other : Int32}

theorem ofWord_of_exit (h : signalBits word = 0) :
    ofWord word = exited (Int32.ofNat (codeBits word)) := by
  rw [ofWord_eq, if_pos h]

theorem ofWord_of_signal (h : 1 ≤ signalBits word ∧ signalBits word ≤ 126) :
    ofWord word = signaled (Int32.ofNat (signalBits word)) := by
  rw [ofWord_eq, if_neg (by omega), if_neg (by omega)]

theorem ofWord_of_full (h : signalBits word = 127) : ofWord word = unclear := by
  rw [ofWord_eq, if_neg (by omega), if_pos h]

/-- Of the low seven bits of a word one of three things is true. -/
theorem signalBits_cases (word : Int32) :
    signalBits word = 0 ∨ (1 ≤ signalBits word ∧ signalBits word ≤ 126)
      ∨ signalBits word = 127 := by
  have hsmall := signalBits_lt word
  omega

theorem exists_exited_iff : (∃ code, ofWord word = exited code) ↔ signalBits word = 0 := by
  constructor
  · rintro ⟨code, hexited⟩
    rcases signalBits_cases word with h | h | h
    · exact h
    · rw [ofWord_of_signal h] at hexited
      cases hexited
    · rw [ofWord_of_full h] at hexited
      cases hexited
  · intro h
    exact ⟨_, ofWord_of_exit h⟩

theorem exists_signaled_iff :
    (∃ signal, ofWord word = signaled signal)
      ↔ 1 ≤ signalBits word ∧ signalBits word ≤ 126 := by
  constructor
  · rintro ⟨signal, hsignaled⟩
    rcases signalBits_cases word with h | h | h
    · rw [ofWord_of_exit h] at hsignaled
      cases hsignaled
    · exact h
    · rw [ofWord_of_full h] at hsignaled
      cases hsignaled
  · intro h
    exact ⟨_, ofWord_of_signal h⟩

theorem ofWord_eq_unclear_iff : ofWord word = unclear ↔ signalBits word = 127 := by
  constructor
  · intro hunclear
    rcases signalBits_cases word with h | h | h
    · rw [ofWord_of_exit h] at hunclear
      cases hunclear
    · rw [ofWord_of_signal h] at hunclear
      cases hunclear
    · exact h
  · exact ofWord_of_full

/-! ## The status -/

theorem status_of_exit (h : signalBits word = 0) :
    (ofWord word).status.toInt = codeBits word := by
  have hsmall := codeBits_lt word
  rw [ofWord_of_exit h]
  exact Int32.toInt_ofNat_of_lt (by omega)

/-- The number of a signal and what is added to it stay far below any overflow. -/
theorem toInt_signalBase_add {signal : Int32} (h : ofWord word = signaled signal) :
    (Status.signalBase + signal).toInt = Status.signalBase.toInt + signal.toInt := by
  have hbits := exists_signaled_iff.mp ⟨signal, h⟩
  have hvalue : signal.toInt = signalBits word := by
    rw [ofWord_of_signal hbits] at h
    cases h
    exact Int32.toInt_ofNat_of_lt (by omega)
  rw [Int32.toInt_add, show Status.signalBase.toInt = 128 from rfl]
  exact Int.bmod_eq_of_le (by omega) (by omega)

theorem status_of_signal (h : 1 ≤ signalBits word ∧ signalBits word ≤ 126) :
    (ofWord word).status.toInt = 128 + signalBits word := by
  have hsignaled := ofWord_of_signal h
  rw [hsignaled, status, toInt_signalBase_add hsignaled, Int32.toInt_ofNat_of_lt (by omega)]
  rfl

/-- The exit code of a status that tells an exit or a signal is this status. -/
theorem toNat_exitByte_status (h : ofWord word ≠ unclear) :
    ((ofWord word).status.exitByte.toNat : Int) = (ofWord word).status.toInt := by
  have hsmall := codeBits_lt word
  rw [Status.toNat_exitByte]
  rcases signalBits_cases word with hexit | hsignal | hfull
  · rw [status_of_exit hexit]
    omega
  · rw [status_of_signal hsignal]
    omega
  · exact absurd (ofWord_of_full hfull) h

/-! ## Bits that do not count -/

/-- Words with the same low sixteen bits are read alike. -/
theorem ofWord_congr
    (h : other.toBitVec.extractLsb' 0 16 = word.toBitVec.extractLsb' 0 16) :
    ofWord other = ofWord word := by
  have hlow := congrArg BitVec.toNat h
  simp only [BitVec.extractLsb'_toNat, Nat.shiftRight_zero] at hlow
  have hsignal : signalBits other = signalBits word := by
    simp only [signalBits, BitVec.extractLsb'_toNat, Nat.shiftRight_zero]
    omega
  have hcode : codeBits other = codeBits word := by
    simp only [codeBits, BitVec.extractLsb'_toNat, Nat.shiftRight_eq_div_pow]
    omega
  rw [ofWord_eq, ofWord_eq, hsignal, hcode]

/-- If they do not tell an exit, the low seven bits are enough. -/
theorem ofWord_congr_signal (h : signalBits other = signalBits word)
    (hsignal : signalBits word ≠ 0) : ofWord other = ofWord word := by
  rw [ofWord_eq, ofWord_eq, h, if_neg hsignal, if_neg hsignal]

end ProcessEnd
end LineShell
