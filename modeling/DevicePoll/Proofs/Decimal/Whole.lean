import DevicePoll.Oid
import Mathlib.Algebra.Group.Nat.Defs

/-! Whole numbers in decimal digits. Digits are read as the number that they denote as long as it does
not exceed what a word holds, and a sign in front of them decides which word that is. -/
namespace DevicePoll

theorem isNumeral_iff {cs : List Char} :
    isNumeral cs = true ↔ cs ≠ [] ∧ ∀ c ∈ cs, c.isDigit = true := by
  simp [isNumeral]

theorem isNumeral_digits (n : Nat) : isNumeral (Decimal.digits n) = true :=
  isNumeral_iff.mpr ⟨Nat.toDigits_ne_nil,
    fun _ hc => Nat.isDigit_of_mem_toDigits (by decide) (by decide) hc⟩

theorem ne_of_isNumeral {c d : Char} {cs : List Char} (h : isNumeral (c :: cs) = true)
    (hd : d.isDigit = false) : c ≠ d := by
  rintro rfl
  have hdigit := (isNumeral_iff.mp h).2 c List.mem_cons_self
  exact absurd hdigit (by simp [hd])

namespace Decimal

theorem le_ofDigitChars (cs : List Char) (value : Nat) : value ≤ Nat.ofDigitChars 10 cs value := by
  induction cs generalizing value with
  | nil => simp [Nat.ofDigitChars]
  | cons c cs ih =>
    rw [Nat.ofDigitChars_cons]
    have hstep := ih (10 * value + (c.toNat - '0'.toNat))
    omega

theorem digitValue?_of_isDigit {c : Char} (h : c.isDigit = true) :
    digitValue? c = some (c.toNat - '0'.toNat) := if_pos h

/-- Digits are read to their end if the number that they denote does not exceed the limit. -/
theorem continueWith_eq {limit value : Nat} {excess : WholeFault} {cs : List Char}
    (hdigits : ∀ c ∈ cs, c.isDigit = true) (hvalue : value ≤ limit) :
    continueWith limit excess value cs =
      if Nat.ofDigitChars 10 cs value ≤ limit then .ok (Nat.ofDigitChars 10 cs value)
      else .error excess := by
  induction cs generalizing value with
  | nil => simp [continueWith, Nat.ofDigitChars, hvalue]
  | cons c cs ih =>
    obtain ⟨hc, hcs⟩ := List.forall_mem_cons.mp hdigits
    have hdigit := digitValue?_of_isDigit hc
    have hmore := le_ofDigitChars cs (10 * value + (c.toNat - '0'.toNat))
    rw [continueWith, hdigit, Nat.ofDigitChars_cons, Nat.mul_comm value]
    dsimp only
    split
    · next hle => exact ih hcs hle
    · next hexceeds => rw [if_neg (by omega)]

theorem readMagnitude_eq {limit : Nat} {excess : WholeFault} {cs : List Char}
    (h : isNumeral cs = true) :
    readMagnitude limit excess cs =
      if Nat.ofDigitChars 10 cs 0 ≤ limit then .ok (Nat.ofDigitChars 10 cs 0)
      else .error excess := by
  obtain ⟨hne, hdigits⟩ := isNumeral_iff.mp h
  cases cs with
  | nil => exact absurd rfl hne
  | cons c cs => exact continueWith_eq hdigits (Nat.zero_le _)

theorem readNat_eq_readMagnitude {cs : List Char} (h : isNumeral cs = true) :
    readNat cs = readMagnitude maxUnsigned .tooLarge cs := by
  cases cs with
  | nil => exact absurd rfl (isNumeral_iff.mp h).1
  | cons c cs =>
    have hplus : c ≠ '+' := ne_of_isNumeral h (by decide)
    unfold readNat
    split
    · next heq => cases heq
    · next heq => exact absurd (List.cons.inj heq).1 hplus
    · rfl

theorem readInt_eq_readMagnitude {cs : List Char} (h : isNumeral cs = true) :
    readInt cs = (readMagnitude maxSigned .tooLarge cs).map Int.ofNat := by
  cases cs with
  | nil => exact absurd rfl (isNumeral_iff.mp h).1
  | cons c cs =>
    have hplus : c ≠ '+' := ne_of_isNumeral h (by decide)
    have hminus : c ≠ '-' := ne_of_isNumeral h (by decide)
    unfold readInt
    split
    · next heq => cases heq
    · next heq => exact absurd (List.cons.inj heq).1 hplus
    · next heq => exact absurd (List.cons.inj heq).1 hminus
    · rfl

/-- A numeral is read as the number that it denotes, if that number is below `2 ^ 64`. -/
theorem readNat_eq {cs : List Char} (h : isNumeral cs = true) :
    readNat cs = if Nat.ofDigitChars 10 cs 0 < 2 ^ 64 then .ok (Nat.ofDigitChars 10 cs 0)
      else .error .tooLarge := by
  have hlimit : Nat.ofDigitChars 10 cs 0 ≤ maxUnsigned ↔ Nat.ofDigitChars 10 cs 0 < 2 ^ 64 := by
    unfold maxUnsigned
    omega
  rw [readNat_eq_readMagnitude h, readMagnitude_eq h]
  simp only [hlimit]

end Decimal
end DevicePoll
