import DevicePoll.Operator
import DevicePoll.Proofs.Decimal.Whole
import DevicePoll.Proofs.Text.Trimmed

/-! Whole numbers with a sign as device values. A text of digits becomes the word of 64 bits that can
hold the number, and a real if there is none, so that a written integer is parsed without loss. -/
namespace DevicePoll
namespace Decimal

/-- Decimal digits that may have a sign, with whether the sign is a minus and the number without it. -/
inductive SignedDigits : List Char → Bool → Nat → Prop
  | plain {ds : List Char} (h : isNumeral ds = true) :
      SignedDigits ds false (Nat.ofDigitChars 10 ds 0)
  | plus {ds : List Char} (h : isNumeral ds = true) :
      SignedDigits ('+' :: ds) false (Nat.ofDigitChars 10 ds 0)
  | minus {ds : List Char} (h : isNumeral ds = true) :
      SignedDigits ('-' :: ds) true (Nat.ofDigitChars 10 ds 0)

theorem readMagnitude_not_digit {limit : Nat} {excess : WholeFault} {c : Char} {cs : List Char}
    (h : c.isDigit = false) : readMagnitude limit excess (c :: cs) = .error .badDigit := by
  simp [readMagnitude, continueWith, digitValue?, h]

theorem readUnsigned_eq {cs : List Char} {n : Nat} (h : SignedDigits cs false n) :
    readUnsigned (String.ofList cs) =
      if n < 2 ^ 64 then .ok (UInt64.ofNat n) else .error .tooLarge := by
  have hsigned : ∀ ds : List Char, isNumeral ds = true → readNat ('+' :: ds) = readNat ds :=
    fun ds hds => (readNat_eq_readMagnitude hds).symm
  rw [readUnsigned, String.toList_ofList]
  cases h with
  | plain hds =>
    rw [readNat_eq hds]
    split <;> rfl
  | @plus ds hds =>
    rw [hsigned ds hds, readNat_eq hds]
    split <;> rfl

theorem readUnsigned_minus (ds : List Char) :
    readUnsigned (String.ofList ('-' :: ds)) = .error .badDigit := by
  have hminus : readNat ('-' :: ds) = readMagnitude maxUnsigned .tooLarge ('-' :: ds) := rfl
  rw [readUnsigned, String.toList_ofList, hminus, readMagnitude_not_digit (by decide)]
  rfl

/-- A number that is too large for an unsigned word is too large for a signed one. -/
theorem readSigned_tooLarge {cs : List Char} {n : Nat} (h : SignedDigits cs false n)
    (hlarge : ¬n < 2 ^ 64) : readSigned (String.ofList cs) = .error .tooLarge := by
  have hlimit : ¬n ≤ maxSigned := by
    unfold maxSigned
    omega
  rw [readSigned, String.toList_ofList]
  cases h with
  | plain hds =>
    rw [readInt_eq_readMagnitude hds, readMagnitude_eq hds, if_neg hlimit]
    rfl
  | @plus ds hds =>
    have hread : readInt ('+' :: ds) = (readMagnitude maxSigned .tooLarge ds).map Int.ofNat := rfl
    rw [hread, readMagnitude_eq hds, if_neg hlimit]
    rfl

theorem readSigned_minus {ds : List Char} (h : isNumeral ds = true) :
    readSigned (String.ofList ('-' :: ds)) =
      if Nat.ofDigitChars 10 ds 0 ≤ 2 ^ 63 then .ok (Int64.ofInt (-(Nat.ofDigitChars 10 ds 0 : Int)))
      else .error .tooSmall := by
  have hread : readInt ('-' :: ds) =
      (readMagnitude (maxSigned + 1) .tooSmall ds).map fun n => -Int.ofNat n := rfl
  have hlimit : Nat.ofDigitChars 10 ds 0 ≤ maxSigned + 1 ↔ Nat.ofDigitChars 10 ds 0 ≤ 2 ^ 63 := by
    unfold maxSigned
    omega
  rw [readSigned, String.toList_ofList, hread, readMagnitude_eq h]
  simp only [hlimit]
  split <;> rfl

/-! ### Reals of digits -/

theorem spanDigits_eq {cs : List Char} (h : ∀ c ∈ cs, c.isDigit = true) :
    spanDigits cs = (cs.map fun c => c.toNat - '0'.toNat, []) := by
  induction cs with
  | nil => rfl
  | cons c cs ih =>
    obtain ⟨hc, hcs⟩ := List.forall_mem_cons.mp h
    simp only [spanDigits, digitValue?_of_isDigit hc, ih hcs, List.map_cons]

theorem valueOf_map (cs : List Char) :
    valueOf (cs.map fun c => c.toNat - '0'.toNat) = Nat.ofDigitChars 10 cs 0 := by
  have hfold : ∀ (l : List Char) (n : Nat),
      (l.map fun c => c.toNat - '0'.toNat).foldl (fun n d => n * 10 + d) n =
        Nat.ofDigitChars 10 l n := by
    intro l
    induction l with
    | nil => intro n; simp [Nat.ofDigitChars]
    | cons c l ih =>
      intro n
      rw [List.map_cons, List.foldl_cons, ih, Nat.ofDigitChars_cons, Nat.mul_comm n]
  exact hfold cs 0

theorem readUnsignedReal_eq {cs : List Char} (h : isNumeral cs = true) :
    readUnsignedReal cs = some (nearest (Nat.ofDigitChars 10 cs 0) 0) := by
  obtain ⟨hne, hdigits⟩ := isNumeral_iff.mp h
  rw [readUnsignedReal, spanDigits_eq hdigits, ← valueOf_map]
  simp [readPower, hne]

theorem toLower_of_isDigit {c : Char} (h : c.isDigit = true) : c.toLower = c := by
  simp only [Char.isDigit, Bool.and_eq_true, decide_eq_true_eq] at h
  have hdigit : c.val.toNat ≤ 57 := UInt32.le_iff_toNat_le.mp h.2
  unfold Char.toLower
  split
  · next hupper =>
    have hletter : 65 ≤ c.val.toNat := UInt32.le_iff_toNat_le.mp hupper.1
    omega
  · rfl

/-- A digit starts none of the names of numbers that are not finite. -/
theorem readMagnitudeReal_eq {cs : List Char} (h : isNumeral cs = true) :
    readMagnitudeReal cs = some (nearest (Nat.ofDigitChars 10 cs 0) 0) := by
  obtain ⟨hne, hdigits⟩ := isNumeral_iff.mp h
  have hlower : lower cs = cs :=
    (List.map_congr_left fun c hc => toLower_of_isDigit (hdigits c hc)).trans (List.map_id cs)
  have hname {name : List Char} {c : Char} (hc : c ∈ name) (hletter : c.isDigit = false) :
      ¬lower cs = name := by
    intro heq
    have hdigit := hdigits c (by rw [← hlower, heq]; exact hc)
    exact absurd hdigit (by simp [hletter])
  have hnan : ¬lower cs = "nan".toList := hname (c := 'n') (by decide) (by decide)
  have hinf : ¬(lower cs = "inf".toList ∨ lower cs = "infinity".toList) :=
    not_or.mpr ⟨hname (c := 'i') (by decide) (by decide), hname (c := 'i') (by decide) (by decide)⟩
  rw [readMagnitudeReal, if_neg hnan, if_neg hinf]
  exact readUnsignedReal_eq h

theorem readReal_eq {cs : List Char} {negative : Bool} {n : Nat}
    (h : SignedDigits cs negative n) :
    readReal (String.ofList cs) = some (if negative then -nearest n 0 else nearest n 0) := by
  rw [readReal, String.toList_ofList]
  cases h with
  | plain hds =>
    cases cs with
    | nil => exact absurd rfl (isNumeral_iff.mp hds).1
    | cons c cs =>
      have hplus : c ≠ '+' := ne_of_isNumeral hds (by decide)
      have hminus : c ≠ '-' := ne_of_isNumeral hds (by decide)
      split
      · next heq => exact absurd (List.cons.inj heq).1 hminus
      · next heq => exact absurd (List.cons.inj heq).1 hplus
      · exact readMagnitudeReal_eq hds
  | plus hds => exact readMagnitudeReal_eq hds
  | minus hds =>
    simp [readMagnitudeReal_eq hds]

end Decimal

namespace Operator

/-- The value that a number of digits with a sign is parsed to. -/
def wholeValue (negative : Bool) (n : Nat) : Scalar :=
  if negative then
    if n ≤ 2 ^ 63 then .integer (Int64.ofInt (-(n : Int))) else .real (-Decimal.nearest n 0)
  else if n < 2 ^ 64 then .unsigned (UInt64.ofNat n) else .real (Decimal.nearest n 0)

theorem apply_parseNumber_text (s : String) : parseNumber.apply (.text s) = parseText s := rfl

theorem parseText_eq {s : String} {negative : Bool} {n : Nat}
    (h : Decimal.SignedDigits (Text.trimmed s.toList) negative n) :
    parseText s = .ok (wholeValue negative n) := by
  have hreal := Decimal.readReal_eq h
  simp only [parseText, Text.trim]
  unfold wholeValue
  cases negative with
  | false =>
    rw [Decimal.readUnsigned_eq h]
    by_cases hn : n < 2 ^ 64
    · rw [if_pos hn, if_pos hn]
      rfl
    · simp only [hn, Decimal.readSigned_tooLarge h hn, hreal, Bool.false_eq_true, ↓reduceIte]
  | true =>
    generalize Text.trimmed s.toList = cs at h hreal
    cases h with
    | @minus ds hds =>
      rw [Decimal.readUnsigned_minus, Decimal.readSigned_minus hds]
      by_cases hn : Nat.ofDigitChars 10 ds 0 ≤ 2 ^ 63
      · rw [if_pos hn, if_pos hn]
        rfl
      · simp only [hn, hreal, ↓reduceIte]

/-! ### Written integers -/

theorem notBlank_of_mem_signedDigits {cs : List Char} {negative : Bool} {n : Nat} {c : Char}
    (h : Decimal.SignedDigits cs negative n) (hc : c ∈ cs) : Text.isBlank c = false := by
  have hdigit {ds : List Char} (hds : isNumeral ds = true) (hmem : c ∈ ds) :
      Text.isBlank c = false := Text.isBlank_digit ((isNumeral_iff.mp hds).2 c hmem)
  cases h with
  | plain hds => exact hdigit hds hc
  | plus hds | minus hds =>
    rcases List.mem_cons.mp hc with rfl | hmem
    · decide
    · exact hdigit hds hmem

theorem signedDigits_intText (i : Int) :
    Decimal.SignedDigits (Decimal.intText i).toList (decide (i < 0)) i.natAbs := by
  have hdigits (n : Nat) : Nat.ofDigitChars 10 (Decimal.digits n) 0 = n :=
    Nat.ofDigitChars_toDigits (by decide) (by decide)
  cases i with
  | ofNat n =>
    have hplain := Decimal.SignedDigits.plain (isNumeral_digits n)
    rw [hdigits] at hplain
    have hnonneg : ¬(Int.ofNat n) < 0 := Int.not_lt.mpr (Int.natCast_nonneg n)
    rw [decide_eq_false hnonneg, Decimal.intText, Decimal.natText, String.toList_ofList]
    exact hplain
  | negSucc n =>
    have hminus := Decimal.SignedDigits.minus (isNumeral_digits (n + 1))
    rw [hdigits] at hminus
    rw [decide_eq_true (Int.negSucc_lt_zero n), Decimal.intText, String.toList_ofList]
    exact hminus

theorem display_eq_intText {value : Scalar} {i : Int} (h : value.int? = some i) :
    value.display = Decimal.intText i := by
  cases value with
  | integer x | unsigned x =>
    cases h
    rfl
  | boolean | real | text => cases h

theorem parseText_display {value : Scalar} {i : Int} (h : value.int? = some i) :
    parseText value.display = .ok (wholeValue (decide (i < 0)) i.natAbs) := by
  have hdigits := signedDigits_intText i
  rw [display_eq_intText h]
  apply parseText_eq
  rwa [Text.trimmed_eq_self fun c hc => notBlank_of_mem_signedDigits hdigits hc]

theorem wholeValue_unsigned {n : Nat} (h : n < 2 ^ 64) :
    wholeValue false n = .unsigned (UInt64.ofNat n) := if_pos h

theorem wholeValue_integer {n : Nat} (h : n ≤ 2 ^ 63) :
    wholeValue true n = .integer (Int64.ofInt (-(n : Int))) := if_pos h

/-- The value that the text of an integer is parsed to is that integer, for all conversions too. -/
theorem wholeValue_of_int {value : Scalar} {i : Int} (h : value.int? = some i) :
    (wholeValue (decide (i < 0)) i.natAbs).int? = some i ∧
      (wholeValue (decide (i < 0)) i.natAbs).toUnsigned = value.toUnsigned ∧
      (wholeValue (decide (i < 0)) i.natAbs).toInteger = value.toInteger := by
  cases value with
  | integer x =>
    obtain rfl : x.toInt = i := Option.some.inj h
    have hlow := Int64.le_toInt x
    have hhigh := Int64.toInt_lt x
    by_cases hnegative : x.toInt < 0
    · have hvalue : -(x.toInt.natAbs : Int) = x.toInt := by omega
      rw [decide_eq_true hnegative, wholeValue_integer (by omega), hvalue, Int64.ofInt_toInt]
      exact ⟨rfl, rfl, rfl⟩
    · have hnonneg : 0 ≤ x.toInt := by omega
      have hfits : x.toInt.natAbs < 2 ^ 64 := by omega
      have hword : (UInt64.ofNat x.toInt.natAbs).toNat = x.toInt.natAbs :=
        UInt64.toNat_ofNat_of_lt' hfits
      have hsigned : (UInt64.ofNat x.toInt.natAbs).toNat ≤ Decimal.maxSigned := by
        rw [hword]
        unfold Decimal.maxSigned
        omega
      have hvalue : ((UInt64.ofNat x.toInt.natAbs).toNat : Int) = x.toInt := by
        rw [hword]
        omega
      have hnat : x.toInt.natAbs = x.toInt.toNat := by omega
      rw [decide_eq_false hnegative, wholeValue_unsigned hfits]
      refine ⟨congrArg some hvalue, ?_, ?_⟩
      · simp only [Scalar.toUnsigned, hnonneg, hnat, ↓reduceIte]
      · simp only [Scalar.toInteger, hsigned, hvalue, Int64.ofInt_toInt, ↓reduceIte]
  | unsigned x =>
    obtain rfl : (x.toNat : Int) = i := Option.some.inj h
    have hnonneg : ¬(x.toNat : Int) < 0 := by omega
    rw [decide_eq_false hnonneg, Int.natAbs_natCast, wholeValue_unsigned x.toNat_lt,
      UInt64.ofNat_toNat]
    exact ⟨rfl, rfl, rfl⟩
  | boolean | real | text => cases h

theorem applyAll_trim_parseNumber (ops : List Operator) (value : Scalar) :
    applyAll (trim :: parseNumber :: ops) value = applyAll (parseNumber :: ops) value := by
  cases value with
  | text s =>
    have htrim : Text.trim (Text.trim s) = Text.trim s := by
      rw [Text.trim, Text.toList_trim, Text.trimmed_trimmed, Text.trim]
    have hparse : parseText (Text.trim s) = parseText s := by
      simp only [parseText, htrim]
    simp only [applyAll, apply, hparse]
  | boolean | integer | unsigned | real => rfl

/-- Parsing numbers. Digits with a sign are parsed to the word that holds the number, or else to a
real; so the text of an integer is parsed to that integer. What is no text stays as it is, and blanks
around a text never count. -/
theorem parseNumber_exact :
    (∀ s negative n, Decimal.SignedDigits (Text.trimmed s.toList) negative n →
      parseNumber.apply (.text s) = .ok (wholeValue negative n)) ∧
    (∀ (value : Scalar) i, value.int? = some i →
      ∃ parsed, parseNumber.apply (.text value.display) = .ok parsed ∧ parsed.int? = some i ∧
        parsed.toUnsigned = value.toUnsigned ∧ parsed.toInteger = value.toInteger) ∧
    (∀ value : Scalar, value.text? = none → parseNumber.apply value = .ok value) ∧
    ∀ before after value, applyAll (before ++ parseNumber :: after) value =
      applyAll (before ++ trim :: parseNumber :: after) value := by
  refine ⟨fun s negative n => parseText_eq, ?_, ?_, ?_⟩
  · intro value i h
    refine ⟨wholeValue (decide (i < 0)) i.natAbs, ?_, wholeValue_of_int h⟩
    rw [apply_parseNumber_text, parseText_display h]
  · intro value h
    cases value with
    | text s => cases h
    | boolean | integer | unsigned | real => rfl
  · intro before after value
    rw [applyAll_append, applyAll_append]
    congr 1
    funext next
    exact (applyAll_trim_parseNumber after next).symm

/-- The largest unsigned word behind a blank, a plus and a zero, the smallest signed word, and a
negative integer that was written. -/
theorem parseNumber_exact_at_limits :
    let largest := '0' :: Decimal.digits (2 ^ 64 - 1)
    let smallest := Decimal.digits (2 ^ 63)
    parseNumber.apply (.text (String.ofList ('\u00a0' :: '+' :: largest))) =
        .ok (.unsigned (UInt64.ofNat (2 ^ 64 - 1))) ∧
      parseNumber.apply (.text (String.ofList ('-' :: smallest))) =
        .ok (.integer (Int64.ofInt (-((2 ^ 63 : Nat) : Int)))) ∧
      (∃ parsed, parseNumber.apply (.text (Scalar.integer (-7)).display) = .ok parsed ∧
        parsed.int? = some (-7)) ∧
      parseNumber.apply (.boolean true) = .ok (.boolean true) := by
  intro largest smallest
  obtain ⟨hdigits, hint, hother, -⟩ := parseNumber_exact
  have hlargest : Decimal.SignedDigits
      (Text.trimmed (String.ofList ('\u00a0' :: '+' :: largest)).toList) false (2 ^ 64 - 1) := by
    have hplus := Decimal.SignedDigits.plus (show isNumeral largest = true by decide +kernel)
    have hvalue : Nat.ofDigitChars 10 largest 0 = 2 ^ 64 - 1 := by decide +kernel
    have htrimmed : Text.trimmed (String.ofList ('\u00a0' :: '+' :: largest)).toList =
        '+' :: largest := by decide +kernel
    rwa [htrimmed, ← hvalue]
  have hsmallest : Decimal.SignedDigits
      (Text.trimmed (String.ofList ('-' :: smallest)).toList) true (2 ^ 63) := by
    have hminus := Decimal.SignedDigits.minus (show isNumeral smallest = true by decide +kernel)
    have hvalue : Nat.ofDigitChars 10 smallest 0 = 2 ^ 63 := by decide +kernel
    have htrimmed : Text.trimmed (String.ofList ('-' :: smallest)).toList = '-' :: smallest := by
      decide +kernel
    rwa [htrimmed, ← hvalue]
  obtain ⟨parsed, hparsed, hvalue, -⟩ := hint (.integer (-7)) (-7) rfl
  refine ⟨?_, ?_, ⟨parsed, hparsed, hvalue⟩, hother (.boolean true) rfl⟩
  · rw [hdigits _ false (2 ^ 64 - 1) hlargest, wholeValue_unsigned (by decide)]
  · rw [hdigits _ true (2 ^ 63) hsmallest, wholeValue_integer le_rfl]

end Operator
end DevicePoll
