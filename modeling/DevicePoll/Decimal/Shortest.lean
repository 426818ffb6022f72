/-! The fewest decimal digits that read back as a given binary number of 64 bits. The number and the
interval of reals that round to it are kept as exact fractions; each decimal grid from the coarsest
on is tried at the two points next to the number. -/
namespace DevicePoll.Decimal

/-- A positive binary number `significand * 2 ^ exponent` with the places of its neighbours.
Everything is counted in quarters of the last place, so that the middles to both neighbours are
whole: the number is `4 * significand` quarters and `below` quarters reach down to the lower
middle. -/
structure Binary where
  significand : Nat
  exponent : Int
  below : Nat
  deriving DecidableEq, Repr

/-- The leading unit of a significand, which is not among the bits: `2 ^ 52`. -/
def hiddenUnit : Nat := 0x10000000000000

/-- The magnitude of a finite number, from its 64 bits. The lower neighbour of a power of two is
nearer than the upper one. -/
def Binary.ofBits (bits : UInt64) : Binary :=
  let low : Nat := bits.toNat % hiddenUnit
  let scale : Nat := bits.toNat / hiddenUnit % 2048
  if scale = 0 then ⟨low, -1074, 2⟩
  else ⟨hiddenUnit + low, (scale : Int) - 1075, if low = 0 ∧ 1 < scale then 1 else 2⟩

/-- A whole number of units `2 ^ exponent` as a fraction. -/
def fraction (count : Nat) (exponent : Int) : Nat × Nat :=
  (count * Nat.pow 2 exponent.toNat, Nat.pow 2 (-exponent).toNat)

/-- The least `k` with `num / den < 10 ^ k`, for a positive fraction. -/
def magnitude (num den : Nat) : Int :=
  if den ≤ num then ((Nat.toDigits 10 (num / den)).length : Int)
  else 1 - ((Nat.toDigits 10 ((den - 1) / num)).length : Int)

/-- Which of two equally near decimals is taken. -/
inductive Tie where
  | up
  | even
  deriving DecidableEq, Repr

/-- The decimal `digits * 10 ^ exponent`. -/
structure Scientific where
  digits : Nat
  exponent : Int
  deriving DecidableEq, Repr

/-- Whether a decimal lies among the reals that round to a binary number; the two middles belong to
them when the significand is even. -/
def Binary.reads (b : Binary) (d : Scientific) : Bool :=
  let low := fraction (4 * b.significand - b.below) (b.exponent - 2)
  let high := fraction (4 * b.significand + 2) (b.exponent - 2)
  let num := d.digits * Nat.pow 10 d.exponent.toNat
  let den := Nat.pow 10 (-d.exponent).toNat
  if b.significand % 2 = 0 then low.1 * den ≤ num * low.2 && num * high.2 ≤ high.1 * den
  else low.1 * den < num * low.2 && num * high.2 < high.1 * den

/-- The decimal with last place `10 ^ exponent` that reads as `b` and lies next to it. -/
def Binary.onGrid? (b : Binary) (tie : Tie) (exponent : Int) : Option Scientific :=
  let value := fraction b.significand b.exponent
  let num := value.1 * Nat.pow 10 (-exponent).toNat
  let den := value.2 * Nat.pow 10 exponent.toNat
  let floor := num / den
  let rest := 2 * (num % den)
  let lower : Scientific := ⟨floor, exponent⟩
  let upper : Scientific := ⟨floor + 1, exponent⟩
  match b.reads lower, b.reads upper with
  | false, false => none
  | true, false => some lower
  | false, true => some upper
  | true, true =>
    if rest < den then some lower
    else if den < rest then some upper
    else match tie with
      | .up => some upper
      | .even => if floor % 2 = 0 then some lower else some upper

/-- Removes zeros at the end of the digits, at most `fuel` of them. -/
def Scientific.strip : Nat → Scientific → Scientific
  | 0, d => d
  | fuel + 1, d =>
    if d.digits ≠ 0 ∧ d.digits % 10 = 0 then strip fuel ⟨d.digits / 10, d.exponent + 1⟩ else d

/-- The shortest decimal that reads as a positive binary number; seventeen digits always suffice. -/
def Binary.shortest (b : Binary) (tie : Tie) : Scientific :=
  let value := fraction b.significand b.exponent
  let top := magnitude value.1 value.2
  let found := (List.range 17).findSome? fun (n : Nat) => b.onGrid? tie (top - 1 - (n : Int))
  (found.getD ⟨b.significand, b.exponent⟩).strip 20

end DevicePoll.Decimal
