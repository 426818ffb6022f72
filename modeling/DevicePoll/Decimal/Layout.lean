import DevicePoll.Decimal.Whole
import DevicePoll.Decimal.Shortest

/-! The two written forms of a binary number. The plain form is positional at every size and has no
point for whole numbers; the data form keeps one decimal place at least and turns to powers of ten
outside of the sizes that are easy to read. -/
namespace DevicePoll.Decimal

/-- How numbers are laid out. -/
structure Layout where
  /-- Which of two equally near shortest decimals is taken. -/
  tie : Tie
  /-- Positional form is used for `low < point ≤ high`, where `point` is the place of the decimal
  point relative to the first digit; without bounds it is always used. -/
  positional : Option (Int × Int)
  /-- What follows a whole number in positional form. -/
  wholeEnd : List Char

/-- Positional at every size, and whole numbers without a point. -/
def plain : Layout := ⟨.up, none, []⟩

/-- At least one decimal place, and positional from `10 ^ -5` to below `10 ^ 16`. -/
def data : Layout := ⟨.even, some (-5, 16), ['.', '0']⟩

/-- Digits with the decimal point after `point` of them. -/
def Layout.place (layout : Layout) (ds : List Char) (point : Int) : List Char :=
  if point ≤ 0 then '0' :: '.' :: List.replicate (-point).toNat '0' ++ ds
  else if ds.length ≤ point.toNat then
    ds ++ List.replicate (point.toNat - ds.length) '0' ++ layout.wholeEnd
  else ds.take point.toNat ++ '.' :: ds.drop point.toNat

/-- One digit before the point, and the power of ten with its sign. -/
def powerForm (ds : List Char) (point : Int) : List Char :=
  let sign := if 0 ≤ point - 1 then '+' else '-'
  let mantissa := match ds with
    | first :: second :: rest => first :: '.' :: second :: rest
    | short => short
  mantissa ++ 'e' :: sign :: digits (point - 1).natAbs

/-- The magnitude of a finite number. -/
def Layout.magnitude (layout : Layout) (bits : UInt64) : List Char :=
  let b := Binary.ofBits bits
  if b.significand = 0 then '0' :: layout.wholeEnd
  else
    let d := b.shortest layout.tie
    let ds := digits d.digits
    let point := (ds.length : Int) + d.exponent
    match layout.positional with
    | none => layout.place ds point
    | some (low, high) =>
      if low < point ∧ point ≤ high then layout.place ds point else powerForm ds point

def Layout.finite (layout : Layout) (x : Float) : String :=
  let sign := if x.toBits.toNat ≤ maxSigned then [] else ['-']
  String.ofList (sign ++ layout.magnitude x.toBits)

/-- The plain form, which names what is not finite. -/
def plainText (x : Float) : String :=
  if x.isNaN then "NaN"
  else if x.isInf then if x < 0 then "-inf" else "inf"
  else plain.finite x

/-- The data form of a finite number. -/
def dataText (x : Float) : String := data.finite x

end DevicePoll.Decimal
