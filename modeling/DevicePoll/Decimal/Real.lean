import DevicePoll.Decimal.Whole

/-! Reading decimal texts into binary numbers, rounded to the nearest. A text has an optional sign
and then digits with an optional point and an optional power of ten, or the name of a number that is
not finite, in any case of letters. -/
namespace DevicePoll.Decimal

/-- The longest run of digits at the start, and the rest. -/
def spanDigits : List Char → List Nat × List Char
  | [] => ([], [])
  | c :: cs =>
    match digitValue? c with
    | none => ([], c :: cs)
    | some d => (d :: (spanDigits cs).1, (spanDigits cs).2)

def valueOf (ds : List Nat) : Nat := ds.foldl (fun n d => n * 10 + d) 0

/-- The binary number nearest to `n * 10 ^ exponent`. Powers of ten beyond the range of the format
are settled without computing them. -/
def nearest (n : Nat) (exponent : Int) : Float :=
  if n = 0 then 0
  else
    let size := ((digits n).length : Int) + exponent
    if 400 < size then 1 / 0
    else if size < -400 then 0
    else Float.ofScientific n (exponent < 0) exponent.natAbs

/-- The power of ten after the letter `e`, as a whole number with an optional sign. -/
def readPower : List Char → Option Int
  | [] => some 0
  | c :: cs =>
    if c = 'e' ∨ c = 'E' then
      let (negative, ds) := match cs with
        | '+' :: r => (false, r)
        | '-' :: r => (true, r)
        | r => (false, r)
      match spanDigits ds with
      | ([], _) => none
      | (power, []) => some (if negative then -(valueOf power : Int) else valueOf power)
      | _ => none
    else none

/-- Digits with an optional point and an optional power of ten. -/
def readUnsignedReal (cs : List Char) : Option Float :=
  let (whole, rest) := spanDigits cs
  let (places, rest) := match rest with
    | '.' :: r => spanDigits r
    | r => ([], r)
  if whole.isEmpty && places.isEmpty then none
  else (readPower rest).map fun power =>
    nearest (valueOf (whole ++ places)) (power - places.length)

/-- The letter in lower case, for letters of the basic Latin alphabet. -/
def lower (cs : List Char) : List Char := cs.map Char.toLower

def readMagnitudeReal (cs : List Char) : Option Float :=
  let name := lower cs
  if name = "nan".toList then some (0 / 0)
  else if name = "inf".toList ∨ name = "infinity".toList then some (1 / 0)
  else readUnsignedReal cs

/-- A decimal text with an optional sign. -/
def readReal (s : String) : Option Float :=
  match s.toList with
  | '-' :: cs => (readMagnitudeReal cs).map fun x => -x
  | '+' :: cs => readMagnitudeReal cs
  | cs => readMagnitudeReal cs

end DevicePoll.Decimal
