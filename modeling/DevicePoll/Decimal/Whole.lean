/-! Whole numbers in decimal digits: writing them, and reading them into the words of 64 bits with
the reason why a text is refused. Reading stops at the first character that cannot be accepted. -/
namespace DevicePoll.Decimal

/-- Why a text is not a whole number of the wanted range. -/
inductive WholeFault where
  | empty
  | badDigit
  | tooLarge
  | tooSmall
  deriving DecidableEq, Repr

def WholeFault.text : WholeFault → String
  | .empty => "cannot parse integer from empty string"
  | .badDigit => "invalid digit found in string"
  | .tooLarge => "number too large to fit in target type"
  | .tooSmall => "number too small to fit in target type"

/-- The value of a decimal digit. -/
def digitValue? (c : Char) : Option Nat :=
  if c.isDigit then some (c.toNat - '0'.toNat) else none

/-- Decimal digits of a number, without leading zeros. -/
def digits (n : Nat) : List Char := Nat.toDigits 10 n

def natText (n : Nat) : String := String.ofList (digits n)

def intText : Int → String
  | .ofNat n => natText n
  | .negSucc n => String.ofList ('-' :: digits (n + 1))

/-- The number that digits continue from `value`, refused as soon as it exceeds `limit`. -/
def continueWith (limit : Nat) (excess : WholeFault) : Nat → List Char → Except WholeFault Nat
  | value, [] => .ok value
  | value, c :: cs =>
    match digitValue? c with
    | none => .error .badDigit
    | some d =>
      if value * 10 + d ≤ limit then continueWith limit excess (value * 10 + d) cs
      else .error excess

/-- Magnitude of at least one digit. -/
def readMagnitude (limit : Nat) (excess : WholeFault) : List Char → Except WholeFault Nat
  | [] => .error .badDigit
  | c :: cs => continueWith limit excess 0 (c :: cs)

/-- The largest unsigned number of 64 bits, `2 ^ 64 - 1`. -/
def maxUnsigned : Nat := 0xFFFFFFFFFFFFFFFF

/-- The largest signed number of 64 bits, `2 ^ 63 - 1`. -/
def maxSigned : Nat := 0x7FFFFFFFFFFFFFFF

/-- The smallest signed number of 64 bits. -/
def minSigned : Int := -0x8000000000000000

/-- Digits with an optional plus sign, below `2 ^ 64`. -/
def readNat : List Char → Except WholeFault Nat
  | [] => .error .empty
  | '+' :: cs => readMagnitude maxUnsigned .tooLarge cs
  | cs => readMagnitude maxUnsigned .tooLarge cs

/-- Digits with an optional sign, from `-2 ^ 63` to `2 ^ 63 - 1`. -/
def readInt : List Char → Except WholeFault Int
  | [] => .error .empty
  | '+' :: cs => (readMagnitude maxSigned .tooLarge cs).map Int.ofNat
  | '-' :: cs => (readMagnitude (maxSigned + 1) .tooSmall cs).map fun n => -Int.ofNat n
  | cs => (readMagnitude maxSigned .tooLarge cs).map Int.ofNat

def readUnsigned (s : String) : Except WholeFault UInt64 :=
  (readNat s.toList).map UInt64.ofNat

def readSigned (s : String) : Except WholeFault Int64 :=
  (readInt s.toList).map Int64.ofInt

end DevicePoll.Decimal
