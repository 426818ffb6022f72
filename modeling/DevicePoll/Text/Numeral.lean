/-! Digits in bases up to sixteen, and the characters that hexadecimal digits name. -/
namespace DevicePoll.Text

/-- The value of a digit in a base. -/
def digitIn? (base : Nat) (c : Char) : Option Nat :=
  let value := if c.isDigit then c.toNat - 48
    else if 'a' ≤ c ∧ c ≤ 'f' then c.toNat - 87
    else if 'A' ≤ c ∧ c ≤ 'F' then c.toNat - 55
    else base
  if value < base then some value else none

/-- The number that digits of a base denote; there must be at least one. -/
def magnitude? (base : Nat) : List Char → Option Nat
  | [] => none
  | cs => (cs.mapM (digitIn? base)).map fun ds => ds.foldl (fun n d => n * base + d) 0

/-- The character with a code point in hexadecimal digits. -/
def codePoint? (cs : List Char) : Option Char :=
  (magnitude? 16 cs).bind fun n => if n.isValidChar then some (Char.ofNat n) else none

end DevicePoll.Text
