/-! Places in a text that are counted in the bytes of its characters. -/
namespace DevicePoll.Text

/-- What stands from a place on; a character that the place is inside of is left out. -/
def dropBytes : Nat → List Char → List Char
  | 0, cs => cs
  | _ + 1, [] => []
  | n + 1, c :: cs => dropBytes (n + 1 - c.utf8Size) cs

/-- What stands before a place; a character that the place is inside of is left out. -/
def takeBytes : Nat → List Char → List Char
  | _, [] => []
  | n, c :: cs => if c.utf8Size ≤ n then c :: takeBytes (n - c.utf8Size) cs else []

end DevicePoll.Text
