import DevicePoll.Decimal.Real
import DevicePoll.Document.Reader
import DevicePoll.Text.Numeral
import DevicePoll.Yaml.Tag

/-! What the scalars of a YAML text denote. A plain text denotes null, a flag or a number when it is
spelt like one, a quoted text denotes itself, and a tag overrules both. -/
namespace DevicePoll.Yaml

/-- The full name of a tag that every text can use. -/
def commonTag (name : String) : String := commonOpening ++ name

def isNull (s : String) : Bool := s == "~" || s == "null" || s == "Null" || s == "NULL"

def flag? (s : String) : Option Bool :=
  if s == "true" || s == "True" || s == "TRUE" then some true
  else if s == "false" || s == "False" || s == "FALSE" then some false
  else none

/-- A decimal magnitude, or one with the mark of its base. -/
def basedMagnitude? : List Char → Option Nat
  | '0' :: 'x' :: cs => Text.magnitude? 16 cs
  | '0' :: 'o' :: cs => Text.magnitude? 8 cs
  | '0' :: 'b' :: cs => Text.magnitude? 2 cs
  | cs => Text.magnitude? 10 cs

def isSign (c : Char) : Bool := c = '+' || c = '-'

/-- Several digits that start with a zero are a text. -/
def isPadded (cs : List Char) : Bool :=
  let body := match cs with
    | c :: rest => if isSign c then rest else cs
    | [] => []
  match body with
  | '0' :: d :: rest => (d :: rest).all Char.isDigit
  | _ => false

/-- A whole number with an optional sign, of at most 128 bits. -/
def whole? (cs : List Char) : Option Int :=
  if isPadded cs then none
  else
    let value := match cs with
      | '-' :: rest => (basedMagnitude? rest).map fun n => -(n : Int)
      | '+' :: rest => (basedMagnitude? rest).map Int.ofNat
      | cs => (basedMagnitude? cs).map Int.ofNat
    value.filter fun n => -(Nat.pow 2 127 : Int) ≤ n ∧ n < (Nat.pow 2 128 : Int)

/-- A finite decimal number, or one of the names of the others. -/
def real? (s : String) : Option Float :=
  if [".inf", ".Inf", ".INF", "+.inf", "+.Inf", "+.INF"].contains s then some (1 / 0)
  else if ["-.inf", "-.Inf", "-.INF"].contains s then some (-1 / 0)
  else if [".nan", ".NaN", ".NAN"].contains s then some (0 / 0)
  else (Decimal.readReal s).filter Float.isFinite

/-- Whether a whole number fits a word of 64 bits, signed or not. -/
def fitsWord (n : Int) : Bool := Decimal.minSigned ≤ n && n ≤ (Decimal.maxUnsigned : Int)

/-- The document of a whole number; where `strict`, it has to fit a word. -/
def wholeDocument? (strict : Bool) (n : Int) : Option Document :=
  if strict && !fitsWord n then none else some (.integer n)

/-- What a plain text denotes. -/
def plainDocument? (strict : Bool) (s : String) : Option Document :=
  if s.isEmpty || isNull s then some .null
  else match flag? s with
    | some value => some (.boolean value)
    | none =>
      match whole? s.toList with
      | some n => wholeDocument? strict n
      | none =>
        if isPadded s.toList then some (.text s)
        else some (((real? s).map .real).getD (.text s))

/-- The name of a tag of the text's own making. -/
def ownTag? (tag : Option String) : Option String :=
  tag.bind fun name =>
    match name.toList with
    | '!' :: rest => some (String.ofList rest)
    | _ => none

/-- What a scalar without a tag of its own making denotes. -/
def scalarDocument? (strict : Bool) (tag : Option String) (isPlain : Bool) (s : String) :
    Option Document :=
  match tag with
  | none => if isPlain then plainDocument? strict s else some (.text s)
  | some name =>
    if name = commonTag "bool" then (flag? s).map .boolean
    else if name = commonTag "int" then (whole? s.toList).bind (wholeDocument? strict)
    else if name = commonTag "float" then (real? s).map .real
    else if name = commonTag "null" then if isNull s then some .null else none
    else some (.text s)

end DevicePoll.Yaml
