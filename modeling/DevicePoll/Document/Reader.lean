import DevicePoll.Document.Basic

/-! Readers of typed values from documents, with the mismatch that stops them. Whole numbers are
checked against the range of their words, and nothing is converted between texts and numbers. -/
namespace DevicePoll.Document

/-- What reading a document comes to. -/
abbrev Read (α : Type) : Type := Except Mismatch α

def asText : Document → Read String
  | text value => .ok value
  | other => .error (.wrongType other.found "a string")

def asFlag : Document → Read Bool
  | boolean value => .ok value
  | other => .error (.wrongType other.found "a boolean")

/-- A whole number from `0` to `2 ^ 64 - 1`; `name` is the name of its range in a mismatch. -/
def asUnsigned (name : String) : Document → Read UInt64
  | integer value =>
    if 0 ≤ value ∧ value ≤ (Decimal.maxUnsigned : Int) then .ok (UInt64.ofNat value.toNat)
    else .error (.wrongValue (.integer value) name)
  | other => .error (.wrongType other.found name)

/-- A whole number from `-2 ^ 63` to `2 ^ 63 - 1`. -/
def asInteger : Document → Read Int64
  | integer value =>
    if Decimal.minSigned ≤ value ∧ value ≤ (Decimal.maxSigned : Int) then .ok (Int64.ofInt value)
    else .error (.wrongValue (.integer value) "i64")
  | other => .error (.wrongType other.found "i64")

/-- The binary number nearest to a whole number. -/
def realOfInt : Int → Float
  | .ofNat n => Float.ofNat n
  | .negSucc n => -Float.ofNat (n + 1)

def asReal : Document → Read Float
  | real value => .ok value
  | integer value => .ok (realOfInt value)
  | other => .error (.wrongType other.found "f64")

def asList : Document → Read (List Document)
  | list items => .ok items
  | other => .error (.wrongType other.found "a sequence")

def asObject : Document → Read (List (String × Document))
  | object entries => .ok entries
  | other => .error (.wrongType other.found "a map")

/-- A missing value, or what a reader finds. -/
def asOptional {α : Type} (read : Document → Read α) : Document → Read (Option α)
  | null => .ok none
  | other => (read other).map some

/-- Every item of a list; the first mismatch counts. -/
def asListOf {α : Type} (read : Document → Read α) (document : Document) : Read (List α) := do
  (← document.asList).mapM read

/-- A number is written only when it is finite. -/
def ofReal (value : Float) : Document := if value.isFinite then real value else null

def ofOption {α : Type} (write : α → Document) : Option α → Document
  | none => null
  | some value => write value

/-- Entries in ascending order of their labels, the last one of each label. -/
def canonicalEntries (entries : List (String × Document)) : List (String × Document) :=
  entries.foldl (fun l e => insertEntry e.1 e.2 l) []
where
  /-- Entries in order with one more. -/
  insertEntry (label : String) (value : Document) :
      List (String × Document) → List (String × Document)
    | [] => [(label, value)]
    | (key, old) :: rest =>
      if label < key then (label, value) :: (key, old) :: rest
      else if label = key then (label, value) :: rest
      else (key, old) :: insertEntry label value rest

end DevicePoll.Document
