import DevicePoll.Source.Node

/-! Overrides with fixed answers. A text answer may hold places for what is known of the identity of
the device. -/
namespace DevicePoll

/-- A fixed answer for a property. -/
inductive Script.Answer (p : Property) where
  | value (value : p.Value)
  | failure (failure : Failure)
  | parent

/-- Fixed answers; a property without one is not supported. -/
abbrev Script : Type := (p : Property) → Option (Script.Answer p)

namespace Script

/-- The place of an identity field in a text answer. -/
def place (field : IdentityField) : List Char := '\x7b' :: field.label.toList ++ ['\x7d']

/-- The text with every place filled that stands before others, and `?` for what is not known. -/
def fillAll (identity : Identity) : Nat → List Char → List Char
  | 0, cs => cs
  | _ + 1, [] => []
  | fuel + 1, c :: cs =>
    let found := IdentityField.all.findSome? fun field =>
      (Text.afterStart? (place field) (c :: cs)).map fun rest => (field, rest)
    match found with
    | some (field, rest) => ((identity field).getD "?").toList ++ fillAll identity fuel rest
    | none => c :: fillAll identity fuel cs

def fill (identity : Identity) (s : String) : String :=
  String.ofList (fillAll identity s.toList.length s.toList)

def fillValue (identity : Identity) : (p : Property) → p.Value → p.Value
  | .identity _, value => fill identity value
  | _, value => value

/-- The override that gives the answers of a script. -/
def override (script : Script) : Override := fun parent p identity =>
  match script p with
  | none => Source.unsupported p identity
  | some (.value value) => Poll.ofOutcome (.ok (fillValue identity p value))
  | some (.failure failure) => Poll.ofOutcome (.error failure)
  | some .parent =>
    match parent with
    | some source => source p identity
    | none => Poll.ofOutcome (.error (.stated .notImplemented "no parent"))

end Script
end DevicePoll
