import DevicePoll.Failure
import DevicePoll.Document.Reader

/-! Scalars that devices answer with. Conversions out of a scalar are strict: a text never becomes a
number and a real never becomes an integer, while integers change their sign range when nothing is
lost. -/
namespace DevicePoll

/-- A single value read from a device. -/
inductive Scalar where
  | boolean (value : Bool)
  | integer (value : Int64)
  | unsigned (value : UInt64)
  | real (value : Float)
  | text (value : String)
  deriving Repr

namespace Scalar

instance : Inhabited Scalar := ⟨text ""⟩

def typeName : Scalar → String
  | boolean _ => "bool"
  | integer _ => "integer"
  | unsigned _ => "unsigned"
  | real _ => "float"
  | text _ => "string"

/-- The plain form of a scalar, which is also its key in a table of values. -/
def display : Scalar → String
  | boolean value => if value then "true" else "false"
  | integer value => Decimal.intText value.toInt
  | unsigned value => Decimal.natText value.toNat
  | real value => Decimal.plainText value
  | text value => value

def text? : Scalar → Option String
  | text value => some value
  | _ => none

def isEmptyText : Scalar → Bool
  | text value => value.isEmpty
  | _ => false

/-- The integer that a scalar denotes. -/
def int? : Scalar → Option Int
  | integer value => some value.toInt
  | unsigned value => some value.toNat
  | _ => none

/-- The failure of a scalar of the wrong type. -/
def mismatch {α : Type} (expected : String) (value : Scalar) : Outcome α :=
  Outcome.fails (.typeMismatch expected (value.typeName ++ " (" ++ value.display ++ ")"))

def toText : Scalar → Outcome String
  | text value => .ok value
  | other => other.mismatch "string"

def toUnsigned : Scalar → Outcome UInt64
  | unsigned value => .ok value
  | integer value =>
    if 0 ≤ value.toInt then .ok (UInt64.ofNat value.toInt.toNat)
    else (integer value).mismatch "unsigned"
  | other => other.mismatch "unsigned"

def toInteger : Scalar → Outcome Int64
  | integer value => .ok value
  | unsigned value =>
    if value.toNat ≤ Decimal.maxSigned then .ok (Int64.ofInt value.toNat)
    else (unsigned value).mismatch "integer"
  | other => other.mismatch "integer"

def toReal : Scalar → Outcome Float
  | real value => .ok value
  | integer value => .ok (Document.realOfInt value.toInt)
  | unsigned value => .ok (Document.realOfInt value.toNat)
  | other => other.mismatch "float"

def toFlag : Scalar → Outcome Bool
  | boolean value => .ok value
  | other => other.mismatch "bool"

/-- A real that is not a number or not finite. -/
def isUnbounded : Scalar → Bool
  | real value => !value.isFinite
  | _ => false

def toDocument : Scalar → Document
  | boolean value => .boolean value
  | integer value => .integer value.toInt
  | unsigned value => .integer value.toNat
  | real value => .ofReal value
  | text value => .text value

/-- The scalar of a document. A whole number is signed when it can be. -/
def ofDocument : Document → Document.Read Scalar
  | .boolean value => .ok (boolean value)
  | .integer value =>
    if Decimal.minSigned ≤ value ∧ value ≤ (Decimal.maxSigned : Int) then
      .ok (integer (Int64.ofInt value))
    else if 0 ≤ value ∧ value ≤ (Decimal.maxUnsigned : Int) then
      .ok (unsigned (UInt64.ofNat value.toNat))
    else .error (.noForm "Value")
  | .real value => .ok (real value)
  | .text value => .ok (text value)
  | _ => .error (.noForm "Value")

end Scalar

/-- The types that a value can be asked for. -/
inductive ScalarType where
  | text
  | unsigned
  | integer
  | real
  | flag
  deriving DecidableEq, Repr

namespace ScalarType

@[reducible] def Value : ScalarType → Type
  | text => String
  | unsigned => UInt64
  | integer => Int64
  | real => Float
  | flag => Bool

/-- The strict conversion to a type. -/
def convert : (type : ScalarType) → Scalar → Outcome type.Value
  | text => Scalar.toText
  | unsigned => Scalar.toUnsigned
  | integer => Scalar.toInteger
  | real => Scalar.toReal
  | flag => Scalar.toFlag

def read : (type : ScalarType) → Document → Document.Read type.Value
  | text => Document.asText
  | unsigned => Document.asUnsigned "u64"
  | integer => Document.asInteger
  | real => Document.asReal
  | flag => Document.asFlag

def write : (type : ScalarType) → type.Value → Document
  | text, value => .text value
  | unsigned, value => .integer (UInt64.toNat value)
  | integer, value => .integer (Int64.toInt value)
  | real, value => .ofReal value
  | flag, value => .boolean value

end ScalarType
end DevicePoll
