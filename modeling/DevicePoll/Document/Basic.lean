import DevicePoll.Text.Quoted
import DevicePoll.Decimal.Layout

/-! Data documents: trees of scalars, lists and labelled entries, as they come from a data file or a
message. `Mismatch` tells why a document is not what a reader expects, and `Mismatch.text` is its
only wording. -/
namespace DevicePoll

/-- A data document. Entries of an object stand in the order in which they were given. An object
with a key that is no text is a table. -/
inductive Document where
  | null
  | boolean (value : Bool)
  | integer (value : Int)
  | real (value : Float)
  | text (value : String)
  | list (items : List Document)
  | object (entries : List (String × Document))
  | table (entries : List (Document × Document))
  deriving Inhabited, Repr

namespace Document

/-- What a reader met, without the parts of lists and objects. -/
inductive Found where
  | null
  | boolean (value : Bool)
  | integer (value : Int)
  | real (value : Float)
  | text (value : String)
  | list
  | object
  deriving Repr

def found : Document → Found
  | null => .null
  | boolean value => .boolean value
  | integer value => .integer value
  | real value => .real value
  | text value => .text value
  | list _ => .list
  | object _ | table _ => .object

def Found.name : Found → String
  | .null => "null"
  | .boolean value => "boolean `" ++ (if value then "true" else "false") ++ "`"
  | .integer value => "integer `" ++ Decimal.intText value ++ "`"
  | .real value => "floating point `" ++ Decimal.dataText value ++ "`"
  | .text value => "string " ++ Text.shown value
  | .list => "sequence"
  | .object => "map"

/-- Why a document is not what a reader expects. -/
inductive Mismatch where
  | wrongType (found : Found) (expected : String)
  | wrongValue (found : Found) (expected : String)
  | wrongLength (length : Nat) (expected : String)
  | missingEntry (label : String)
  | repeatedEntry (label : String)
  | unknownEntry (label : String)
  | unknownName (name : String) (names : List String)
  | noForm (type : String)
  | refused (reason : String)
  deriving Repr

/-- Names in the marks that set them off, separated by commas. -/
def marked (names : List String) : String :=
  ", ".intercalate (names.map fun name => "`" ++ name ++ "`")

def Mismatch.text : Mismatch → String
  | wrongType found expected => "invalid type: " ++ found.name ++ ", expected " ++ expected
  | wrongValue found expected => "invalid value: " ++ found.name ++ ", expected " ++ expected
  | wrongLength length expected =>
    "invalid length " ++ Decimal.natText length ++ ", expected " ++ expected
  | missingEntry label => "missing field `" ++ label ++ "`"
  | repeatedEntry label => "duplicate field `" ++ label ++ "`"
  | unknownEntry label => "unknown field `" ++ label ++ "`"
  | unknownName name names => "unknown variant `" ++ name ++ "`, expected one of " ++ marked names
  | noForm type => "data did not match any variant of untagged enum " ++ type
  | refused reason => reason

/-- The last entry with a label; of repeated entries the last one counts. -/
def lookup? (label : String) : List (String × Document) → Option Document
  | [] => none
  | (key, value) :: rest =>
    match lookup? label rest with
    | some later => some later
    | none => if key = label then some value else none

/-- The label of a key. A whole number is the place of one of some labels, or else a label of its
own. -/
def labelOf? (labels : List String) : Document → Option String
  | text label => some label
  | integer (.ofNat place) => some (labels[place]?.getD (Decimal.natText place))
  | _ => none

/-- The entries of a table by their labels, if every key has one. -/
def labelled? (labels : List String) (entries : List (Document × Document)) :
    Option (List (String × Document)) :=
  entries.mapM fun e => (labelOf? labels e.1).map (·, e.2)

/-- One of some labels that stands at more than one entry. -/
def repeated? (labels : List String) (entries : List (String × Document)) : Option String :=
  labels.find? fun label => 1 < entries.countP fun e => e.1 = label

end Document
end DevicePoll
