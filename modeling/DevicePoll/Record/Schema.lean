import DevicePoll.Scalar

/-! Records with named fields that may be unset. A schema lists the fields with their labels and
formats; reading ignores labels that the schema does not know and stops at the first value of a
wrong type. -/
namespace DevicePoll

/-- How the values of a type are read from documents and written to them. -/
structure Format where
  Value : Type
  read : Document → Document.Read Value
  write : Value → Document

namespace Format

@[reducible] def scalar (type : ScalarType) : Format := ⟨type.Value, type.read, type.write⟩

@[reducible] def list (item : Format) : Format :=
  ⟨List item.Value, Document.asListOf item.read, fun values => .list (values.map item.write)⟩

end Format

/-- The fields of a kind of records. -/
structure Schema where
  name : String
  Field : Type
  decEq : DecidableEq Field
  fields : List Field
  complete : ∀ field, field ∈ fields
  label : Field → String
  format : Field → Format
  /-- Whether an unset field is written. -/
  isShown : Field → Bool

namespace Schema

attribute [instance] Schema.decEq

/-- A value for each field that is set. -/
@[reducible] def Record (s : Schema) : Type := (field : s.Field) → Option (s.format field).Value

/-- A record without values. -/
def blank (s : Schema) : s.Record := fun _ => none

instance (s : Schema) : Inhabited s.Record := ⟨s.blank⟩

/-- The record with one field changed. -/
def set {s : Schema} (r : s.Record) (field : s.Field) (value : Option (s.format field).Value) :
    s.Record :=
  fun other => if h : other = field then h ▸ value else r other

def fieldOf? (s : Schema) (label : String) : Option s.Field :=
  s.fields.find? fun field => s.label field == label

/-- The value of a field; null leaves it unset. -/
def readField (s : Schema) (field : s.Field) :
    Document → Document.Read (Option (s.format field).Value) :=
  Document.asOptional (s.format field).read

/-- The first entry whose value is of a wrong type stops the reading. -/
def checkEntries (s : Schema) : List (String × Document) → Document.Read Unit
  | [] => .ok ()
  | (label, value) :: rest =>
    match s.fieldOf? label with
    | none => s.checkEntries rest
    | some field =>
      match s.readField field value with
      | .ok _ => s.checkEntries rest
      | .error mismatch => .error mismatch

/-- The record of labelled values. -/
def readEntries (s : Schema) (entries : List (String × Document)) : Document.Read s.Record :=
  (s.checkEntries entries).map fun _ field =>
    match Document.lookup? (s.label field) entries with
    | none => none
    | some value =>
      match s.readField field value with
      | .ok found => found
      | .error _ => none

/-- The record of values in the order of the fields. -/
def readItems (s : Schema) (items : List Document) : Document.Read s.Record :=
  match s.readEntries ((s.fields.map s.label).zip items) with
  | .error mismatch => .error mismatch
  | .ok r =>
    if items.length ≤ s.fields.length then .ok r
    else .error (.wrongLength items.length "fewer elements in array")

def read (s : Schema) : Document → Document.Read s.Record
  | .object entries => s.readEntries entries
  | .list items => s.readItems items
  | other => .error (.wrongType other.found ("struct " ++ s.name))

/-- The entry of a field, unless it is unset and not shown. -/
def writeField (s : Schema) (r : s.Record) (field : s.Field) : Option (String × Document) :=
  match r field with
  | some value => some (s.label field, (s.format field).write value)
  | none => if s.isShown field then some (s.label field, .null) else none

def write (s : Schema) (r : s.Record) : Document := .object (s.fields.filterMap (s.writeField r))

/-- Records as values of fields. -/
@[reducible] def toFormat (s : Schema) : Format := ⟨s.Record, s.read, s.write⟩

@[simp] theorem set_same {s : Schema} (r : s.Record) (field : s.Field)
    (value : Option (s.format field).Value) : set r field value field = value := by
  simp [set]

theorem set_other {s : Schema} (r : s.Record) {field other : s.Field}
    (value : Option (s.format field).Value) (h : other ≠ field) :
    set r field value other = r other := by
  simp [set, h]

end Schema
end DevicePoll
