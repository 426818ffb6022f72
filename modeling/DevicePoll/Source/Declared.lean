import DevicePoll.Class.Basic
import DevicePoll.Property
import DevicePoll.Query.Read

/-! Properties as a class declares them. A class answers only for the paths that its own definition
holds, and reads them in its merged tree. -/
namespace DevicePoll

namespace Tier

/-- The node that a class answers with for a path. -/
def node? (tier : Tier) (path : String) : Option QueryNode :=
  if tier.declares path then tier.tree.lookup path else none

def leafAt (tier : Tier) (path : String) : Outcome Leaf :=
  match tier.node? path with
  | some (.leaf leaf) => .ok leaf
  | some (.group _ _) => Outcome.fails (.wrongShape path "leaf")
  | none => Outcome.fails (.undeclared path tier.name)

def groupAt (tier : Tier) (path : String) : Outcome QueryTree :=
  match tier.node? path with
  | some (.group labels child) => .ok ⟨labels, child⟩
  | some (.leaf _) => Outcome.fails (.wrongShape path "group")
  | none => Outcome.fails (.undeclared path tier.name)

/-- The values of a leaf in the order of their rows, at least one. -/
def column (tier : Tier) (path : String) : Poll (List Scalar) := do
  let leaf ← Poll.ofOutcome (tier.leafAt path)
  let values ← leaf.read
  if values.isEmpty then Poll.fails (.noValue path) else return values.values

/-- The value of the lowest row of a leaf. -/
def scalar (tier : Tier) (path : String) (type : ScalarType) : Poll type.Value := do
  match ← tier.column path with
  | [] => Poll.fails (.noValue path)
  | value :: _ => Poll.ofOutcome (Outcome.within ("'" ++ path ++ "'") (type.convert value))

/-- The values of a leaf as reals. -/
def reals (tier : Tier) (path : String) : Poll (List Float) := do
  let values ← tier.column path
  Poll.ofOutcome (values.mapM fun value => Outcome.within ("'" ++ path ++ "'") value.toReal)

/-- The rows of a group, at least one. -/
def rows (tier : Tier) (path : String) : Poll Rows := do
  let tree ← Poll.ofOutcome (tier.groupAt path)
  let rows ← tree.readAll
  if rows.isEmpty then Poll.fails (.noRows path) else return rows

def table (tier : Tier) (path : String) (schema : Schema) : Poll (List schema.Record) := do
  let rows ← tier.rows path
  Poll.ofOutcome (Outcome.within ("'" ++ path ++ "'") (rows.decode schema))

/-- The interface of a row; without an index of its own it has that of the row. -/
def interfaceOfRow (index : UInt64) (row : Row) : Outcome Interface :=
  (Row.decode InterfaceField.schema index row).map fun i =>
    match i .index with
    | some _ => i
    | none => Schema.set i InterfaceField.index (some index)

def interfaces (tier : Tier) (path : String) : Poll (List Interface) := do
  let rows ← tier.rows path
  Poll.ofOutcome (rows.entries.mapM fun e => interfaceOfRow e.1 e.2)

/-- A value of the given form at a path. -/
def readForm (tier : Tier) (path : String) : (form : Form) → Poll form.Value
  | .scalar type => tier.scalar path type
  | .reals => tier.reals path
  | .interfaces => tier.interfaces path
  | .table schema => tier.table path schema

/-- A property as the class declares it. -/
def property (tier : Tier) (p : Property) : Poll p.Value := tier.readForm p.path p.form

end Tier
end DevicePoll
