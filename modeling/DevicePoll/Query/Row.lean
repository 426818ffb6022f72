import DevicePoll.LabelTree
import DevicePoll.Record.Schema

/-! Rows of labelled cells, grouped by index in ascending order, and their records. -/
namespace DevicePoll

/-- A scalar, or a nested row. -/
abbrev Cell : Type := LabelNode Scalar

abbrev Row : Type := LabelTree Scalar

/-- The cells of one label by row index. -/
abbrev Column : Type := SortedMap UInt64 Cell

abbrev Rows : Type := SortedMap UInt64 Row

namespace Cell

def toDocument : Cell → Document
  | .leaf value => value.toDocument
  | .group labels child =>
    .object (labels.members.map fun label => (label.1, toDocument (child label.1 label.2)))

/-- The dotted path of the first real in a cell that is not finite. -/
def unbounded? (path : String) : Cell → Option String
  | .leaf value => if value.isUnbounded then some path else none
  | .group labels child =>
    labels.members.findSome? fun label =>
      unbounded? (Text.extend path label.1) (child label.1 label.2)

end Cell

namespace Row

/-- The entries of a row as data. -/
def toEntries (row : Row) : List (String × Document) :=
  row.toList.map fun e => (e.1, Cell.toDocument e.2)

def unbounded? (row : Row) : Option String := Cell.unbounded? "" row.toNode

/-- The record of a row. A real that is not finite fails at any depth, whether the record knows its
label or not. -/
def decode (s : Schema) (index : UInt64) (row : Row) : Outcome s.Record :=
  match row.unbounded? with
  | some path => Outcome.fails (.rowNotFinite index.toNat path)
  | none =>
    match s.readEntries row.toEntries with
    | .ok record => .ok record
    | .error mismatch => Outcome.fails (.rowUnreadable index.toNat mismatch)

end Row

namespace Rows

/-- The rows with the cells of one more label. -/
def addColumn (rows : Rows) (label : String) (column : Column) : Rows :=
  column.entries.foldl
    (fun rows e => rows.insert e.1 (((rows.get? e.1).getD LabelTree.empty).insert label e.2)) rows

/-- The rows of labelled columns: every index that some column has, with the cells that have it. -/
def ofColumns (columns : List (String × Column)) : Rows :=
  columns.foldl (fun rows e => rows.addColumn e.1 e.2) SortedMap.empty

/-- The records of all rows, in the order of their indices. -/
def decode (s : Schema) (rows : Rows) : Outcome (List s.Record) :=
  rows.entries.mapM fun e => Row.decode s e.1 e.2

end Rows
end DevicePoll
