import DevicePoll.Scalar
import DevicePoll.SortedMap
import DevicePoll.Text.Blank
import DevicePoll.Decimal.Real

/-! Operators that turn a raw answer of a device into the value that is kept. A pipeline applies
them one after another and stops at the first that fails. -/
namespace DevicePoll

inductive Operator where
  | trim
  | scale (factor : Float)
  | parseNumber
  | map (table : SortedMap String Scalar) (fallback : Option Scalar)

namespace Operator

def name : Operator → String
  | trim => "trim"
  | scale _ => "scale"
  | parseNumber => "parse_number"
  | map _ _ => "map"

/-- The names of all operators, in order. -/
def names : List String := ["trim", "scale", "parse_number", "map"]

/-- The number that a text denotes between blanks: unsigned if it can be, then signed, then real. -/
def parseText (s : String) : Outcome Scalar :=
  let t := Text.trim s
  match Decimal.readUnsigned t with
  | .ok n => .ok (.unsigned n)
  | .error _ =>
    match Decimal.readSigned t with
    | .ok n => .ok (.integer n)
    | .error _ =>
      match Decimal.readReal t with
      | some x => .ok (.real x)
      | none => Outcome.fails (.notNumber t)

def apply : Operator → Scalar → Outcome Scalar
  | trim, .text s => .ok (.text (Text.trim s))
  | trim, value => .ok value
  | scale factor, value => value.toReal.map fun x => .real (x * factor)
  | parseNumber, .text s => parseText s
  | parseNumber, value => .ok value
  | map table fallback, value =>
    match table.get? value.display, fallback with
    | some found, _ => .ok found
    | none, some found => .ok found
    | none, none => Outcome.fails (.noMapping value.display)

/-- The value that a pipeline of operators makes of a raw value. -/
def applyAll : List Operator → Scalar → Outcome Scalar
  | [], value => .ok value
  | op :: ops, value =>
    match op.apply value with
    | .ok next => applyAll ops next
    | .error failure => .error (.within ("operator '" ++ op.name ++ "' failed") failure)

/-- The names of a pipeline, as a list of quoted texts. -/
def shownNames (ops : List Operator) : String := Text.shownList (ops.map name)

def write : Operator → Document
  | trim => .object [("type", .text "trim")]
  | scale factor => .object [("type", .text "scale"), ("factor", .ofReal factor)]
  | parseNumber => .object [("type", .text "parse_number")]
  | map table fallback =>
    .object [("type", .text "map"),
      ("values", .object (table.entries.map fun e => (e.1, e.2.toDocument))),
      ("default", .ofOption Scalar.toDocument fallback)]

/-- How the arguments of an operator are given: by label, by keys of any kind, or in order. -/
inductive Arguments where
  | labelled (entries : List (String × Document))
  | keyed (entries : List (Document × Document))
  | ordered (items : List Document)

/-- Scalars by text. -/
def readTable (document : Document) : Document.Read (SortedMap String Scalar) :=
  match document.asObject with
  | .error mismatch => .error mismatch
  | .ok entries => SortedMap.ofList <$> entries.mapM fun e => (e.1, ·) <$> Scalar.ofDocument e.2

/-- No more arguments than an operator takes. -/
def checkCount (taken : Nat) (items : List Document) : Document.Read Unit :=
  if items.length ≤ taken then .ok ()
  else .error (.wrongLength items.length
    (Decimal.natText taken ++ (if taken = 1 then " element" else " elements") ++ " in sequence"))

def tooFew {α : Type} (name count : String) : Document.Read α :=
  .error (.wrongLength 0 ("struct variant Operator::" ++ name ++ " with " ++ count))

/-- The entry with a label, which may stand only once. -/
def argument? (label : String) (entries : List (String × Document)) :
    Document.Read (Option Document) :=
  match Document.repeated? [label] entries with
  | some label => .error (.repeatedEntry label)
  | none => .ok (Document.lookup? label entries)

def readPlain (op : Operator) : Arguments → Document.Read Operator
  | .labelled _ | .keyed _ => .ok op
  | .ordered items => (checkCount 0 items).map fun _ => op

/-- Reads arguments by keys of any kind, where whole numbers are the places of some labels. -/
def readKeyed (labels : List String)
    (read : List (String × Document) → Document.Read Operator)
    (entries : List (Document × Document)) : Document.Read Operator :=
  match Document.labelled? labels entries with
  | some entries => read entries
  | none => .error (.wrongType .object "field identifier")

def readScaleEntries (entries : List (String × Document)) : Document.Read Operator := do
  match ← argument? "factor" entries with
  | none => .error (.missingEntry "factor")
  | some factor => factor.asReal.map scale

def readScale : Arguments → Document.Read Operator
  | .labelled entries => readScaleEntries entries
  | .keyed entries => readKeyed ["factor"] readScaleEntries entries
  | .ordered [] => tooFew "Scale" "1 element"
  | .ordered (factor :: more) => do
    let factor ← factor.asReal
    checkCount 1 (.null :: more)
    return scale factor

def readFallback : Document → Document.Read (Option Scalar) := Document.asOptional Scalar.ofDocument

def readMapEntries (entries : List (String × Document)) : Document.Read Operator := do
  let fallback ← readFallback ((← argument? "default" entries).getD .null)
  match ← argument? "values" entries with
  | none => .error (.missingEntry "values")
  | some values => return map (← readTable values) fallback

def readMap : Arguments → Document.Read Operator
  | .labelled entries => readMapEntries entries
  | .keyed entries => readKeyed ["values", "default"] readMapEntries entries
  | .ordered [] => tooFew "Map" "2 elements"
  | .ordered (values :: more) => do
    let table ← readTable values
    let fallback ← readFallback (more.head?.getD .null)
    checkCount 2 (.null :: more)
    return map table fallback

def readNamed (name : String) (arguments : Arguments) : Document.Read Operator :=
  if name = "trim" then readPlain trim arguments
  else if name = "scale" then readScale arguments
  else if name = "parse_number" then readPlain parseNumber arguments
  else if name = "map" then readMap arguments
  else .error (.unknownName name names)

/-- The name of an operator, given as a text or, where `numbered`, by its place among all names. -/
def readName (numbered : Bool) : Document → Document.Read String
  | .text name => .ok name
  | .integer place =>
    if numbered ∧ 0 ≤ place then
      match names[place.toNat]? with
      | some name => .ok name
      | none => .error (.wrongValue (.integer place) "variant index 0 <= i < 4")
    else .error (.wrongType (.integer place) "variant identifier")
  | other => .error (.wrongType other.found "variant identifier")

/-- An operator with its name under `type`, or with its name as the first item of a list. -/
def read (numbered : Bool) : Document → Document.Read Operator
  | .object entries => do
    match ← argument? "type" entries with
    | none => .error (.missingEntry "type")
    | some name => do readNamed (← readName numbered name) (.labelled entries)
  | .table entries => do
    match ← argument? "type" (entries.filterMap fun e => (textOf? e.1).map (·, e.2)) with
    | none => .error (.missingEntry "type")
    | some name => do readNamed (← readName numbered name) (.keyed entries)
  | .list [] => .error (.missingEntry "type")
  | .list (name :: items) => do readNamed (← readName numbered name) (.ordered items)
  | other => .error (.wrongType other.found "internally tagged enum Operator")
where
  textOf? : Document → Option String
    | .text label => some label
    | _ => none

def readAll (numbered : Bool) : Document → Document.Read (List Operator) :=
  Document.asListOf (read numbered)

theorem applyAll_append (ops more : List Operator) (value : Scalar) :
    applyAll (ops ++ more) value = applyAll ops value >>= applyAll more := by
  induction ops generalizing value with
  | nil => rfl
  | cons op ops ih =>
    simp only [List.cons_append, applyAll]
    cases op.apply value with
    | ok next => exact ih next
    | error failure => rfl

end Operator
end DevicePoll
