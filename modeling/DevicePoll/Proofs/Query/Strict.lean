import DevicePoll.Proofs.Document.Checked
import DevicePoll.Proofs.Document.Rearranged
import DevicePoll.Proofs.LabelTree.Leaves
import DevicePoll.Proofs.Query.Decoding
import DevicePoll.Record.Interface
import DevicePoll.Record.Table

/-! Rows decoded as records. A row becomes a document before it is read as a record, and yet the values of
its fields are the strict conversions of their cells: a row is decoded exactly if every cell under a
label of the record converts, and no other label has a part in it. -/
namespace DevicePoll

/-! ### Scalars and cells as documents -/

/-- A scalar that became a document is read as it is converted. -/
theorem ScalarType.read_toDocument (type : ScalarType) {value : Scalar}
    (h : value.isUnbounded = false) :
    (type.read value.toDocument).toOption = (type.convert value).toOption := by
  cases value with
  | boolean value => cases type <;> rfl
  | text value => cases type <;> rfl
  | real value =>
    have hfinite : value.isFinite = true := by simpa [Scalar.isUnbounded] using h
    rw [Scalar.toDocument, Document.ofReal, if_pos hfinite]
    cases type <;> rfl
  | integer value =>
    have hlow : Decimal.minSigned ≤ value.toInt := Int64.le_toInt value
    have hhigh : value.toInt ≤ (Decimal.maxSigned : Int) := Int64.toInt_le value
    cases type with
    | unsigned =>
      have hword : value.toInt ≤ (Decimal.maxUnsigned : Int) := by
        unfold Decimal.maxSigned at hhigh
        unfold Decimal.maxUnsigned
        omega
      simp only [Scalar.toDocument, read, convert, Document.asUnsigned, Scalar.toUnsigned]
      by_cases hsign : 0 ≤ value.toInt
      · rw [if_pos ⟨hsign, hword⟩, if_pos hsign]
        rfl
      · rw [if_neg (fun h => hsign h.1), if_neg hsign]
        rfl
    | integer =>
      simp only [Scalar.toDocument, read, convert, Document.asInteger, Scalar.toInteger]
      rw [if_pos ⟨hlow, hhigh⟩, Int64.ofInt_toInt]
      rfl
    | _ => rfl
  | unsigned value =>
    have hword : (value.toNat : Int) ≤ (Decimal.maxUnsigned : Int) := by
      have hlt := value.toNat_lt
      unfold Decimal.maxUnsigned
      omega
    cases type with
    | unsigned =>
      simp only [Scalar.toDocument, read, convert, Document.asUnsigned, Scalar.toUnsigned]
      rw [if_pos ⟨Int.natCast_nonneg _, hword⟩, Int.toNat_natCast, UInt64.ofNat_toNat]
      rfl
    | integer =>
      have hlow : Decimal.minSigned ≤ (value.toNat : Int) := by
        unfold Decimal.minSigned
        omega
      simp only [Scalar.toDocument, read, convert, Document.asInteger, Scalar.toInteger]
      by_cases hsigned : value.toNat ≤ Decimal.maxSigned
      · rw [if_pos ⟨hlow, by omega⟩, if_pos hsigned]
        rfl
      · rw [if_neg (fun h => hsigned (by omega)), if_neg hsigned]
        rfl
    | _ => rfl

namespace Cell

/-- Every real in the cell is finite, at any depth. -/
def Finite (cell : Cell) : Prop :=
  ∀ path x, cell.descend path = some (.leaf (.real x)) → x.isFinite = true

theorem finite_leaf {value : Scalar} : Finite (.leaf value) ↔ value.isUnbounded = false := by
  constructor
  · intro h
    cases value with
    | real x => simp [Scalar.isUnbounded, h [] x rfl]
    | _ => rfl
  · intro h path x hx
    cases path with
    | nil =>
      cases hx
      simpa [Scalar.isUnbounded] using h
    | cons label path => cases hx

theorem finite_group {labels : LabelSet} {child : (l : String) → l ∈ labels → Cell} :
    Finite (.group labels child) ↔ ∀ label h, Finite (child label h) := by
  constructor
  · intro h label hlabel path x hx
    exact h (label :: path) x (LabelNode.descend_group_cons.mpr ⟨hlabel, hx⟩)
  · intro h path x hx
    cases path with
    | nil => simp at hx
    | cons label path =>
      obtain ⟨hlabel, hbelow⟩ := LabelNode.descend_group_cons.mp hx
      exact h label hlabel path x hbelow

theorem unbounded?_leaf (path : String) (value : Scalar) :
    unbounded? path (.leaf value) = if value.isUnbounded then some path else none := rfl

theorem unbounded?_group (path : String) (labels : LabelSet)
    (child : (l : String) → l ∈ labels → Cell) :
    unbounded? path (.group labels child) = labels.members.findSome? fun label =>
      unbounded? (Text.extend path label.1) (child label.1 label.2) := rfl

theorem unbounded?_eq_none_iff {cell : Cell} {path : String} :
    unbounded? path cell = none ↔ cell.Finite := by
  induction cell generalizing path with
  | leaf value =>
    rw [unbounded?_leaf, finite_leaf]
    cases value.isUnbounded <;> simp
  | group labels child ih =>
    rw [unbounded?_group, List.findSome?_eq_none_iff, finite_group]
    constructor
    · intro h label hlabel
      exact (ih label hlabel).mp (h ⟨label, hlabel⟩ (LabelSet.mem_members labels _))
    · intro h label _
      exact (ih label.1 label.2).mpr (h label.1 label.2)

theorem toDocument_leaf (value : Scalar) : toDocument (.leaf value) = value.toDocument := rfl

/-- A row within a row becomes the document of its entries. -/
theorem toDocument_group (labels : LabelSet) (child : (l : String) → l ∈ labels → Cell) :
    toDocument (.group labels child) = .object (Row.toEntries ⟨labels, child⟩) := by
  rw [Row.toEntries, LabelTree.toList, List.map_map]
  rfl

theorem toDocument_ne_null {cell : Cell} (h : cell.Finite) : toDocument cell ≠ .null := by
  cases cell with
  | group labels child => simp [toDocument_group]
  | leaf value =>
    rw [finite_leaf] at h
    rw [toDocument_leaf]
    cases value with
    | real x =>
      have hfinite : x.isFinite = true := by simpa [Scalar.isUnbounded] using h
      simp [Scalar.toDocument, Document.ofReal, hfinite]
    | _ => simp [Scalar.toDocument]

end Cell

/-! ### Records of rows -/

namespace Row
variable {s : Schema}

/-- Every cell under a label of the record converts. -/
def Converts (convert : (field : s.Field) → Cell → Option (s.format field).Value) (row : Row) : Prop :=
  ∀ field cell, row.get? (s.label field) = some cell → (convert field cell).isSome = true

instance (convert : (field : s.Field) → Cell → Option (s.format field).Value) (row : Row) :
    Decidable (row.Converts convert) :=
  decidable_of_iff (∀ field ∈ s.fields, ∀ cell ∈ row.get? (s.label field),
      (convert field cell).isSome = true)
    ⟨fun h field => h field (s.complete field), fun h field _ => h field⟩

/-- The record of the converted cells of a row. -/
def converted (convert : (field : s.Field) → Cell → Option (s.format field).Value) (row : Row) :
    s.Record := fun field => (row.get? (s.label field)).bind (convert field)

/-- The record of a row, if every cell under one of its labels converts. -/
def strict? (convert : (field : s.Field) → Cell → Option (s.format field).Value) (row : Row) :
    Option s.Record := if row.Converts convert then some (row.converted convert) else none

end Row

/-- How the value of a field is made of a cell: of a scalar by a strict conversion, or of a row whose
labels are the fields of a record. -/
inductive CellFormat : Format → Type 1 where
  | scalar (type : ScalarType) : CellFormat (.scalar type)
  | row (s : Schema) (distinct : Function.Injective s.label)
      (fields : (field : s.Field) → CellFormat (s.format field)) : CellFormat s.toFormat

/-- The converted value of a cell, if it converts. -/
def CellFormat.convert : {f : Format} → CellFormat f → Cell → Option f.Value
  | _, scalar type => fun cell => cell.leaf?.bind fun value => (type.convert value).toOption
  | _, row _ _ fields => fun cell => cell.tree?.bind fun row =>
    Row.strict? (fun field => (fields field).convert) row

/-- Cells without a real that is not finite are read as they are converted. -/
def Format.Strict (f : Format) (convert : Cell → Option f.Value) : Prop :=
  ∀ cell : Cell, cell.Finite → (f.read (Cell.toDocument cell)).toOption = convert cell

theorem strict_scalar (type : ScalarType) :
    (Format.scalar type).Strict (CellFormat.scalar type).convert := by
  intro cell hcell
  cases cell with
  | leaf value => exact type.read_toDocument (Cell.finite_leaf.mp hcell)
  | group labels child => cases type <;> rfl

namespace Row
variable {s : Schema} {row : Row}

theorem mem_toEntries_iff {label : String} {document : Document} :
    (label, document) ∈ row.toEntries ↔
      ∃ cell, row.get? label = some cell ∧ Cell.toDocument cell = document := by
  rw [toEntries, List.mem_map]
  constructor
  · rintro ⟨⟨key, cell⟩, hmem, heq⟩
    cases heq
    exact ⟨cell, LabelTree.mem_toList_iff.mp hmem, rfl⟩
  · rintro ⟨cell, hcell, rfl⟩
    exact ⟨(label, cell), LabelTree.mem_toList_iff.mpr hcell, rfl⟩

/-- The labels of a row stand in ascending order. -/
theorem toEntries_ascending (row : Row) : row.toEntries.Pairwise fun a b => a.1 < b.1 := by
  have hlabels := row.labels.members_ascending
  rw [List.pairwise_map] at hlabels
  exact List.pairwise_map.mpr (List.pairwise_map.mpr hlabels)

theorem lookup?_toEntries (row : Row) (label : String) :
    Document.lookup? label row.toEntries = (row.get? label).map Cell.toDocument := by
  have hdistinct : (row.toEntries.map Prod.fst).Nodup :=
    List.pairwise_map.mpr (row.toEntries_ascending.imp fun {a b} hlt heq => by
      rw [heq] at hlt
      exact String.lt_irrefl _ hlt)
  ext document
  rw [Document.lookup?_eq_some_iff hdistinct, mem_toEntries_iff, Option.map_eq_some_iff]

theorem finite_of_get? (h : Cell.Finite row.toNode) {label : String} {cell : Cell}
    (hcell : row.get? label = some cell) : cell.Finite := by
  have hlabel : label ∈ row.labels := LabelTree.isSome_get?_iff.mp (by rw [hcell]; rfl)
  rw [LabelTree.get?_eq_some hlabel] at hcell
  cases hcell
  exact Cell.finite_group.mp h label hlabel

end Row

namespace Schema
variable {s : Schema}

theorem fieldOf?_label (distinct : Function.Injective s.label) (field : s.Field) :
    s.fieldOf? (s.label field) = some field := by
  cases hfound : s.fieldOf? (s.label field) with
  | none =>
    have hnot := List.find?_eq_none.mp hfound field (s.complete field)
    simp at hnot
  | some other =>
    have hlabel := List.find?_some hfound
    rw [distinct (beq_iff_eq.mp hlabel)]

theorem label_of_fieldOf? {label : String} {field : s.Field} (h : s.fieldOf? label = some field) :
    s.label field = label := by
  have hlabel := List.find?_some (p := fun field => s.label field == label) h
  exact beq_iff_eq.mp hlabel

/-- Entries are read when those that have a field are. -/
theorem checkEntries_eq_ok_iff {entries : List (String × Document)} :
    s.checkEntries entries = .ok () ↔ ∀ e ∈ entries, ∀ field, s.fieldOf? e.1 = some field →
      (s.readField field e.2).toOption.isSome = true := by
  induction entries with
  | nil => simp [checkEntries]
  | cons e entries ih =>
    obtain ⟨label, value⟩ := e
    rw [checkEntries, List.forall_mem_cons, ← ih]
    cases hfield : s.fieldOf? label with
    | none => simp
    | some field =>
      cases hread : s.readField field value <;> simp [hread, Except.toOption]

/-- Only the entries that have a field are read. -/
theorem checkEntries_filter (s : Schema) (entries : List (String × Document)) :
    s.checkEntries (entries.filter fun e => (s.fieldOf? e.1).isSome) = s.checkEntries entries := by
  induction entries with
  | nil => rfl
  | cons e entries ih =>
    obtain ⟨label, value⟩ := e
    rw [List.filter_cons]
    cases hfield : s.fieldOf? label with
    | none => simp [hfield, checkEntries, ih]
    | some field => simp [hfield, checkEntries, ih]

/-- A cell that converts is the value of its field. -/
theorem readField_toDocument {convert : (field : s.Field) → Cell → Option (s.format field).Value}
    {field : s.Field} (h : (s.format field).Strict (convert field)) {cell : Cell}
    (hcell : cell.Finite) :
    (s.readField field (Cell.toDocument cell)).toOption = (convert field cell).map some := by
  have hmap : s.readField field (Cell.toDocument cell) =
      ((s.format field).read (Cell.toDocument cell)).map some := by
    have hpresent := Cell.toDocument_ne_null hcell
    rw [readField]
    cases hdocument : Cell.toDocument cell with
    | null => exact absurd hdocument hpresent
    | _ => rfl
  rw [← h cell hcell, hmap]
  cases (s.format field).read (Cell.toDocument cell) <;> rfl

/-- A row is read as a record if all the cells of the record convert, and then it has their values. -/
theorem readEntries_toEntries (distinct : Function.Injective s.label)
    {convert : (field : s.Field) → Cell → Option (s.format field).Value}
    (h : ∀ field, (s.format field).Strict (convert field)) {row : Row}
    (hrow : Cell.Finite row.toNode) :
    (s.readEntries row.toEntries).toOption = row.strict? convert := by
  have hread : ∀ field cell, row.get? (s.label field) = some cell →
      (s.readField field (Cell.toDocument cell)).toOption = (convert field cell).map some :=
    fun field cell hcell => readField_toDocument (h field) (Row.finite_of_get? hrow hcell)
  have hcheck : s.checkEntries row.toEntries = .ok () ↔ row.Converts convert := by
    rw [checkEntries_eq_ok_iff]
    constructor
    · intro hall field cell hcell
      have hentry := hall (s.label field, Cell.toDocument cell)
        (Row.mem_toEntries_iff.mpr ⟨cell, hcell, rfl⟩) field (fieldOf?_label distinct field)
      rwa [hread field cell hcell, Option.isSome_map] at hentry
    · rintro hconverts ⟨label, document⟩ he field hfield
      obtain ⟨cell, hcell, rfl⟩ := Row.mem_toEntries_iff.mp he
      obtain rfl := label_of_fieldOf? hfield
      rw [hread field cell hcell, Option.isSome_map]
      exact hconverts field cell hcell
  rw [readEntries, Row.strict?]
  split
  · next hconverts =>
    rw [hcheck.mpr hconverts]
    refine congrArg some (funext fun field => ?_)
    simp only [Row.lookup?_toEntries, Row.converted]
    cases hcell : row.get? (s.label field) with
    | none => rfl
    | some cell =>
      have hvalue := hread field cell hcell
      obtain ⟨value, hconvert⟩ := Option.isSome_iff_exists.mp (hconverts field cell hcell)
      rw [hconvert] at hvalue
      simp only [Option.map_some, Option.bind_some, hconvert]
      cases hfield : s.readField field (Cell.toDocument cell) with
      | error mismatch => simp [hfield, Except.toOption] at hvalue
      | ok found => simpa [hfield, Except.toOption] using hvalue
  · next hfails =>
    cases hchecked : s.checkEntries row.toEntries with
    | ok checked => exact absurd (hcheck.mp hchecked) hfails
    | error mismatch => rfl

end Schema

/-- Every format of cells is strict, at any depth. -/
theorem CellFormat.strict {f : Format} (format : CellFormat f) : f.Strict format.convert := by
  induction format with
  | scalar type => exact strict_scalar type
  | row s distinct fields ih =>
    intro cell hcell
    cases cell with
    | leaf value =>
      cases value with
      | real x =>
        rw [Cell.toDocument_leaf, Scalar.toDocument, Document.ofReal]
        split <;> rfl
      | _ => rfl
    | group labels child =>
      rw [Cell.toDocument_group]
      exact Schema.readEntries_toEntries distinct ih hcell

theorem Schema.label_injective {s : Schema} (h : (s.fields.map s.label).Nodup) :
    Function.Injective s.label := fun a b heq =>
  List.inj_on_of_nodup_map h (s.complete a) (s.complete b) heq

/-- Entries under other labels than those of the fields have no part in what is read. -/
theorem Schema.readEntries_eq_of_known (s : Schema) {row other : Row}
    (h : ∀ field, other.get? (s.label field) = row.get? (s.label field)) :
    s.readEntries other.toEntries = s.readEntries row.toEntries := by
  have hfilter : other.toEntries.filter (fun e => (s.fieldOf? e.1).isSome) =
      row.toEntries.filter fun e => (s.fieldOf? e.1).isSome := by
    have hother := other.toEntries_ascending.filter fun e => (s.fieldOf? e.1).isSome
    have hrow := row.toEntries_ascending.filter fun e => (s.fieldOf? e.1).isSome
    refine SortedMap.entries_eq_of_find? hother hrow fun label => Option.ext fun document => ?_
    have hfind : ∀ entries : List (String × Document), (entries.Pairwise fun a b => a.1 < b.1) →
        (SortedMap.find? label entries = some document ↔ (label, document) ∈ entries) :=
      fun entries hentries => ⟨SortedMap.mem_of_find?, SortedMap.find?_of_mem hentries⟩
    rw [hfind _ hother, hfind _ hrow, List.mem_filter, List.mem_filter, Row.mem_toEntries_iff,
      Row.mem_toEntries_iff]
    cases hfield : s.fieldOf? label with
    | none => simp
    | some field => rw [← label_of_fieldOf? hfield, h field]
  rw [readEntries, readEntries, ← s.checkEntries_filter, hfilter, s.checkEntries_filter]
  simp only [Row.lookup?_toEntries, h]

namespace Row
variable {s : Schema} {row : Row}

theorem unbounded?_eq_none_iff : row.unbounded? = none ↔ Cell.Finite row.toNode :=
  Cell.unbounded?_eq_none_iff

theorem toOption_decode (distinct : Function.Injective s.label)
    (format : (field : s.Field) → CellFormat (s.format field)) (index : UInt64)
    (h : Cell.Finite row.toNode) :
    (decode s index row).toOption = row.strict? fun field => (format field).convert := by
  rw [← Schema.readEntries_toEntries distinct (fun field => (format field).strict) h, decode,
    unbounded?_eq_none_iff.mpr h]
  cases s.readEntries row.toEntries <;> rfl

end Row

/-! ### The records of a device -/

/-- The records that rows are decoded as. -/
inductive RowRecord where
  | sap
  | interface
  | sbcAgent
  | sbcRealm
  | diskStorage
  | fan
  | powerSupply
  deriving DecidableEq, Repr

/-- How the fields of an interface are made of cells: whole numbers, texts and flags by their strict
conversions, and the service access point of a row within the row. -/
def InterfaceField.cellFormat : (field : InterfaceField) → CellFormat field.format
  | descr | type | physAddress | adminStatus | operStatus | specific | name | aliasName =>
    .scalar .text
  | promiscuousMode | connectorPresent => .scalar .flag
  | sap => .row SapField.schema (Schema.label_injective (by decide)) fun _ => .scalar .unsigned
  | index | mtu | speed | lastChange | inOctets | inUcastPkts | inNUcastPkts | inDiscards | inErrors
  | inUnknownProtos | outOctets | outUcastPkts | outNUcastPkts | outDiscards | outErrors | outQLen
  | inMulticastPkts | inBroadcastPkts | outMulticastPkts | outBroadcastPkts | hcInOctets
  | hcInUcastPkts | hcInMulticastPkts | hcInBroadcastPkts | hcOutOctets | hcOutUcastPkts
  | hcOutMulticastPkts | hcOutBroadcastPkts | highSpeed => .scalar .unsigned

namespace RowRecord

@[reducible] def schema : RowRecord → Schema
  | sap => SapField.schema
  | interface => InterfaceField.schema
  | sbcAgent => SbcAgentField.schema
  | sbcRealm => SbcRealmField.schema
  | diskStorage => DiskStorageField.schema
  | fan => FanField.schema
  | powerSupply => PowerSupplyField.schema

theorem label_injective (record : RowRecord) : Function.Injective record.schema.label := by
  apply Schema.label_injective
  cases record <;> decide +kernel

def cellFormat : (record : RowRecord) → (field : record.schema.Field) →
    CellFormat (record.schema.format field)
  | sap => fun _ => .scalar .unsigned
  | interface => InterfaceField.cellFormat
  | sbcAgent => fun field => .scalar field.scalarType
  | sbcRealm => fun field => .scalar field.scalarType
  | diskStorage => fun field => .scalar field.scalarType
  | fan => fun _ => .scalar .text
  | powerSupply => fun _ => .scalar .text

/-- The value of a field by the strict conversion of its cell. -/
def convert (record : RowRecord) (field : record.schema.Field) (cell : Cell) :
    Option (record.schema.format field).Value := (record.cellFormat field).convert cell

theorem toOption_decode (record : RowRecord) (index : UInt64) {row : Row}
    (h : Cell.Finite row.toNode) :
    (Row.decode record.schema index row).toOption = row.strict? record.convert :=
  Row.toOption_decode record.label_injective record.cellFormat index h

theorem decode_eq_ok_iff (record : RowRecord) (index : UInt64) {row : Row}
    (h : Cell.Finite row.toNode) {r : record.schema.Record} :
    Row.decode record.schema index row = .ok r ↔
      row.Converts record.convert ∧ row.converted record.convert = r := by
  rw [← toOption_eq_some_iff, record.toOption_decode index h, Row.strict?,
    Option.ite_none_right_eq_some, Option.some.injEq]

/-- A row whose reals are finite is decoded exactly if every cell under a label of the record converts.
Then a field has the converted value of the cell under its label, and none without a cell, where a
service access point is the record of a row within the row. Labels that the record does not know have no
part in it. A real that is not finite, at any depth, fails to decode. -/
theorem decode_is_strict (record : RowRecord) (index : UInt64) (row : Row) :
    (Cell.Finite row.toNode →
      ((∃ r, Row.decode record.schema index row = .ok r) ↔
        ∀ field cell, row.get? (record.schema.label field) = some cell →
          (record.convert field cell).isSome = true) ∧
      (∀ r, Row.decode record.schema index row = .ok r → ∀ field,
        (∀ cell, row.get? (record.schema.label field) = some cell →
          ∃ value, record.convert field cell = some value ∧ r field = some value) ∧
        (row.get? (record.schema.label field) = none → r field = none)) ∧
      ∀ other : Row, Cell.Finite other.toNode → (∀ field,
          other.get? (record.schema.label field) = row.get? (record.schema.label field)) →
        Row.decode record.schema index other = Row.decode record.schema index row) ∧
    (∀ cell : Cell, cell.Finite → convert .interface .sap cell =
      cell.tree?.bind fun nested => (Row.decode SapField.schema index nested).toOption) ∧
    ∀ path x, row.toNode.descend path = some (.leaf (.real x)) → x.isFinite = false →
      ∃ failure, Row.decode record.schema index row = .error failure ∧ failure.kind = .decode := by
  refine ⟨fun hfinite => ?_, fun cell hcell => ?_, fun path x hx hinfinite => ?_⟩
  · have hok := fun r => record.decode_eq_ok_iff index hfinite (r := r)
    refine ⟨⟨?_, fun hconverts => ?_⟩, fun r hr field => ⟨fun cell hcell => ?_, fun habsent => ?_⟩,
      fun other hother hknown => ?_⟩
    · rintro ⟨r, hr⟩
      exact ((hok r).mp hr).1
    · exact ⟨row.converted record.convert, (hok _).mpr ⟨hconverts, rfl⟩⟩
    · obtain ⟨hconverts, rfl⟩ := (hok r).mp hr
      obtain ⟨value, hvalue⟩ := Option.isSome_iff_exists.mp (hconverts field cell hcell)
      refine ⟨value, hvalue, ?_⟩
      rw [Row.converted, hcell, Option.bind_some, hvalue]
    · obtain ⟨-, rfl⟩ := (hok r).mp hr
      rw [Row.converted, habsent, Option.bind_none]
    · rw [Row.decode, Row.decode, Row.unbounded?_eq_none_iff.mpr hother,
        Row.unbounded?_eq_none_iff.mpr hfinite, record.schema.readEntries_eq_of_known hknown]
  · cases cell with
    | leaf value => rfl
    | group labels child =>
      have hnested : (Row.decode SapField.schema index ⟨labels, child⟩).toOption = _ :=
        RowRecord.sap.toOption_decode index hcell
      exact hnested.symm
  · have hunbounded : row.unbounded? ≠ none := by
      intro hnone
      rw [Row.unbounded?_eq_none_iff.mp hnone path x hx] at hinfinite
      cases hinfinite
    cases hrow : Row.decode record.schema index row with
    | error failure => exact ⟨failure, rfl, Row.decodes_decode record.schema index row failure hrow⟩
    | ok r =>
      rw [Row.decode] at hrow
      split at hrow
      · cases hrow
      · next hnone => exact absurd hnone hunbounded

def countersRow : Row := LabelTree.ofList [("inbound", .leaf (.integer 5))]

/-- An interface with the largest number as its speed, a label of no field, and a row within the row. -/
def wideRow : Row :=
  LabelTree.ofList [("ifIndex", .leaf (.integer 3)), ("ifSpeed", .leaf (.unsigned 0xFFFFFFFFFFFFFFFF)),
    ("color", .leaf (.boolean true)), ("sap", countersRow.toNode)]

/-- The same row with a real without bounds below a label of no field. -/
def boundlessRow : Row :=
  wideRow.insert "color" (LabelTree.toNode (LabelTree.ofList [("hue", .leaf (.real (1 / 0)))]))

theorem wideRow_is_decoded :
    (∃ r, Row.decode InterfaceField.schema 3 wideRow = .ok r ∧
      r .speed = some 0xFFFFFFFFFFFFFFFF ∧ (r .sap).bind (· .inbound) = some 5 ∧ r .mtu = none) ∧
      ∃ failure, Row.decode InterfaceField.schema 3 boundlessRow = .error failure ∧
        failure.kind = .decode := by
  obtain ⟨hdecodes, -⟩ := decode_is_strict .interface 3 wideRow
  obtain ⟨-, -, hfails⟩ := decode_is_strict .interface 3 boundlessRow
  have hfinite : Cell.Finite wideRow.toNode := Row.unbounded?_eq_none_iff.mp (by decide +kernel)
  have hconverts : wideRow.Converts RowRecord.interface.convert := by decide +kernel
  obtain ⟨hok, hfields, -⟩ := hdecodes hfinite
  constructor
  · obtain ⟨r, hr⟩ := hok.mpr hconverts
    obtain ⟨speed, hspeed, hfound⟩ :=
      (hfields r hr .speed).1 (.leaf (.unsigned 0xFFFFFFFFFFFFFFFF)) rfl
    obtain ⟨counters, hcounters, hsap⟩ := (hfields r hr .sap).1 countersRow.toNode rfl
    have hinbound : (convert .interface .sap countersRow.toNode).bind (· .inbound) = some 5 := by rfl
    rw [hcounters] at hinbound
    refine ⟨r, hr, hfound.trans hspeed.symm, ?_, (hfields r hr .mtu).2 rfl⟩
    rw [hsap]
    exact hinbound
  · exact hfails ["color", "hue"] (1 / 0) rfl (by decide +kernel)

end RowRecord
end DevicePoll
