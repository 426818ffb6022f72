import DevicePoll.Class.Overlay
import DevicePoll.Proofs.Document.Checked
import DevicePoll.Proofs.Document.Rearranged

/-! Nodes of class definitions that are written and read again. Everything comes back as it was, except
that a whole number that can be signed is read as a signed one. No group is taken for a leaf: what is
written under its labels is an object, and an identifier is a text. -/
namespace DevicePoll

open Document (Rearranges)

variable {tree : Document → Document}

/-! ### Scalars and operators -/

namespace Scalar

/-- The scalar as it is read again: a whole number is signed if it can be. -/
def signed : Scalar → Scalar
  | unsigned value =>
    if value.toNat ≤ Decimal.maxSigned then integer (Int64.ofInt value.toNat) else unsigned value
  | other => other

theorem ofDocument_toDocument {value : Scalar} (h : value.isUnbounded = false) :
    ofDocument value.toDocument = .ok value.signed := by
  cases value with
  | boolean value => rfl
  | text value => rfl
  | integer value =>
    have hlow : Decimal.minSigned ≤ value.toInt := Int64.le_toInt value
    have hhigh : value.toInt ≤ (Decimal.maxSigned : Int) := Int64.toInt_le value
    simp [toDocument, ofDocument, signed, hlow, hhigh]
  | unsigned value =>
    have hword := value.toNat_lt
    have hlow : Decimal.minSigned ≤ (value.toNat : Int) := by
      unfold Decimal.minSigned
      omega
    have hhigh : (value.toNat : Int) ≤ (Decimal.maxUnsigned : Int) := by
      unfold Decimal.maxUnsigned
      omega
    by_cases hsigned : value.toNat ≤ Decimal.maxSigned
    · simp [toDocument, ofDocument, signed, hlow, hsigned]
    · simp [toDocument, ofDocument, signed, hhigh, hsigned]
  | real value =>
    have hfinite : value.isFinite = true := by simpa [isUnbounded] using h
    simp [toDocument, ofDocument, signed, Document.ofReal, hfinite]

theorem tree_toDocument (htree : Rearranges tree) (value : Scalar) :
    tree value.toDocument = value.toDocument := by
  cases value with
  | boolean value => exact htree.boolean value
  | integer value => exact htree.integer _
  | unsigned value => exact htree.integer _
  | text value => exact htree.text value
  | real value =>
    rw [toDocument, Document.ofReal]
    split
    · exact htree.real value
    · exact htree.null

end Scalar

namespace Operator

/-- The operator as it is read again. -/
def signed : Operator → Operator
  | map table fallback => map (table.map Scalar.signed) (fallback.map Scalar.signed)
  | other => other

/-- All reals of the operator are finite. -/
def IsFinite : Operator → Prop
  | scale factor => factor.isFinite = true
  | map table fallback => (∀ e ∈ table.entries, e.2.isUnbounded = false) ∧
      ∀ value ∈ fallback, value.isUnbounded = false
  | _ => True

theorem readTable_write (htree : Rearranges tree) {table : SortedMap String Scalar}
    (h : ∀ e ∈ table.entries, e.2.isUnbounded = false) :
    readTable (tree (.object (table.entries.map fun e => (e.1, e.2.toDocument)))) =
      .ok (table.map Scalar.signed) := by
  have hlabels : (table.entries.map fun e => (e.1, e.2.toDocument)).map Prod.fst = table.keys := by
    rw [List.map_map]
    rfl
  obtain ⟨moved, heq, hmoved⟩ := htree.object (hlabels ▸ table.nodup_keys)
  have hentry : ∀ e ∈ moved, ∃ value, Scalar.ofDocument e.2 = .ok value ∧
      (table.map Scalar.signed).get? e.1 = some value := by
    intro e he
    rw [hmoved.mem_iff, List.map_map] at he
    obtain ⟨entry, hentry, rfl⟩ := List.mem_map.mp he
    refine ⟨entry.2.signed, ?_, ?_⟩
    · show Scalar.ofDocument (tree entry.2.toDocument) = _
      rw [Scalar.tree_toDocument htree, Scalar.ofDocument_toDocument (h entry hentry)]
    · show (table.map Scalar.signed).get? entry.1 = _
      rw [SortedMap.get?_map, SortedMap.mem_entries_iff.mp hentry]
      rfl
  obtain ⟨results, hresults, hkeys, hall⟩ := mapM_entries_of_agree hentry
  rw [readTable, heq]
  simp only [Document.asObject, hresults]
  refine congrArg Except.ok (SortedMap.ofList_eq_of_agree hall fun key hkey => ?_)
  rw [hkeys, (hmoved.map Prod.fst).mem_iff, List.map_map]
  rw [SortedMap.keys, SortedMap.map, List.map_map] at hkey
  rwa [List.map_map]

theorem readFallback_write (htree : Rearranges tree) {fallback : Option Scalar}
    (h : ∀ value ∈ fallback, value.isUnbounded = false) :
    readFallback (tree (.ofOption Scalar.toDocument fallback)) =
      .ok (fallback.map Scalar.signed) := by
  cases fallback with
  | none =>
    rw [Document.ofOption, htree.null]
    rfl
  | some value =>
    have hfinite := h value rfl
    have hvalue : readFallback value.toDocument = (Scalar.ofDocument value.toDocument).map some := by
      cases value with
      | real value =>
        have : value.isFinite = true := by simpa [Scalar.isUnbounded] using hfinite
        simp [Scalar.toDocument, Document.ofReal, this, readFallback, Document.asOptional]
      | _ => rfl
    rw [Document.ofOption, Scalar.tree_toDocument htree, hvalue,
      Scalar.ofDocument_toDocument hfinite]
    rfl

/-- The arguments of an operator, whatever their order. -/
theorem read_object (htree : Rearranges tree) (entries : List (String × Document)) {name : String}
    (distinct : (entries.map Prod.fst).Nodup)
    (hname : Document.lookup? "type" entries = some (.text name)) (numbered : Bool) :
    ∃ moved, read numbered (tree (.object entries)) = readNamed name (.labelled moved) ∧
      ∀ label, argument? label moved = .ok ((Document.lookup? label entries).map tree) := by
  obtain ⟨moved, heq, -, hrepeated, hlookup⟩ := htree.lookups distinct
  have hargument : ∀ label,
      argument? label moved = .ok ((Document.lookup? label entries).map tree) := by
    intro label
    rw [argument?, hrepeated, hlookup]
  refine ⟨moved, ?_, hargument⟩
  rw [heq, read, hargument, hname, Option.map_some, htree.text]
  rfl

theorem read_write (htree : Rearranges tree) {op : Operator} (h : op.IsFinite) (numbered : Bool) :
    read numbered (tree op.write) = .ok op.signed := by
  cases op with
  | trim =>
    obtain ⟨moved, hread, -⟩ := read_object htree [("type", .text "trim")] (by simp) rfl numbered
    exact hread
  | parseNumber =>
    obtain ⟨moved, hread, -⟩ := read_object htree [("type", .text "parse_number")] (by simp) rfl
      numbered
    exact hread
  | scale factor =>
    have hfinite : factor.isFinite = true := h
    have hfactor : Document.ofReal factor = .real factor := by simp [Document.ofReal, hfinite]
    obtain ⟨moved, hread, hargument⟩ := read_object htree
      [("type", .text "scale"), ("factor", .ofReal factor)] (by simp) rfl numbered
    have hlookup : argument? "factor" moved = .ok (some (tree (.ofReal factor))) :=
      hargument "factor"
    calc read numbered (tree (scale factor).write) = readScaleEntries moved := hread
      _ = .ok (scale factor) := by
        rw [readScaleEntries, hlookup, hfactor, htree.real]
        rfl
  | map table fallback =>
    obtain ⟨htable, hfallback⟩ := h
    obtain ⟨moved, hread, hargument⟩ := read_object htree [("type", .text "map"),
      ("values", .object (table.entries.map fun e => (e.1, e.2.toDocument))),
      ("default", .ofOption Scalar.toDocument fallback)] (by simp) rfl numbered
    have hvalues : argument? "values" moved = .ok (some
        (tree (.object (table.entries.map fun e => (e.1, e.2.toDocument))))) := hargument "values"
    have hdefault : argument? "default" moved = .ok (some
        (tree (.ofOption Scalar.toDocument fallback))) := hargument "default"
    calc read numbered (tree (map table fallback).write) = readMapEntries moved := hread
      _ = .ok (map table fallback).signed := by
        rw [readMapEntries, hvalues, hdefault]
        simp only [bind, Except.bind, Option.getD_some, readFallback_write htree hfallback,
          readTable_write htree htable, signed, pure, Except.pure]

theorem readAll_write (htree : Rearranges tree) {ops : List Operator} (h : ∀ op ∈ ops, op.IsFinite)
    (numbered : Bool) :
    readAll numbered (tree (.list (ops.map write))) = .ok (ops.map signed) := by
  rw [htree.list, List.map_map]
  simp only [readAll, Document.asListOf, Document.asList, bind, Except.bind, List.mapM_map]
  exact mapM_eq_ok fun op hop => read_write htree (h op hop) numbered

end Operator

/-! ### Nodes -/

namespace LeafSpec

/-- The leaf as it is read again. -/
def signed (spec : LeafSpec) : LeafSpec := ⟨spec.oid, spec.operators.map Operator.signed⟩

/-- All reals of the leaf are finite. -/
def IsFinite (spec : LeafSpec) : Prop := ∀ op ∈ spec.operators, op.IsFinite

end LeafSpec

namespace NodeSpec

/-- The node as it is read again. -/
def signed : NodeSpec → NodeSpec
  | .leaf spec => .leaf spec.signed
  | .group labels child => .group labels fun label h => signed (child label h)

/-- All reals of the node are finite. -/
def IsFinite : NodeSpec → Prop
  | .leaf spec => spec.IsFinite
  | .group _ child => ∀ label h, IsFinite (child label h)

/-- The entries of a leaf, whatever their order. -/
theorem readLeaf?_object (htree : Rearranges tree) (entries : List (String × Document)) {oid : String}
    (distinct : (entries.map Prod.fst).Nodup) (hlabels : ∀ e ∈ entries, e.1 ∈ leafLabels)
    (hoid : Document.lookup? "oid" entries = some (.text oid)) :
    readLeaf? (tree (.object entries)) =
      match (Document.lookup? "operators" entries).map tree with
      | none => some ⟨oid, []⟩
      | some operators => (Operator.readAll true operators).toOption.map (LeafSpec.mk oid) := by
  obtain ⟨moved, heq, hmoved, hrepeated, hlookup⟩ := htree.lookups distinct
  have hall : moved.all (leafLabels.contains ·.1) = true := by
    refine List.all_eq_true.mpr fun e he => ?_
    obtain ⟨entry, hentry, rfl⟩ := List.mem_map.mp (hmoved.mem_iff.mp he)
    exact List.contains_iff_mem.mpr (hlabels entry hentry)
  rw [heq, readLeaf?, readLeafEntries?, hall, hrepeated, hlookup, hoid, Option.map_some, htree.text,
    hlookup]
  simp only [Option.isNone_none, Bool.and_self, if_true]
  cases (Document.lookup? "operators" entries).map tree with
  | none => rfl
  | some operators =>
    cases hread : Operator.readAll true operators <;> simp [Document.asText, Except.toOption, hread]

theorem readLeaf?_write (htree : Rearranges tree) {spec : LeafSpec} (h : spec.IsFinite) :
    readLeaf? (tree (writeLeaf spec)) = some spec.signed := by
  obtain ⟨oid, ops⟩ := spec
  cases ops with
  | nil => exact readLeaf?_object htree [("oid", .text oid)] (by simp) (by simp [leafLabels]) rfl
  | cons op ops =>
    have hops : Operator.readAll true (tree (.list ((op :: ops).map Operator.write))) =
        .ok ((op :: ops).map Operator.signed) := Operator.readAll_write htree h true
    have hread := readLeaf?_object htree
      [("oid", .text oid), ("operators", .list ((op :: ops).map Operator.write))] (by simp)
      (by simp [leafLabels]) rfl
    calc readLeaf? (tree (writeLeaf ⟨oid, op :: ops⟩))
        = (Operator.readAll true (tree (.list ((op :: ops).map Operator.write)))).toOption.map
            (LeafSpec.mk oid) := hread
      _ = some ⟨oid, (op :: ops).map Operator.signed⟩ := by
        rw [hops]
        rfl

/-- What is no leaf: no text stands under a label. -/
theorem readLeafEntries?_eq_none {entries : List (String × Document)}
    (h : ∀ e ∈ entries, ∃ inner, e.2 = .object inner) : readLeafEntries? entries = none := by
  rw [readLeafEntries?]
  split
  · cases hoid : Document.lookup? "oid" entries with
    | none => rfl
    | some value =>
      obtain ⟨inner, rfl⟩ := h _ (Document.mem_of_lookup? hoid)
      rfl
  · rfl

theorem readEntries?_of_agree {table : String → Option NodeSpec} {entries : List (String × Document)}
    (h : ∀ e ∈ entries, ∃ node, read? e.2 = some node ∧ table e.1 = some node) :
    ∃ nodes, readEntries? entries = some nodes ∧ nodes.map Prod.fst = entries.map Prod.fst ∧
      ∀ e ∈ nodes, table e.1 = some e.2 := by
  induction entries with
  | nil => exact ⟨[], by rw [readEntries?], rfl, by simp⟩
  | cons e entries ih =>
    obtain ⟨⟨node, hnode, hagree⟩, htail⟩ := List.forall_mem_cons.mp h
    obtain ⟨nodes, hnodes, hlabels, hall⟩ := ih htail
    refine ⟨(e.1, node) :: nodes, ?_, ?_, List.forall_mem_cons.mpr ⟨hagree, hall⟩⟩
    · rw [readEntries?, hnode, hnodes]
    · rw [List.map_cons, List.map_cons, hlabels]

/-- The tree as it is read again. -/
def signedTree (t : LabelTree LeafSpec) : LabelTree LeafSpec :=
  ⟨t.labels, fun label h => signed (t.child label h)⟩

theorem get?_signedTree {t : LabelTree LeafSpec} {label : String} (h : label ∈ t.labels) :
    (signedTree t).get? label = some (signed (t.child label h)) :=
  LabelTree.get?_eq_some (show label ∈ (signedTree t).labels from h)

/-- What is written for the nodes of a group. -/
def writeEntries (t : LabelTree LeafSpec) : List (String × Document) :=
  t.labels.members.map fun label => (label.1, write (t.child label.1 label.2))

theorem labels_writeEntries (t : LabelTree LeafSpec) :
    (writeEntries t).map Prod.fst = t.labels.keys := by
  rw [writeEntries, List.map_map, LabelSet.members, List.map_map]
  exact List.attach_map_subtype_val _

/-- Rearranged entries of a group, each of which is read as its node. -/
theorem rearranged_entries {t : LabelTree LeafSpec}
    (hread : ∀ label h, read? (tree (write (t.child label h))) = some (signed (t.child label h)))
    {moved : List (String × Document)}
    (hmoved : moved.Perm ((writeEntries t).map fun e => (e.1, tree e.2))) :
    (∀ e ∈ moved, ∃ node, read? e.2 = some node ∧ (signedTree t).get? e.1 = some node) ∧
      ∀ label ∈ (signedTree t).labels, label ∈ moved.map Prod.fst := by
  constructor
  · intro e he
    rw [hmoved.mem_iff, writeEntries, List.map_map] at he
    obtain ⟨label, -, rfl⟩ := List.mem_map.mp he
    exact ⟨_, hread label.1 label.2, get?_signedTree label.2⟩
  · intro label hlabel
    rw [(hmoved.map Prod.fst).mem_iff, List.map_map]
    have hkey : label ∈ (writeEntries t).map Prod.fst := by
      rw [labels_writeEntries]
      exact LabelSet.mem_keys.mpr hlabel
    exact hkey

theorem nodup_writeEntries (t : LabelTree LeafSpec) : ((writeEntries t).map Prod.fst).Nodup := by
  rw [labels_writeEntries]
  exact SortedMap.nodup_keys t.labels

theorem tree_write_object (htree : Rearranges tree) (spec : NodeSpec) :
    ∃ inner, tree (write spec) = .object inner := by
  cases spec with
  | leaf spec =>
    have hdistinct : ((("oid", Document.text spec.oid) :: if spec.operators.isEmpty then []
        else [("operators", .list (spec.operators.map Operator.write))]).map Prod.fst).Nodup := by
      split <;> simp
    obtain ⟨moved, heq, -⟩ := htree.object hdistinct
    exact ⟨moved, heq⟩
  | group labels child =>
    obtain ⟨moved, heq, -⟩ := htree.object (nodup_writeEntries ⟨labels, child⟩)
    exact ⟨moved, heq⟩

/-- A node is read as the leaf or as the group that it was. -/
theorem read?_write (htree : Rearranges tree) {spec : NodeSpec} (h : IsFinite spec) :
    read? (tree (write spec)) = some (signed spec) := by
  induction spec with
  | leaf spec =>
    obtain ⟨inner, hinner⟩ := tree_write_object htree (.leaf spec)
    have hleaf : readLeaf? (.object inner) = some spec.signed := by
      rw [← hinner]
      exact readLeaf?_write htree h
    rw [hinner, read?, hleaf]
    rfl
  | group labels child ih =>
    have hread : ∀ label mem, read? (tree (write (child label mem))) =
        some (signed (child label mem)) := fun label mem => ih label mem (h label mem)
    obtain ⟨moved, heq, hmoved⟩ := htree.object (nodup_writeEntries ⟨labels, child⟩)
    have hgroup : readLeaf? (.object moved) = none := by
      refine readLeafEntries?_eq_none fun e he => ?_
      rw [hmoved.mem_iff, writeEntries, List.map_map] at he
      obtain ⟨label, -, rfl⟩ := List.mem_map.mp he
      exact tree_write_object htree (child label.1 label.2)
    obtain ⟨hagree, hlabels⟩ := rearranged_entries hread hmoved
    obtain ⟨nodes, hnodes, hkeys, hall⟩ := readEntries?_of_agree hagree
    have hnode : LabelTree.ofList nodes = signedTree ⟨labels, child⟩ := by
      refine LabelTree.ofList_eq_of_agree hall fun label hlabel => ?_
      rw [hkeys]
      exact hlabels label hlabel
    calc read? (tree (write (.group labels child))) = read? (.object moved) := congrArg read? heq
      _ = some (LabelTree.ofList nodes).toNode := by rw [read?, hgroup, hnodes, Option.map_some]
      _ = some (signed (.group labels child)) := by
        rw [hnode]
        rfl

end NodeSpec

end DevicePoll
