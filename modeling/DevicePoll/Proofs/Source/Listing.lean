import DevicePoll.Device
import DevicePoll.Proofs.Class.Ascent
import DevicePoll.Proofs.Query.Hurried
import DevicePoll.Proofs.Query.Strict
import DevicePoll.Proofs.Reading.Similar
import DevicePoll.Proofs.Source.Declared
import DevicePoll.Proofs.Source.Scan

/-! Listings of interfaces as a class gives them. A class that has a group of interfaces reads the group
of its merged tree and makes one interface of every row: no row is lost or doubled, and an interface is
found under the index of its own row. -/
namespace DevicePoll

open Reading

/-- What is made of the outcome of a program is made of it in every run. -/
theorem Poll.runWithin_mapOutcome {α β : Type} (p : Poll α) (f : Outcome α → Outcome β)
    (client : Client) (limits : Limits) (rounds : Nat) (meter : Meter) :
    (runWithin client limits rounds (p.mapOutcome f).run meter).1 =
      f (runWithin client limits rounds p.run meter).1 := by
  have hsimilar : (p.mapOutcome f).run.Similar .exact (fun result outcome => result = f outcome) p.run :=
    (Reading.Similar.refl p.run).map fun outcome _ heq => congrArg f heq
  exact (hsimilar.runWithin (.exact client) limits rounds meter).1

namespace LabelNode
variable {α : Type}

/-- A group over anything has its own labels and those of a group below it. -/
theorem onto_group_labels (labels : LabelSet) (child : (label : String) → label ∈ labels → LabelNode α)
    (base : Option (LabelNode α)) : ∃ merged : LabelTree α,
      (group labels child).onto base = merged.toNode ∧ ∀ label, label ∈ merged.labels ↔
        label ∈ labels ∨ ∃ others child', base = some (group others child') ∧ label ∈ others := by
  match base with
  | none => exact ⟨⟨labels, child⟩, rfl, by simp⟩
  | some (leaf value) => exact ⟨⟨labels, child⟩, rfl, by simp⟩
  | some (group others child') =>
    refine ⟨LabelTree.merge ⟨others, child'⟩ ⟨labels, child⟩, rfl, fun label => ?_⟩
    rw [LabelTree.merge, LabelSet.mem_union, or_comm]
    refine or_congr Iff.rfl ⟨fun h => ⟨others, child', rfl, h⟩, ?_⟩
    rintro ⟨others, child', heq, h⟩
    cases heq
    exact h

end LabelNode

/-- A group that a class has in its own definition is merged with the one that its parent has. -/
theorem DeviceClass.Constructed.group_of_own {c : DeviceClass} (h : c.Constructed) {path : String}
    {labels : LabelSet} {child : (label : String) → label ∈ labels → QueryNode}
    (hown : c.head.own.lookup path = some (.group labels child)) : ∃ group : QueryTree,
      c.tree.lookup path = some group.toNode ∧ ∀ label, label ∈ group.labels ↔ label ∈ labels ∨
        ∃ parent ∈ c.ancestors.head?, ∃ others child',
          parent.tree.lookup path = some (.group others child') ∧ label ∈ others := by
  cases h with
  | root name own flags => exact ⟨⟨labels, child⟩, hown, fun label => by simp [DeviceClass.root]⟩
  | @derive parent name own flags _ =>
    obtain ⟨group, hgroup, hlabels⟩ :=
      LabelNode.onto_group_labels labels child (parent.tree.lookup path)
    refine ⟨group, (LabelTree.lookup_merge_of_some hown).trans (congrArg some hgroup), ?_⟩
    intro label
    rw [hlabels]
    simp [DeviceClass.derive, DeviceClass.tiers, DeviceClass.tree]

/-! ### Rows of a group -/

namespace QueryTree

/-- A leaf at or below the label has read something for the row. -/
def Sees (group : QueryTree) (client : Client) (label : String) (index : UInt64) : Prop :=
  ∃ path leaf values, group.toNode.descend (label :: path) = some (.leaf leaf) ∧
    leaf.read.outcome client.answer = .ok values ∧ index ∈ values.keys

/-- The rows have what the labels of the group have seen, each label in the rows that it has seen. -/
structure Gathers (group : QueryTree) (client : Client) (rows : Rows) : Prop where
  ascending : rows.keys.Pairwise (· < ·)
  keys : ∀ index, index ∈ rows.keys ↔ ∃ label, group.Sees client label index
  labels : ∀ index row, rows.get? index = some row → ∀ label,
    (row.get? label).isSome = true ↔ group.Sees client label index
  cells : ∀ index path value,
    (rows.get? index).bind (fun row => row.toNode.descend path) = some (.leaf value) ↔
      ∃ leaf values, group.toNode.descend path = some (.leaf leaf) ∧
        leaf.read.outcome client.answer = .ok values ∧ values.get? index = some value

variable {group : QueryTree} {client : Client} {rows : Rows}

theorem sees_iff {label : String} {index : UInt64} : group.Sees client label index ↔ ∃ path value,
    QueryNode.Finds (fun leaf => leaf.read.outcome client.answer) group.toNode (label :: path) index
      value := by
  constructor
  · rintro ⟨path, leaf, values, hleaf, hread, hkey⟩
    obtain ⟨value, hvalue⟩ := Option.isSome_iff_exists.mp (SortedMap.mem_keys_iff.mp hkey)
    exact ⟨path, value, leaf, values, hleaf, hread, hvalue⟩
  · rintro ⟨path, value, leaf, values, hleaf, hread, hvalue⟩
    exact ⟨path, leaf, values, hleaf, hread, SortedMap.mem_keys_iff.mpr (by rw [hvalue]; rfl)⟩

theorem gathers_of_ok (h : group.readAll.outcome client.answer = .ok rows) :
    group.Gathers client rows where
  ascending := List.pairwise_map.mpr rows.ascending
  keys index := by
    rw [mem_keys_iff h]
    constructor
    · rintro ⟨path, leaf, values, hleaf, hread, hkey⟩
      cases path with
      | nil => simp [LabelTree.toNode] at hleaf
      | cons label path => exact ⟨label, path, leaf, values, hleaf, hread, hkey⟩
    · rintro ⟨label, path, leaf, values, hleaf, hread, hkey⟩
      exact ⟨label :: path, leaf, values, hleaf, hread, hkey⟩
  labels index row hrow label := by
    have hbelow : ∀ path, row.toNode.descend (label :: path) =
        (row.get? label).bind (LabelNode.descend path) :=
      fun path => LabelNode.descend_cons label path row.toNode
    have hcell : ∀ path value, (row.get? label).bind (LabelNode.descend path) = some (.leaf value) ↔
        QueryNode.Finds (fun leaf => leaf.read.outcome client.answer) group.toNode (label :: path)
          index value := by
      intro path value
      rw [← cell_iff h, hrow, Option.bind_some, hbelow]
    rw [sees_iff]
    constructor
    · intro hsome
      obtain ⟨cell, hget⟩ := Option.isSome_iff_exists.mp hsome
      -- no row within a row is empty, so that the cell leads to a value
      obtain ⟨path, value, hleaf⟩ :=
        (Rows.Filled.cell (filled_rows h index row hrow) hget).exists_leaf
      exact ⟨path, value, (hcell path value).mp (by rw [hget]; exact hleaf)⟩
    · rintro ⟨path, value, hfinds⟩
      obtain ⟨cell, hget, -⟩ := Option.bind_eq_some_iff.mp ((hcell path value).mpr hfinds)
      rw [hget]
      rfl
  cells index path value := cell_iff h

end QueryTree

/-! ### Interfaces of rows -/

/-- The interface of a row: a field is set if the row has its label, to the converted cell, and the index
is that of the row where the row has none of its own. -/
structure Interface.OfRow (index : UInt64) (row : Row) (i : Interface) : Prop where
  set : ∀ field cell, row.get? (InterfaceField.label field) = some cell →
    ∃ value, RowRecord.interface.convert field cell = some value ∧ i field = some value
  unset : ∀ field, field ≠ .index → row.get? (InterfaceField.label field) = none → i field = none
  ownIndex : row.get? (InterfaceField.label .index) = none → i .index = some index

theorem Row.finite_of_decode {s : Schema} {index : UInt64} {row : Row} {record : s.Record}
    (h : Row.decode s index row = .ok record) : Cell.Finite row.toNode := by
  rw [decode] at h
  split at h
  · cases h
  · next hnone => exact unbounded?_eq_none_iff.mp hnone

namespace Tier
variable {index : UInt64} {row : Row} {rows : Rows}

theorem interfaceOfRow_eq_ok_iff : (∃ i, interfaceOfRow index row = .ok i) ↔
    ∃ record, Row.decode InterfaceField.schema index row = .ok record := by
  rw [interfaceOfRow]
  cases Row.decode InterfaceField.schema index row <;> simp [Except.map]

theorem ofRow_of_ok {i : Interface} (h : interfaceOfRow index row = .ok i) :
    Interface.OfRow index row i := by
  obtain ⟨record, hrecord, rfl⟩ := map_eq_ok h
  obtain ⟨hconverts, rfl⟩ :=
    (RowRecord.interface.decode_eq_ok_iff index (Row.finite_of_decode hrecord)).mp hrecord
  have hset : ∀ field cell, row.get? (InterfaceField.label field) = some cell →
      ∃ value, RowRecord.interface.convert field cell = some value ∧
        row.converted RowRecord.interface.convert field = some value := by
    intro field cell hcell
    obtain ⟨value, hvalue⟩ := Option.isSome_iff_exists.mp (hconverts field cell hcell)
    exact ⟨value, hvalue, by rw [Row.converted, hcell, Option.bind_some, hvalue]⟩
  have hunset : ∀ field, row.get? (InterfaceField.label field) = none →
      row.converted RowRecord.interface.convert field = none := by
    intro field hnone
    rw [Row.converted, hnone, Option.bind_none]
  cases hcell : row.get? (InterfaceField.label .index) with
  | some cell =>
    obtain ⟨value, -, hvalue⟩ := hset .index cell hcell
    simp only [hvalue]
    refine ⟨hset, fun field _ => hunset field, fun hnone => ?_⟩
    rw [hcell] at hnone
    cases hnone
  | none =>
    simp only [hunset .index hcell]
    refine ⟨fun field other hother => ?_, fun field hne hnone => ?_, fun _ => Schema.set_same ..⟩
    · have hne : field ≠ .index := by
        rintro rfl
        rw [hcell] at hother
        cases hother
      rw [Schema.set_other _ _ hne]
      exact hset field other hother
    · rw [Schema.set_other _ _ hne]
      exact hunset field hnone

end Tier

namespace Rows
variable {path : String} {rows : Rows}

/-- What a class makes of the rows of its group of interfaces. -/
def listing (path : String) (rows : Rows) : Outcome (List Interface) :=
  if rows.isEmpty then Outcome.fails (.noRows path)
  else rows.entries.mapM fun e => Tier.interfaceOfRow e.1 e.2

theorem isEmpty_iff : rows.isEmpty = true ↔ rows.keys = [] := by
  rw [SortedMap.isEmpty, SortedMap.keys, List.isEmpty_iff, List.map_eq_nil_iff]

theorem kind_of_listing_empty (h : rows.keys = []) :
    ∃ failure, rows.listing path = .error failure ∧ failure.kind = .notFound := by
  rw [listing, if_pos (isEmpty_iff.mpr h)]
  exact ⟨_, rfl, rfl⟩

theorem listing_of_ne_nil (h : rows.keys ≠ []) :
    rows.listing path = rows.entries.mapM fun e => Tier.interfaceOfRow e.1 e.2 :=
  if_neg (isEmpty_iff.not.mpr h)

/-- Rows make a listing if there are any and all of them can be decoded. -/
theorem exists_listing_iff : (∃ interfaces, rows.listing path = .ok interfaces) ↔
    rows.keys ≠ [] ∧ ∀ index row, rows.get? index = some row →
      ∃ record, Row.decode InterfaceField.schema index row = .ok record := by
  by_cases hempty : rows.keys = []
  · obtain ⟨failure, hfailure, -⟩ : ∃ failure, rows.listing path = .error failure ∧
      failure.kind = .notFound := kind_of_listing_empty hempty
    simp [hfailure, hempty]
  · rw [listing_of_ne_nil hempty, exists_mapM_eq_ok_iff]
    refine (and_iff_right hempty).symm.trans (and_congr_right fun _ => ?_)
    simp only [Prod.forall, SortedMap.mem_entries_iff, Tier.interfaceOfRow_eq_ok_iff]

/-- A row that cannot be decoded fails the whole listing. -/
theorem kind_of_undecoded {index : UInt64} {row : Row} {failure : Failure}
    (hrow : rows.get? index = some row)
    (h : Row.decode InterfaceField.schema index row = .error failure) :
    ∃ failure, rows.listing path = .error failure ∧ failure.kind = .decode := by
  have hmem : (index, row) ∈ rows.entries := SortedMap.mem_entries_iff.mpr hrow
  have hkeys : rows.keys ≠ [] := List.ne_nil_of_mem (List.mem_map_of_mem hmem)
  cases hlisting : rows.listing path with
  | ok interfaces =>
    obtain ⟨record, hrecord⟩ := (exists_listing_iff.mp ⟨interfaces, hlisting⟩).2 index row hrow
    exact nomatch h.symm.trans hrecord
  | error failure =>
    rw [listing_of_ne_nil hkeys] at hlisting
    exact ⟨failure, rfl, Outcome.FailsOnly.mapM (fun e _ => Tier.decodes_interfaceOfRow e.1 e.2)
      failure hlisting⟩

theorem forall₂_of_listing {interfaces : List Interface} (h : rows.listing path = .ok interfaces) :
    List.Forall₂ (fun e i => Interface.OfRow e.1 e.2 i) rows.entries interfaces := by
  have hkeys := (exists_listing_iff.mp ⟨interfaces, h⟩).1
  rw [listing_of_ne_nil hkeys] at h
  exact (mapM_eq_ok_iff.mp h).imp fun e i hi => Tier.ofRow_of_ok hi

end Rows

namespace Tier
variable {tier : Tier} {path : String} {group : QueryTree}

/-- A class with a group makes its listing of what the group is read as, in every context. -/
theorem interfaces_of_group (h : tier.groupAt path = .ok group) :
    tier.interfaces path = group.readAll.mapOutcome (· >>= Rows.listing path) := by
  have hgroup : tier.rows path = group.readAll >>= fun rows =>
      if rows.isEmpty then Poll.fails (.noRows path) else pure rows := by
    rw [Tier.rows, h]
    rfl
  rw [← Poll.bind_ofOutcome, interfaces, hgroup, bind_assoc]
  congr 1
  funext rows
  rw [Rows.listing]
  split
  · rfl
  · exact pure_bind _ _

theorem groupAt_of_lookup (hdeclares : tier.declares path = true)
    (h : tier.tree.lookup path = some group.toNode) : tier.groupAt path = .ok group := by
  rw [groupAt, node?_of_declares hdeclares, h]
  rfl

end Tier

namespace DeviceClass

/-- A class with a group of interfaces lists one interface for every row that a label of the merged group
has seen, its own labels or those of its ancestors, by strictly ascending index of the rows. An interface
has the values of its row and no others, and the index of the row if the row tells none. In every run
the listing is made of the rows that the group comes to in that run: without a row nothing is found, one
row that cannot be decoded fails the whole listing, and a failure of the group is that of the
listing. Both come to their ends once there are rounds enough. -/
theorem listing_has_one_interface_per_row {c : DeviceClass} (hc : c.Constructed) {labels : LabelSet}
    {child : (label : String) → label ∈ labels → QueryNode}
    (hown : c.head.own.lookup "interfaces" = some (.group labels child)) :
    ∃ group : QueryTree, c.tree.lookup "interfaces" = some group.toNode ∧
      (∀ label, label ∈ group.labels ↔ label ∈ labels ∨ ∃ parent ∈ c.ancestors.head?, ∃ others child',
        parent.tree.lookup "interfaces" = some (.group others child') ∧ label ∈ others) ∧
      ∀ (client : Client) (limits : Limits) (rounds : Nat) (meter : Meter),
        let found := (runWithin client limits rounds group.readAll.run meter).1
        let listing := (runWithin client limits rounds (c.head.property .interfaces).run meter).1
        (∃ enough, ∀ more, enough ≤ more → HasEnded client limits group.readAll.run meter more ∧
          HasEnded client limits (c.head.property .interfaces).run meter more) ∧
        (∀ interfaces, listing = .ok interfaces → ∃ rows, found = .ok rows ∧
          List.Forall₂ (fun e i => Interface.OfRow e.1 e.2 i) rows.entries interfaces) ∧
        (∀ rows, found = .ok rows → group.Gathers client rows ∧
          (rows.keys = [] → ∃ failure, listing = .error failure ∧ failure.kind = .notFound) ∧
          (∀ index row undecoded, rows.get? index = some row →
            Row.decode InterfaceField.schema index row = .error undecoded →
            ∃ failure, listing = .error failure ∧ failure.kind = .decode) ∧
          (rows.keys ≠ [] → (∀ index row, rows.get? index = some row →
              ∃ record, Row.decode InterfaceField.schema index row = .ok record) →
            ∃ interfaces, listing = .ok interfaces)) ∧
        ∀ failure, found = .error failure → listing = .error failure := by
  obtain ⟨group, hgroup, hlabels⟩ := hc.group_of_own hown
  refine ⟨group, hgroup, hlabels, fun client limits rounds meter => ?_⟩
  intro found listing
  have hlisting : listing = found >>= Rows.listing "interfaces" := by
    have hdeclares : c.head.declares "interfaces" = true := Tier.declares_of_own hown
    have hprogram : c.head.property .interfaces =
        group.readAll.mapOutcome (· >>= Rows.listing "interfaces") :=
      Tier.interfaces_of_group (Tier.groupAt_of_lookup hdeclares hgroup)
    simp only [listing, hprogram]
    exact Poll.runWithin_mapOutcome _ _ client limits rounds meter
  refine ⟨exists_both_ended client limits _ _ meter, fun interfaces h => ?listed,
    fun rows hrows => ?found, fun failure hfailure => ?failed⟩
  case listed =>
    obtain ⟨rows, hrows, hinterfaces⟩ := bind_eq_ok (hlisting.symm.trans h)
    exact ⟨rows, hrows, Rows.forall₂_of_listing hinterfaces⟩
  case found =>
    rw [hrows] at hlisting
    have hmade : listing = rows.listing "interfaces" := hlisting
    rw [hmade]
    refine ⟨QueryTree.gathers_of_ok (QueryTree.outcome_of_run hrows), Rows.kind_of_listing_empty, ?_, ?_⟩
    · exact fun index row undecoded => Rows.kind_of_undecoded
    · exact fun hkeys hdecodes => Rows.exists_listing_iff.mpr ⟨hkeys, hdecodes⟩
  case failed =>
    rw [hlisting, hfailure]
    rfl

/-- A class that numbers its interfaces. -/
def numberedPorts : ClassOverlay :=
  (ClassOverlay.named "ports").withLeaf "interfaces.ifIndex" "1.1" []

/-- A class below it that tells their speeds. -/
def countedPorts : ClassOverlay :=
  ((ClassOverlay.named "ports/counted").withParent "ports").withLeaf "interfaces.ifSpeed" "1.2" []

/-- A device with two interfaces, the second of them without a number of its own. -/
def strayPort : Device :=
  (Device.empty.withColumn "1.1" [(7, .unsigned 70)]).withColumn "1.2"
    [(9, .unsigned 100), (7, .unsigned 1000)]

theorem stray_port_has_index_of_its_row : ∃ catalog c,
    Catalog.ofOverlays [numberedPorts, countedPorts] = .ok catalog ∧
    catalog.get? "ports/counted" = some c ∧
    ∃ group : QueryTree, c.tree.lookup "interfaces" = some group.toNode ∧ "ifIndex" ∈ group.labels ∧
      ∃ rows interfaces, (runWithin strayPort.client (Limits.unhurried 2) 8
          (c.head.property .interfaces).run Meter.zero).1 = .ok interfaces ∧
        interfaces.map (fun i => (i .index, i .speed)) = [(some 70, some 1000), (some 9, some 100)] ∧
        group.Gathers strayPort.client rows ∧
        List.Forall₂ (fun e i => Interface.OfRow e.1 e.2 i) rows.entries interfaces := by
  obtain ⟨catalog, c, labels, child, hcatalog, hc, hown, hparent, hruns⟩ :
      ∃ catalog c labels child, Catalog.ofOverlays [numberedPorts, countedPorts] = .ok catalog ∧
        catalog.get? "ports/counted" = some c ∧
        c.head.own.lookup "interfaces" = some (.group labels child) ∧
        (∃ parent ∈ c.ancestors.head?, ∃ others child',
          parent.tree.lookup "interfaces" = some (.group others child') ∧ "ifIndex" ∈ others) ∧
        (runWithin strayPort.client (Limits.unhurried 2) 8 (c.head.property .interfaces).run
          Meter.zero).1.toOption.map (List.map fun i => (i .index, i .speed)) =
            some [(some 70, some 1000), (some 9, some 100)] :=
    ⟨_, _, _, _, Catalog.ofOverlays_of_round rfl, rfl, rfl, ⟨_, rfl, _, _, rfl, by decide⟩,
      by decide +kernel⟩
  obtain ⟨group, hgroup, hlabels, hlisting⟩ :=
    listing_has_one_interface_per_row (Catalog.constructed_of_get? hcatalog hc) hown
  obtain ⟨-, hlisted, hfound, -⟩ := hlisting strayPort.client (Limits.unhurried 2) 8 Meter.zero
  obtain ⟨interfaces, hrun, hindices⟩ := Option.map_eq_some_iff.mp hruns
  rw [toOption_eq_some_iff] at hrun
  obtain ⟨rows, hrows, hinterfaces⟩ := hlisted interfaces hrun
  obtain ⟨hgathers, -⟩ := hfound rows hrows
  exact ⟨catalog, c, hcatalog, hc, group, hgroup, (hlabels "ifIndex").mpr (.inr hparent), rows,
    interfaces, hrun, hindices, hgathers, hinterfaces⟩

end DeviceClass
end DevicePoll
