import DevicePoll.Proofs.Document.Checked
import DevicePoll.Proofs.LabelTree.Latest
import DevicePoll.Proofs.LabelTree.Leaves
import DevicePoll.Proofs.Query.Unhurried
import DevicePoll.Proofs.Source.Standard

/-! Rows and leaves. The rows of a tree hold what its leaves hold, turned around: a leaf keeps its values
by row, and a row keeps its cells by label. A tree can be read unless one of its leaves fails otherwise
than by finding nothing, and then it fails as the first such leaf does. -/
namespace DevicePoll

universe u

theorem findSome?_flatMap {α β γ : Type} (l : List α) (f : α → List β) (g : β → Option γ) :
    (l.flatMap f).findSome? g = l.findSome? fun a => (f a).findSome? g := by
  induction l with
  | nil => rfl
  | cons a l ih =>
    rw [List.flatMap_cons, List.findSome?_append, ih, List.findSome?_cons]
    cases (f a).findSome? g <;> rfl

namespace Outcome
variable {α β : Type}

/-- The kind of a failure that fails the group around a label: any but that nothing is found. -/
def breaking? (outcome : Outcome α) : Option Failure.Kind := outcome.kind?.filter (· ≠ .notFound)

@[simp] theorem kind?_map (outcome : Outcome α) (f : α → β) :
    kind? (outcome.map f) = outcome.kind? := by
  cases outcome <;> rfl

@[simp] theorem breaking?_map (outcome : Outcome α) (f : α → β) :
    breaking? (outcome.map f) = outcome.breaking? := by
  cases outcome <;> rfl

theorem breaking?_eq_some {outcome : Outcome α} {kind : Failure.Kind} :
    outcome.breaking? = some kind ↔
      ∃ failure, outcome = .error failure ∧ failure.kind = kind ∧ kind ≠ .notFound := by
  rw [breaking?, Option.filter_eq_some_iff, kind?_eq_some, decide_eq_true_eq]
  constructor
  · rintro ⟨⟨failure, hfailure, hkind⟩, hbreaks⟩
    exact ⟨failure, hfailure, hkind, hbreaks⟩
  · rintro ⟨failure, hfailure, hkind, hbreaks⟩
    exact ⟨⟨failure, hfailure, hkind⟩, hbreaks⟩

theorem kind_of_unbroken {failure : Failure} (h : breaking? (.error failure : Outcome α) = none) :
    failure.kind = .notFound := by
  simpa [breaking?] using h

/-- The first failure of some steps is the failure of all. -/
theorem kind?_mapM {α : Type u} (f : α → Outcome β) (l : List α) :
    kind? (l.mapM f) = l.findSome? fun a => (f a).kind? := by
  induction l with
  | nil => rfl
  | cons a l ih =>
    rw [List.mapM_cons, List.findSome?_cons, ← ih]
    cases f a with
    | error failure => rfl
    | ok b => cases l.mapM f <;> rfl

/-- What fails a group is not that nothing is found. -/
theorem filter_findSome?_breaking? (outcomeOf : β → Outcome α) (l : List β) :
    (l.findSome? fun b => (outcomeOf b).breaking?).filter (· ≠ .notFound) =
      l.findSome? fun b => (outcomeOf b).breaking? := by
  cases hfirst : l.findSome? fun b => (outcomeOf b).breaking? with
  | none => rfl
  | some kind =>
    obtain ⟨b, -, hbreaks⟩ := List.exists_of_findSome?_eq_some hfirst
    obtain ⟨-, -, -, hkind⟩ := breaking?_eq_some.mp hbreaks
    exact Option.filter_some_pos (decide_eq_true hkind)

end Outcome

theorem kind?_labelOutcome (label : String) (outcome : Outcome Column) :
    (labelOutcome label outcome).kind? = outcome.breaking? := by
  cases outcome with
  | ok column => rfl
  | error failure =>
    rw [labelOutcome, Failure.isNotFound, Outcome.breaking?, Outcome.kind?_error]
    by_cases hkind : failure.kind = .notFound <;> simp [hkind, Option.filter]

/-- A label that does not fail its group has its column, or is left out. -/
theorem labelOutcome_of_unbroken {label : String} {outcome : Outcome Column}
    (h : outcome.breaking? = none) :
    labelOutcome label outcome = .ok (outcome.toOption.map (label, ·)) := by
  cases outcome with
  | ok column => rfl
  | error failure =>
    simp [labelOutcome, Failure.isNotFound, Outcome.kind_of_unbroken h, Except.toOption]

/-! ### Columns turned into rows -/

namespace Rows

/-- The cell of a row under a label. -/
def cell? (rows : Rows) (index : UInt64) (label : String) : Option Cell :=
  (rows.get? index).bind (·.get? label)

/-- No row is empty, nor any row within one. -/
def Filled (rows : Rows) : Prop := ∀ index row, rows.get? index = some row → row.toNode.Filled

@[simp] theorem cell?_empty (index : UInt64) (label : String) :
    cell? SortedMap.empty index label = none := rfl

/-- One more cell in the row of an index. -/
def addCell (rows : Rows) (label : String) (e : UInt64 × Cell) : Rows :=
  rows.insert e.1 (((rows.get? e.1).getD LabelTree.empty).insert label e.2)

theorem cell?_addCell (rows : Rows) (label : String) (e : UInt64 × Cell) (index : UInt64)
    (other : String) : cell? (rows.addCell label e) index other =
      if index = e.1 ∧ other = label then some e.2 else rows.cell? index other := by
  rw [cell?, cell?, addCell, SortedMap.get?_insert]
  by_cases hindex : index = e.1
  · subst hindex
    by_cases hlabel : other = label
    · simp [hlabel]
    · cases rows.get? e.1 <;> simp [hlabel]
  · simp [hindex]

theorem filled_insert {row : Row} (hrow : ∀ label cell, row.get? label = some cell → cell.Filled)
    (label : String) {cell : Cell} (hcell : cell.Filled) : (row.insert label cell).toNode.Filled := by
  refine ⟨⟨label, LabelSet.mem_add.mpr (.inl rfl)⟩, fun other hother => ?_⟩
  have hget := LabelTree.get?_eq_some (t := row.insert label cell) hother
  rw [LabelTree.get?_insert] at hget
  split at hget
  · exact Option.some.inj hget ▸ hcell
  · exact hrow other _ hget

theorem Filled.cell {row : Row} (h : row.toNode.Filled) {label : String} {cell : Cell}
    (hcell : row.get? label = some cell) : cell.Filled := by
  have hbelow : row.toNode.descend [label] = some cell := by
    rw [LabelNode.descend_cons]
    exact (congrArg (·.bind (LabelNode.descend [])) hcell).trans (LabelNode.descend_nil cell)
  exact h.descend hbelow

theorem Filled.addCell {rows : Rows} (h : rows.Filled) (label : String) {e : UInt64 × Cell}
    (he : e.2.Filled) : (rows.addCell label e).Filled := by
  intro index row hrow
  rw [Rows.addCell, SortedMap.get?_insert] at hrow
  split at hrow
  · obtain rfl := Option.some.inj hrow
    refine filled_insert (fun other cell hcell => ?_) label he
    cases hbefore : rows.get? e.1 with
    | none => simp [hbefore] at hcell
    | some before =>
      rw [hbefore, Option.getD_some] at hcell
      exact Filled.cell (h _ _ hbefore) hcell
  · exact h index row hrow

theorem cell?_addColumn (rows : Rows) (label : String) (column : Column) (index : UInt64)
    (other : String) : cell? (rows.addColumn label column) index other =
      if other = label then (column.get? index).or (rows.cell? index other)
      else rows.cell? index other := by
  have hfold : ∀ (entries : List (UInt64 × Cell)) (rows : Rows),
      cell? (entries.foldl (·.addCell label ·) rows) index other =
        if other = label then latest index entries (rows.cell? index other)
        else rows.cell? index other := by
    intro entries
    induction entries with
    | nil => intro rows; simp
    | cons e entries ih =>
      intro rows
      rw [List.foldl_cons, ih, cell?_addCell, latest_cons]
      by_cases hlabel : other = label <;> simp [hlabel]
  rw [← column.latest_entries]
  exact hfold column.entries rows

theorem Filled.addColumn {rows : Rows} (h : rows.Filled) (label : String) {column : Column}
    (hcolumn : ∀ index cell, column.get? index = some cell → cell.Filled) :
    (rows.addColumn label column).Filled := by
  have hfold : ∀ entries : List (UInt64 × Cell), (∀ e ∈ entries, e.2.Filled) →
      ∀ rows : Rows, rows.Filled → Rows.Filled (entries.foldl (·.addCell label ·) rows) := by
    intro entries
    induction entries with
    | nil => exact fun _ rows h => h
    | cons e entries ih =>
      intro hentries rows h
      obtain ⟨hhead, htail⟩ := List.forall_mem_cons.mp hentries
      exact ih htail _ (h.addCell label hhead)
  refine hfold column.entries (fun e he => ?_) rows h
  exact hcolumn e.1 e.2 (SortedMap.mem_entries_iff.mp he)

theorem filled_ofColumns {columns : List (String × Column)}
    (h : ∀ e ∈ columns, ∀ index cell, e.2.get? index = some cell → cell.Filled) :
    (ofColumns columns).Filled := by
  have hfold : ∀ rows : Rows, rows.Filled →
      Rows.Filled (columns.foldl (fun rows e => rows.addColumn e.1 e.2) rows) := by
    induction columns with
    | nil => exact fun rows h => h
    | cons e columns ih =>
      intro rows hrows
      obtain ⟨hhead, htail⟩ := List.forall_mem_cons.mp h
      exact ih htail _ (hrows.addColumn e.1 hhead)
  exact hfold SortedMap.empty nofun

/-- The cells of columns with different labels are found again in the rows. -/
theorem cell?_ofColumns {columns : List (String × Column)} (hlabels : (columns.map Prod.fst).Nodup)
    {index : UInt64} {label : String} {cell : Cell} :
    (ofColumns columns).cell? index label = some cell ↔
      ∃ column, (label, column) ∈ columns ∧ column.get? index = some cell := by
  -- no label that is still to come has a cell yet
  have hfold : ∀ rows : Rows, (∀ other ∈ columns.map Prod.fst, rows.cell? index other = none) →
      (cell? (columns.foldl (fun rows e => rows.addColumn e.1 e.2) rows) index label = some cell ↔
        rows.cell? index label = some cell ∨
          ∃ column, (label, column) ∈ columns ∧ column.get? index = some cell) := by
    induction columns with
    | nil => simp
    | cons e columns ih =>
      intro rows hrows
      obtain ⟨key, first⟩ := e
      obtain ⟨hhead, htail⟩ := List.nodup_cons.mp hlabels
      obtain ⟨hfirst, hrest⟩ := List.forall_mem_cons.mp hrows
      rw [List.foldl_cons, ih htail, cell?_addColumn]
      · by_cases hlabel : label = key
        · subst hlabel
          have habsent : ∀ column, (label, column) ∉ columns := fun column hmem =>
            hhead (List.mem_map.mpr ⟨(label, column), hmem, rfl⟩)
          simp [hfirst, habsent]
        · simp [hlabel]
      · intro other hother
        have hne : other ≠ key := fun heq => hhead (heq ▸ hother)
        rw [cell?_addColumn, if_neg hne, hrest other hother]
  rw [ofColumns]
  simpa using hfold SortedMap.empty fun other _ => rfl

/-- What labels lead to in a row lies below the cell of the first one. -/
theorem descend_row (rows : Rows) (index : UInt64) (label : String) (path : List String) :
    ((rows.map LabelTree.toNode).get? index).bind (LabelNode.descend (label :: path)) =
      (rows.cell? index label).bind (LabelNode.descend path) := by
  rw [SortedMap.get?_map, cell?]
  cases rows.get? index with
  | none => rfl
  | some row => exact LabelNode.descend_cons label path row.toNode

end Rows

/-! ### What the leaves of a tree have read -/

/-- The labels that have a value, in their order and each with its value. -/
def LabelSet.valued {β : Type} (labels : LabelSet)
    (valueOf : { label : String // label ∈ labels } → Option β) : List (String × β) :=
  labels.members.filterMap fun label => (valueOf label).map (label.1, ·)

namespace LabelSet
variable {β : Type} {labels : LabelSet} {valueOf : { label : String // label ∈ labels } → Option β}

theorem mem_valued_iff {label : String} {value : β} :
    (label, value) ∈ labels.valued valueOf ↔ ∃ h, valueOf ⟨label, h⟩ = some value := by
  rw [valued, List.mem_filterMap]
  constructor
  · rintro ⟨member, -, heq⟩
    obtain ⟨found, hfound, heq⟩ := Option.map_eq_some_iff.mp heq
    cases heq
    exact ⟨member.2, hfound⟩
  · rintro ⟨hlabel, hfound⟩
    exact ⟨⟨label, hlabel⟩, mem_members labels _, by rw [hfound]; rfl⟩

theorem nodup_valued : ((labels.valued valueOf).map Prod.fst).Nodup := by
  rw [valued, List.map_filterMap]
  refine labels.nodup_members.of_map.filterMap fun first second label hfirst hsecond => ?_
  have hvalue : ∀ member : { label : String // label ∈ labels },
      label ∈ ((valueOf member).map (member.1, ·)).map Prod.fst → label = member.1 := by
    intro member hmember
    cases hfound : valueOf member with
    | none => simp [hfound] at hmember
    | some value => simpa [hfound, eq_comm] using hmember
  exact Subtype.ext ((hvalue first hfirst).symm.trans (hvalue second hsecond))

end LabelSet

namespace QueryNode

/-- A leaf at the end of the labels has read the value for the row. -/
def Finds (own : Leaf → Outcome (SortedMap UInt64 Scalar)) (node : QueryNode) (path : List String)
    (index : UInt64) (value : Scalar) : Prop :=
  ∃ leaf values, node.descend path = some (.leaf leaf) ∧ own leaf = .ok values ∧
    values.get? index = some value

/-- The column of a node: a cell for every row for which one of its leaves has read something, and in
it what the leaves have read for that row. -/
structure Shows (own : Leaf → Outcome (SortedMap UInt64 Scalar)) (node : QueryNode)
    (column : Column) : Prop where
  cells : ∀ index path value,
    (column.get? index).bind (LabelNode.descend path) = some (.leaf value) ↔
      node.Finds own path index value
  filled : ∀ index cell, column.get? index = some cell → cell.Filled

variable {own : Leaf → Outcome (SortedMap UInt64 Scalar)}

theorem finds_group_nil {labels : LabelSet} {child : (l : String) → l ∈ labels → QueryNode}
    {index : UInt64} {value : Scalar} : ¬Finds own (.group labels child) [] index value := by
  rintro ⟨leaf, values, hleaf, -⟩
  simp at hleaf

theorem finds_group_cons {labels : LabelSet} {child : (l : String) → l ∈ labels → QueryNode}
    {label : String} {path : List String} {index : UInt64} {value : Scalar} :
    Finds own (.group labels child) (label :: path) index value ↔
      ∃ h : label ∈ labels, Finds own (child label h) path index value := by
  simp only [Finds, LabelNode.descend_group_cons]
  constructor
  · rintro ⟨leaf, values, ⟨hlabel, hleaf⟩, hvalue⟩
    exact ⟨hlabel, leaf, values, hleaf, hvalue⟩
  · rintro ⟨hlabel, leaf, values, hleaf, hvalue⟩
    exact ⟨leaf, values, ⟨hlabel, hleaf⟩, hvalue⟩

/-- The column of a leaf has a value for every row that the leaf has read. -/
theorem shows_leaf (leaf : Leaf) : Shows own (.leaf leaf)
    (((own leaf).map fun values => values.map .leaf).toOption.getD SortedMap.empty) where
  cells index path value := by
    constructor
    · intro hcell
      cases hown : own leaf with
      | error failure => simp [hown, Except.map, Except.toOption] at hcell
      | ok values =>
        simp only [hown, Except.map, Except.toOption, Option.getD_some, SortedMap.get?_map] at hcell
        obtain ⟨cell, hget, hbelow⟩ := Option.bind_eq_some_iff.mp hcell
        obtain ⟨found, hfound, rfl⟩ := Option.map_eq_some_iff.mp hget
        cases path with
        | nil =>
          cases hbelow
          exact ⟨leaf, values, rfl, hown, hfound⟩
        | cons label path => cases hbelow
    · rintro ⟨other, values, hleaf, hown, hvalue⟩
      cases path with
      | nil =>
        cases hleaf
        simp [hown, Except.map, Except.toOption, hvalue]
      | cons label path => cases hleaf
  filled index cell hcell := by
    cases hown : own leaf with
    | error failure => simp [hown, Except.map, Except.toOption] at hcell
    | ok values =>
      simp only [hown, Except.map, Except.toOption, Option.getD_some, SortedMap.get?_map] at hcell
      obtain ⟨value, -, rfl⟩ := Option.map_eq_some_iff.mp hcell
      trivial

/-- The columns of the labels of a group, turned into rows, are the column of the group. -/
theorem shows_group {labels : LabelSet} {child : (l : String) → l ∈ labels → QueryNode}
    {columnOf : { label : String // label ∈ labels } → Option Column}
    (h : ∀ label, Shows own (child label.1 label.2) ((columnOf label).getD SortedMap.empty)) :
    Shows own (.group labels child)
      ((Rows.ofColumns (labels.valued columnOf)).map LabelTree.toNode) where
  cells index path value := by
    cases path with
    | nil =>
      -- a row is a group, and so is the node
      refine iff_of_false (fun hcell => ?_) finds_group_nil
      rw [SortedMap.get?_map] at hcell
      cases hrow : (Rows.ofColumns (labels.valued columnOf)).get? index with
      | none => simp [hrow] at hcell
      | some row => simp [hrow, LabelTree.toNode] at hcell
    | cons label path =>
      rw [Rows.descend_row, finds_group_cons, Option.bind_eq_some_iff]
      constructor
      · rintro ⟨cell, hcell, hbelow⟩
        obtain ⟨column, hcolumn, hget⟩ := (Rows.cell?_ofColumns LabelSet.nodup_valued).mp hcell
        obtain ⟨hlabel, hfound⟩ := LabelSet.mem_valued_iff.mp hcolumn
        refine ⟨hlabel, ((h ⟨label, hlabel⟩).cells index path value).mp ?_⟩
        rw [hfound, Option.getD_some, hget]
        exact hbelow
      · rintro ⟨hlabel, hfinds⟩
        have hcell := ((h ⟨label, hlabel⟩).cells index path value).mpr hfinds
        obtain ⟨cell, hget, hbelow⟩ := Option.bind_eq_some_iff.mp hcell
        cases hfound : columnOf ⟨label, hlabel⟩ with
        | none => simp [hfound] at hget
        | some column =>
          rw [hfound, Option.getD_some] at hget
          exact ⟨cell, (Rows.cell?_ofColumns LabelSet.nodup_valued).mpr
            ⟨column, LabelSet.mem_valued_iff.mpr ⟨hlabel, hfound⟩, hget⟩, hbelow⟩
  filled index cell hcell := by
    rw [SortedMap.get?_map] at hcell
    obtain ⟨row, hrow, rfl⟩ := Option.map_eq_some_iff.mp hcell
    refine Rows.filled_ofColumns (fun e he index cell hget => ?_) index row hrow
    obtain ⟨hlabel, hfound⟩ := LabelSet.mem_valued_iff.mp he
    apply (h ⟨e.1, hlabel⟩).filled index cell
    rw [hfound]
    exact hget

end QueryNode

section Outcome
variable (answer : (request : Request) → Outcome request.Reply)

theorem kind?_readGroup (columns : List (String × Poll Column)) :
    ((readGroup columns).outcome answer).kind? =
      columns.findSome? fun e => (e.2.outcome answer).breaking? := by
  rw [outcome_readGroup, Outcome.kind?_map, Outcome.kind?_mapM]
  simp only [kind?_labelOutcome]

/-- A group none of whose labels fails it has the cells of those labels that were found. -/
theorem outcome_readGroup_of_unbroken {columns : List (String × Poll Column)}
    (h : ∀ e ∈ columns, (e.2.outcome answer).breaking? = none) :
    (readGroup columns).outcome answer = .ok (Rows.ofColumns
      (columns.filterMap fun e => (e.2.outcome answer).toOption.map (e.1, ·))) := by
  rw [outcome_readGroup, mapM_eq_ok fun e he => labelOutcome_of_unbroken (h e he)]
  simp [Except.map, List.filterMap_map]

namespace QueryNode

theorem outcome_leaf (leaf : Leaf) : (QueryNode.read (.leaf leaf)).outcome answer =
    (leaf.read.outcome answer).map fun values => values.map .leaf :=
  Poll.outcome_mapOutcome answer _ _

theorem outcome_group (labels : LabelSet) (child : (l : String) → l ∈ labels → QueryNode) :
    (QueryNode.read (.group labels child)).outcome answer =
      ((QueryTree.readAll ⟨labels, child⟩).outcome answer).map
        fun rows => rows.map LabelTree.toNode := by
  rw [read_group, Poll.outcome_mapOutcome]

end QueryNode

/-- The rows of a tree fail as the first of its labels that fails otherwise than by finding nothing. -/
theorem kind?_readAll (tree : QueryTree) : (tree.readAll.outcome answer).kind? =
    tree.labels.members.findSome? fun label =>
      ((QueryNode.read (tree.child label.1 label.2)).outcome answer).breaking? := by
  rw [QueryTree.readAll_eq, kind?_readGroup, List.findSome?_map]
  rfl

theorem breaking?_readAll (tree : QueryTree) :
    (tree.readAll.outcome answer).breaking? = (tree.readAll.outcome answer).kind? := by
  rw [Outcome.breaking?, kind?_readAll]
  exact Outcome.filter_findSome?_breaking? _ _

/-- A node fails the group around it if one of its leaves does, as the first such leaf does. -/
theorem QueryNode.breaking?_outcome (node : QueryNode) : (node.read.outcome answer).breaking? =
    node.leaves.findSome? fun e => (e.2.read.outcome answer).breaking? := by
  induction node with
  | leaf leaf =>
    rw [outcome_leaf, Outcome.breaking?_map, LabelNode.leaves, List.findSome?_cons]
    cases (leaf.read.outcome answer).breaking? <;> rfl
  | group labels child ih =>
    have hbelow : ∀ label : { label // label ∈ labels },
        ((QueryNode.read (child label.1 label.2)).outcome answer).breaking? =
          ((child label.1 label.2).leaves.map fun e => (label.1 :: e.1, e.2)).findSome?
            fun e => (e.2.read.outcome answer).breaking? := by
      intro label
      rw [ih label.1 label.2, List.findSome?_map]
      rfl
    rw [outcome_group, Outcome.breaking?_map, breaking?_readAll, kind?_readAll, LabelNode.leaves_group,
      findSome?_flatMap]
    exact congrArg (labels.members.findSome? ·) (funext hbelow)

/-- The rows of a tree fail as the first of its leaves that fails otherwise than by finding nothing. -/
theorem QueryTree.kind?_outcome (tree : QueryTree) : (tree.readAll.outcome answer).kind? =
    tree.toNode.leaves.findSome? fun e => (e.2.read.outcome answer).breaking? := by
  rw [← QueryNode.breaking?_outcome, LabelTree.toNode, QueryNode.outcome_group,
    Outcome.breaking?_map]
  exact (breaking?_readAll answer tree).symm

/-- The rows of a tree none of whose labels fails. -/
theorem QueryTree.outcome_of_unbroken {tree : QueryTree} (h : ∀ label hlabel,
      ((QueryNode.read (tree.child label hlabel)).outcome answer).breaking? = none) :
    tree.readAll.outcome answer = .ok (Rows.ofColumns (tree.labels.valued fun label =>
      ((QueryNode.read (tree.child label.1 label.2)).outcome answer).toOption)) := by
  rw [QueryTree.readAll_eq, outcome_readGroup_of_unbroken, List.filterMap_map]
  · rfl
  · intro e he
    obtain ⟨label, -, rfl⟩ := List.mem_map.mp he
    exact h label.1 label.2

/-- The column of a node that does not fail the group around it. -/
theorem QueryNode.shows {node : QueryNode} (h : (node.read.outcome answer).breaking? = none) :
    node.Shows (fun leaf => leaf.read.outcome answer)
      ((node.read.outcome answer).toOption.getD SortedMap.empty) := by
  induction node with
  | leaf leaf =>
    rw [outcome_leaf]
    exact shows_leaf leaf
  | group labels child ih =>
    rw [outcome_group, Outcome.breaking?_map, breaking?_readAll, kind?_readAll,
      List.findSome?_eq_none_iff] at h
    have hchild : ∀ label hlabel,
        ((QueryNode.read (child label hlabel)).outcome answer).breaking? = none :=
      fun label hlabel => h ⟨label, hlabel⟩ (LabelSet.mem_members labels _)
    rw [outcome_group, QueryTree.outcome_of_unbroken answer hchild]
    exact shows_group fun label => ih label.1 label.2 (hchild label.1 label.2)

end Outcome

namespace QueryTree
variable {tree : QueryTree} {answer : (request : Request) → Outcome request.Reply} {found : Rows}

/-- The first leaf in the order of the labels that fails otherwise than by finding nothing. -/
theorem exists_first_failure {failure : Failure} (h : tree.readAll.outcome answer = .error failure) :
    ∃ path leaf first, tree.toNode.descend path = some (.leaf leaf) ∧
      leaf.read.outcome answer = .error first ∧ first.kind ≠ .notFound ∧ failure.kind = first.kind ∧
      ∀ earlier other, earlier < path → tree.toNode.descend earlier = some (.leaf other) →
        ∀ skipped, other.read.outcome answer = .error skipped → skipped.kind = .notFound := by
  have hkind := tree.kind?_outcome answer
  rw [h, Outcome.kind?_error] at hkind
  obtain ⟨path, leaf, hleaf, hbreaks, hbefore⟩ :=
    LabelNode.findSome?_leaves (f := fun leaf : Leaf => (leaf.read.outcome answer).breaking?) hkind.symm
  obtain ⟨first, hfirst, hsame, hbreaking⟩ := Outcome.breaking?_eq_some.mp hbreaks
  refine ⟨path, leaf, first, hleaf, hfirst, hsame ▸ hbreaking, hsame.symm, ?_⟩
  intro earlier other hearlier hother skipped hskipped
  have hunbroken := hbefore earlier other hearlier hother
  rw [hskipped] at hunbroken
  exact Outcome.kind_of_unbroken hunbroken

theorem exists_failure_iff : (∃ failure, tree.readAll.outcome answer = .error failure) ↔
    ∃ path leaf failure, tree.toNode.descend path = some (.leaf leaf) ∧
      leaf.read.outcome answer = .error failure ∧ failure.kind ≠ .notFound := by
  constructor
  · rintro ⟨failure, hfailure⟩
    obtain ⟨path, leaf, first, hleaf, hfirst, hbreaks, -⟩ := exists_first_failure hfailure
    exact ⟨path, leaf, first, hleaf, hfirst, hbreaks⟩
  · rintro ⟨path, leaf, failure, hleaf, hfailure, hbreaks⟩
    cases hresult : tree.readAll.outcome answer with
    | error failure => exact ⟨failure, rfl⟩
    | ok found =>
      -- rows are only found if no leaf fails its group
      have hkind := tree.kind?_outcome answer
      rw [hresult, Outcome.kind?_ok, eq_comm, List.findSome?_eq_none_iff] at hkind
      have hunbroken := hkind (path, leaf) (LabelNode.mem_leaves_iff.mpr hleaf)
      rw [hfailure] at hunbroken
      exact absurd (Outcome.kind_of_unbroken hunbroken) hbreaks

/-- Rows that were found are the column of the whole tree. -/
theorem shows_rows (h : tree.readAll.outcome answer = .ok found) :
    QueryNode.Shows (fun leaf => leaf.read.outcome answer) tree.toNode
      (found.map LabelTree.toNode) := by
  have houtcome : (QueryNode.read tree.toNode).outcome answer = .ok (found.map LabelTree.toNode) := by
    rw [LabelTree.toNode, QueryNode.outcome_group, h]
    rfl
  have hunbroken : ((QueryNode.read tree.toNode).outcome answer).breaking? = none := by
    rw [houtcome]
    rfl
  have hshows := QueryNode.shows answer hunbroken
  rwa [houtcome] at hshows

/-- The cell at some labels of a row is what the leaf at these labels has read for that row. -/
theorem cell_iff (h : tree.readAll.outcome answer = .ok found) {index : UInt64} {path : List String}
    {value : Scalar} :
    (found.get? index).bind (fun row => row.toNode.descend path) = some (.leaf value) ↔
      QueryNode.Finds (fun leaf => leaf.read.outcome answer) tree.toNode path index value := by
  rw [← (shows_rows h).cells, SortedMap.get?_map, Option.bind_map]
  rfl

theorem filled_rows (h : tree.readAll.outcome answer = .ok found) : found.Filled := by
  intro index row hrow
  apply (shows_rows h).filled index
  rw [SortedMap.get?_map, hrow]
  rfl

/-- The rows are those for which a leaf has read something. -/
theorem mem_keys_iff (h : tree.readAll.outcome answer = .ok found) {index : UInt64} :
    index ∈ found.keys ↔ ∃ path leaf values, tree.toNode.descend path = some (.leaf leaf) ∧
      leaf.read.outcome answer = .ok values ∧ index ∈ values.keys := by
  rw [SortedMap.mem_keys_iff, Option.isSome_iff_exists]
  constructor
  · rintro ⟨row, hrow⟩
    -- a row is not empty, so that some labels of it lead to a value
    obtain ⟨path, value, hleaf⟩ := (filled_rows h index row hrow).exists_leaf
    have hcell : (found.get? index).bind (fun row => row.toNode.descend path) =
        some (.leaf value) := by
      rw [hrow]
      exact hleaf
    obtain ⟨leaf, values, hat, hread, hvalue⟩ := (cell_iff h).mp hcell
    exact ⟨path, leaf, values, hat, hread, SortedMap.mem_keys_iff.mpr (by rw [hvalue]; rfl)⟩
  · rintro ⟨path, leaf, values, hat, hread, hkey⟩
    obtain ⟨value, hvalue⟩ := Option.isSome_iff_exists.mp (SortedMap.mem_keys_iff.mp hkey)
    have hcell := (cell_iff h).mpr ⟨leaf, values, hat, hread, hvalue⟩
    obtain ⟨row, hrow, -⟩ := Option.bind_eq_some_iff.mp hcell
    exact ⟨row, hrow⟩

end QueryTree
end DevicePoll
