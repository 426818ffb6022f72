import DevicePoll.Query.Row
import DevicePoll.Query.Tree
import DevicePoll.Reading.Basic

/-! Reading query trees. A leaf is one walk; a group reads its labels side by side and joins their
cells into rows. A label whose value is not found is left out, and every other failure of a label
fails the group. -/
namespace DevicePoll

namespace Leaf

/-- The values by row index. Empty texts are skipped, and of two answers for a row the later one
counts. -/
def collect (operators : List Operator) :
    List Response → SortedMap UInt64 Scalar → Outcome (SortedMap UInt64 Scalar)
  | [], values => .ok values
  | response :: rest, values =>
    if response.value.isEmptyText then collect operators rest values
    else
      match Operator.applyAll operators response.value with
      | .error failure =>
        .error (.within ("response couldn't be normalized (oid: " ++ response.oid ++ ")") failure)
      | .ok value =>
        match rowIndex response.oid with
        | .error failure => .error failure
        | .ok index => collect operators rest (values.insert index value)

def read (leaf : Leaf) : Poll (SortedMap UInt64 Scalar) :=
  (Poll.request (.walk leaf.oid)).mapOutcome fun outcome =>
    match outcome with
    | .error failure => .error failure
    | .ok responses => collect leaf.operators responses SortedMap.empty

end Leaf

/-- The outcome of one label within its group. -/
def labelOutcome (label : String) : Outcome Column → Outcome (Option (String × Column))
  | .ok column => .ok (some (label, column))
  | .error failure =>
    if failure.isNotFound then .ok none
    else .error (.within ("failed to get value '" ++ label ++ "'") failure)

/-- The rows of a group from the programs of its labels. -/
def readGroup (columns : List (String × Poll Column)) : Poll Rows :=
  (Poll.all (columns.map fun e => e.2.mapOutcome (labelOutcome e.1))).mapOutcome fun outcome =>
    outcome.map fun found => Rows.ofColumns (found.filterMap id)

namespace QueryNode

def read : QueryNode → Poll Column
  | .leaf leaf => leaf.read.mapOutcome fun outcome => outcome.map fun values => values.map .leaf
  | .group labels child =>
    (readGroup (labels.members.map fun label =>
      (label.1, read (child label.1 label.2)))).mapOutcome fun outcome =>
        outcome.map fun rows => rows.map LabelTree.toNode

end QueryNode

namespace QueryTree

/-- The rows of a tree. -/
def readAll (tree : QueryTree) : Poll Rows :=
  readGroup (tree.toList.map fun e => (e.1, QueryNode.read e.2))

/-- The labels of a tree in their order, each with the program for its node. -/
theorem readAll_eq (tree : QueryTree) : tree.readAll = readGroup (tree.labels.members.map fun label =>
    (label.1, QueryNode.read (tree.child label.1 label.2))) := by
  rw [readAll, LabelTree.toList, List.map_map]
  rfl

end QueryTree

/-- A group below a label is read as a tree of its own. -/
theorem QueryNode.read_group (labels : LabelSet) (child : (l : String) → l ∈ labels → QueryNode) :
    QueryNode.read (.group labels child) = (QueryTree.readAll ⟨labels, child⟩).mapOutcome
      fun outcome => outcome.map fun rows => rows.map LabelTree.toNode := by
  rw [QueryTree.readAll_eq]
  rfl

/-- What holds of the columns of the leaves, and of the rows of every group if it holds of the columns of
its labels, holds of the rows of the tree. The column of a group is made of its rows. -/
theorem QueryTree.readAll_induction {tree : QueryTree} (column : Poll Column → Prop)
    {rows : Poll Rows → Prop}
    (leaf : ∀ path leaf, tree.toNode.descend path = some (.leaf leaf) →
      column (QueryNode.read (.leaf leaf)))
    (group : ∀ columns : List (String × Poll Column), (∀ e ∈ columns, column e.2) →
      rows (readGroup columns))
    (nested : ∀ p, rows p → column (p.mapOutcome fun outcome =>
      outcome.map fun found => found.map LabelTree.toNode)) : rows tree.readAll := by
  have htree : ∀ tree : QueryTree, (∀ label hlabel, column (QueryNode.read (tree.child label hlabel))) →
      rows tree.readAll := by
    intro tree hlabels
    rw [readAll_eq]
    refine group _ fun e he => ?_
    obtain ⟨label, -, rfl⟩ := List.mem_map.mp he
    exact hlabels label.1 label.2
  have hnode : ∀ node : QueryNode, (∀ path leaf, node.descend path = some (.leaf leaf) →
      column (QueryNode.read (.leaf leaf))) → column (QueryNode.read node) := by
    intro node hleaves
    induction node with
    | leaf leaf => exact hleaves [] leaf rfl
    | group labels child ih =>
      rw [QueryNode.read_group]
      refine nested _ (htree ⟨labels, child⟩ fun label hlabel => ih label hlabel ?_)
      intro path found hfound
      refine hleaves (label :: path) found ?_
      rw [LabelNode.descend, dif_pos hlabel]
      exact hfound
  refine htree tree fun label hlabel => hnode _ fun path found hfound => leaf (label :: path) found ?_
  rw [LabelTree.toNode, LabelNode.descend, dif_pos hlabel]
  exact hfound

end DevicePoll
