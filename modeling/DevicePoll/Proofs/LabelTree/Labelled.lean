import DevicePoll.Proofs.LabelTree.Merge

/-! Trees whose labels can all stand in a dotted path. Each node of such a tree has one dotted path, by
which it is found, and no other node is found by it. Merging two of them gives one again. -/
namespace DevicePoll

namespace LabelNode
variable {α : Type}

/-- All labels of the node, at every depth, can stand in a dotted path. -/
inductive Labelled : LabelNode α → Prop
  | leaf (value : α) : Labelled (leaf value)
  | group {labels : LabelSet} {child : (label : String) → label ∈ labels → LabelNode α} :
      (∀ label ∈ labels, Text.isLabel label = true) → (∀ label h, Labelled (child label h)) →
      Labelled (group labels child)

/-- A layer brings its own labels and keeps those of the layer below it. -/
theorem Labelled.onto {upper : LabelNode α} (h : upper.Labelled) {base : Option (LabelNode α)}
    (hbase : ∀ node, base = some node → node.Labelled) : (upper.onto base).Labelled := by
  induction h generalizing base with
  | leaf value => exact .leaf value
  | @group labels child hlabels hchild ih =>
    match base with
    | none => exact .group hlabels hchild
    | some (.leaf value) => exact .group hlabels hchild
    | some (.group others below) =>
      obtain _ | ⟨hothers, hbelow⟩ := hbase _ rfl
      refine .group (fun label hlabel => ?_) fun label hlabel => ?_
      · rcases LabelSet.mem_union.mp hlabel with hlower | hupper
        · exact hothers label hlower
        · exact hlabels label hupper
      · by_cases hupper : label ∈ labels
        · simp only [dif_pos hupper]
          apply ih label hupper
          intro node hnode
          split at hnode
          · next hlower =>
            cases hnode
            exact hbelow label hlower
          · cases hnode
        · simp only [dif_neg hupper]
          exact hbelow label _

end LabelNode

namespace LabelTree
variable {α : Type}

/-- Labels lead from the top of the tree to a node, one step down after another. -/
inductive LeadsTo : LabelTree α → List String → LabelNode α → Prop
  | last {t : LabelTree α} {label : String} {node : LabelNode α} :
      t.get? label = some node → LeadsTo t [label] node
  | next {t below : LabelTree α} {label : String} {labels : List String} {node : LabelNode α} :
      t.get? label = some below.toNode → LeadsTo below labels node →
      LeadsTo t (label :: labels) node

variable {t : LabelTree α} {labels : List String} {node : LabelNode α}

theorem LeadsTo.ne_nil (h : t.LeadsTo labels node) : labels ≠ [] := by
  cases h <;> simp

theorem LeadsTo.descend (h : t.LeadsTo labels node) : t.toNode.descend labels = some node := by
  induction h with
  | last hget =>
    rw [LabelNode.descend_cons]
    simp [toNode, LabelNode.child?, hget]
  | next hget _ ih =>
    rw [LabelNode.descend_cons]
    simpa [toNode, LabelNode.child?, hget] using ih

/-- Going down by the parts of a path takes the steps of a sequence of labels. -/
theorem leadsTo_of_descend (hne : labels ≠ []) (h : t.toNode.descend labels = some node) :
    t.LeadsTo labels node := by
  induction labels generalizing t with
  | nil => exact absurd rfl hne
  | cons label labels ih =>
    rw [LabelNode.descend_cons] at h
    obtain ⟨next, hnext, hbelow⟩ := Option.bind_eq_some_iff.mp h
    cases labels with
    | nil =>
      obtain rfl : next = node := by simpa using hbelow
      exact .last hnext
    | cons second labels =>
      cases next with
      | leaf value => cases hbelow
      | group others child =>
        have hgroup : t.get? label = some (LabelTree.mk others child).toNode := hnext
        exact .next hgroup (ih (List.cons_ne_nil second labels) hbelow)

theorem leadsTo_of_lookup {path : String} (h : t.lookup path = some node) :
    t.LeadsTo (Text.parts path) node :=
  leadsTo_of_descend (Text.parts_ne_nil path) h

theorem LeadsTo.isLabel (h : t.LeadsTo labels node) (hlabelled : t.toNode.Labelled) :
    ∀ label ∈ labels, Text.isLabel label = true := by
  induction h with
  | @last t label node hget =>
    obtain _ | ⟨hlabels, -⟩ := hlabelled
    intro other hother
    obtain rfl := List.mem_singleton.mp hother
    exact hlabels other (isSome_get?_iff.mp (by rw [hget]; rfl))
  | @next t below label labels node hget _ ih =>
    obtain _ | ⟨hlabels, hchild⟩ := hlabelled
    have hmem : label ∈ t.labels := isSome_get?_iff.mp (by rw [hget]; rfl)
    have hbelow : below.toNode.Labelled := by
      rw [get?_eq_some hmem] at hget
      exact Option.some.inj hget ▸ hchild label hmem
    exact List.forall_mem_cons.mpr ⟨hlabels label hmem, ih hbelow⟩

section Labelled
variable (hlabelled : t.toNode.Labelled)
include hlabelled

theorem LeadsTo.dot_notMem (h : t.LeadsTo labels node) : ∀ label ∈ labels, '.' ∉ label.toList :=
  fun label hlabel => (Text.isLabel_iff.mp (h.isLabel hlabelled label hlabel)).2

theorem LeadsTo.lookup (h : t.LeadsTo labels node) :
    t.lookup (Text.dotted labels) = some node := by
  rw [LabelTree.lookup, Text.parts_dotted h.ne_nil (h.dot_notMem hlabelled)]
  exact h.descend

/-- Two nodes with one dotted path are one node. -/
theorem LeadsTo.unique {other : List String} {found : LabelNode α} (h : t.LeadsTo labels node)
    (h' : t.LeadsTo other found) (hpath : Text.dotted other = Text.dotted labels) :
    other = labels ∧ found = node := by
  have hlabels : other = labels := by
    refine Text.dotted_inj h'.ne_nil h.ne_nil (fun label hlabel => ?_) hpath
    rcases List.mem_append.mp hlabel with hmem | hmem
    · exact h'.dot_notMem hlabelled label hmem
    · exact h.dot_notMem hlabelled label hmem
  subst hlabels
  exact ⟨rfl, Option.some.inj (h'.descend.symm.trans h.descend)⟩

end Labelled
end LabelTree
end DevicePoll
