import DevicePoll.LabelTree
import DevicePoll.Proofs.Text.Path

/-! Looking up in merged trees. What a merged tree holds at a path is determined by what its two
layers hold there and by the leaves of the upper layer above the path. -/
namespace DevicePoll

namespace LabelNode
variable {α : Type}

/-- The node under a label of a group. -/
def child? (label : String) : LabelNode α → Option (LabelNode α)
  | leaf _ => none
  | group labels child => (LabelTree.mk labels child).get? label

/-- The node holds a leaf at a proper part of the path. -/
def LeafAbove (node : LabelNode α) (path : List String) : Prop :=
  ∃ above rest value, path = above ++ rest ∧ rest ≠ [] ∧ node.descend above = some (leaf value)

@[simp] theorem descend_nil (node : LabelNode α) : node.descend [] = some node := by
  cases node <;> rfl

theorem descend_cons (label : String) (path : List String) (node : LabelNode α) :
    node.descend (label :: path) = (node.child? label).bind (descend path) := by
  cases node with
  | leaf value => rfl
  | group labels child =>
    by_cases h : label ∈ labels <;> simp [descend, child?, LabelTree.get?, h]

theorem bind_descend_cons (base : Option (LabelNode α)) (label : String) (path : List String) :
    base.bind (descend (label :: path)) = (base.bind (child? label)).bind (descend path) := by
  rw [Option.bind_assoc]
  exact congrArg base.bind (funext (descend_cons label path))

@[simp] theorem onto_none (node : LabelNode α) : node.onto none = node := by
  cases node <;> rfl

/-- A group over anything is a group. -/
theorem onto_group (labels : LabelSet) (child : (label : String) → label ∈ labels → LabelNode α)
    (base : Option (LabelNode α)) :
    ∃ labels' child', (group labels child).onto base = group labels' child' := by
  match base with
  | none => exact ⟨_, _, rfl⟩
  | some (leaf _) => exact ⟨_, _, rfl⟩
  | some (group _ _) => exact ⟨_, _, rfl⟩

/-- One step down in a layered group. -/
theorem child?_onto_group (labels : LabelSet) (child : (l : String) → l ∈ labels → LabelNode α)
    (base : Option (LabelNode α)) (label : String) :
    ((group labels child).onto base).child? label =
      match (group labels child).child? label with
      | some node => some (node.onto (base.bind (child? label)))
      | none => base.bind (child? label) := by
  match base with
  | none =>
    rw [onto_none]
    cases (group labels child).child? label <;> simp
  | some (leaf value) =>
    have honto : (group labels child).onto (some (leaf value)) = group labels child := rfl
    rw [honto]
    cases (group labels child).child? label <;> simp [child?]
  | some (group baseLabels baseChild) =>
    exact LabelTree.get?_merge ⟨baseLabels, baseChild⟩ ⟨labels, child⟩ label

theorem not_leafAbove_nil (node : LabelNode α) : ¬node.LeafAbove [] := by
  rintro ⟨above, rest, value, hpath, hrest, -⟩
  exact hrest (List.append_eq_nil_iff.mp hpath.symm).2

theorem leafAbove_leaf (value : α) (label : String) (path : List String) :
    (leaf value).LeafAbove (label :: path) := ⟨[], label :: path, value, rfl, by simp, rfl⟩

theorem leafAbove_group_cons {labels : LabelSet} {child : (l : String) → l ∈ labels → LabelNode α}
    {label : String} {path : List String} : (group labels child).LeafAbove (label :: path) ↔
      ∃ node, (group labels child).child? label = some node ∧ node.LeafAbove path := by
  constructor
  · rintro ⟨above, rest, value, hpath, hrest, hleaf⟩
    cases above with
    | nil => simp at hleaf
    | cons first above =>
      obtain ⟨rfl, rfl⟩ := List.cons.inj hpath
      rw [descend_cons] at hleaf
      obtain ⟨node, hnode, hbelow⟩ := Option.bind_eq_some_iff.mp hleaf
      exact ⟨node, hnode, above, rest, value, rfl, hrest, hbelow⟩
  · rintro ⟨node, hnode, above, rest, value, rfl, hrest, hleaf⟩
    refine ⟨label :: above, rest, value, rfl, hrest, ?_⟩
    rw [descend_cons, hnode]
    exact hleaf

/-- Where the upper layer holds a node, the layers hold that node, merged over the lower one. -/
theorem descend_onto_of_some {upper node : LabelNode α} {path : List String}
    (base : Option (LabelNode α)) (h : upper.descend path = some node) :
    (upper.onto base).descend path = some (node.onto (base.bind (descend path))) := by
  induction path generalizing upper base with
  | nil =>
    obtain rfl : upper = node := by simpa using h
    cases base <;> simp
  | cons label path ih =>
    cases upper with
    | leaf value => simp [descend_cons, child?] at h
    | group labels child =>
      rw [descend_cons] at h ⊢
      obtain ⟨next, hnext, hbelow⟩ := Option.bind_eq_some_iff.mp h
      rw [child?_onto_group, hnext]
      rw [bind_descend_cons]
      exact ih _ hbelow

/-- Where the upper layer holds nothing and no leaf above, the lower layer shows through. -/
theorem descend_onto_of_none {upper : LabelNode α} {path : List String}
    (base : Option (LabelNode α)) (h : upper.descend path = none) (hopen : ¬upper.LeafAbove path) :
    (upper.onto base).descend path = base.bind (descend path) := by
  induction path generalizing upper base with
  | nil => simp at h
  | cons label path ih =>
    cases upper with
    | leaf value => exact absurd (leafAbove_leaf value label path) hopen
    | group labels child =>
      rw [descend_cons, child?_onto_group]
      rw [descend_cons] at h
      cases hnext : (group labels child).child? label with
      | none => exact (bind_descend_cons base label path).symm
      | some next =>
        rw [hnext] at h
        have hbelow : ¬next.LeafAbove path := fun habove =>
          hopen (leafAbove_group_cons.mpr ⟨next, hnext, habove⟩)
        rw [bind_descend_cons]
        exact ih _ h hbelow

/-- A leaf of the upper layer hides all that the lower layer holds below it. -/
theorem descend_onto_of_leafAbove {upper : LabelNode α} {path : List String}
    (base : Option (LabelNode α)) (h : upper.LeafAbove path) :
    (upper.onto base).descend path = none := by
  induction path generalizing upper base with
  | nil => exact absurd h (not_leafAbove_nil upper)
  | cons label path ih =>
    cases upper with
    | leaf value => rfl
    | group labels child =>
      obtain ⟨next, hnext, hbelow⟩ := leafAbove_group_cons.mp h
      rw [descend_cons, child?_onto_group, hnext]
      exact ih _ hbelow

theorem descend_of_leafAbove {node : LabelNode α} {path : List String} (h : node.LeafAbove path) :
    node.descend path = none := by
  simpa using descend_onto_of_leafAbove none h

end LabelNode

namespace LabelTree
variable {α : Type}

/-- The tree holds a leaf at some dotted text above the path. -/
def LeafAbove (t : LabelTree α) (path : String) : Prop :=
  ∃ above value, Text.IsAbove above path ∧ t.lookup above = some (.leaf value)

theorem leafAbove_iff {t : LabelTree α} {path : String} :
    t.LeafAbove path ↔ t.toNode.LeafAbove (Text.parts path) := by
  constructor
  · rintro ⟨above, value, ⟨rest, rfl⟩, hleaf⟩
    exact ⟨Text.parts above, Text.parts rest, value, Text.parts_append_dot above rest,
      Text.parts_ne_nil rest, hleaf⟩
  · rintro ⟨above, rest, value, hparts, hrest, hleaf⟩
    have habove : above ≠ [] := by
      rintro rfl
      simp [toNode] at hleaf
    obtain ⟨hdotted, hpath⟩ := Text.isAbove_of_parts hparts habove hrest
    refine ⟨Text.dotted above, value, hdotted, ?_⟩
    rw [lookup, hpath]
    exact hleaf

theorem lookup_merge_of_some {lower upper : LabelTree α} {path : String} {node : LabelNode α}
    (h : upper.lookup path = some node) :
    (lower.merge upper).lookup path = some (node.onto (lower.lookup path)) := by
  rw [lookup, toNode_merge]
  exact LabelNode.descend_onto_of_some (some lower.toNode) h

theorem lookup_merge_of_none {lower upper : LabelTree α} {path : String}
    (h : upper.lookup path = none) (hopen : ¬upper.LeafAbove path) :
    (lower.merge upper).lookup path = lower.lookup path := by
  rw [lookup, toNode_merge]
  exact LabelNode.descend_onto_of_none (some lower.toNode) h fun habove =>
    hopen (leafAbove_iff.mpr habove)

theorem lookup_merge_of_leafAbove {lower upper : LabelTree α} {path : String}
    (h : upper.LeafAbove path) : (lower.merge upper).lookup path = none := by
  rw [lookup, toNode_merge]
  exact LabelNode.descend_onto_of_leafAbove (some lower.toNode) (leafAbove_iff.mp h)

theorem lookup_of_leafAbove {t : LabelTree α} {path : String} (h : t.LeafAbove path) :
    t.lookup path = none :=
  LabelNode.descend_of_leafAbove (leafAbove_iff.mp h)

/-- What a merged tree holds at a path depends on the lower layer at the path alone, and on the upper
layer at the path and above it. -/
theorem lookup_merge_congr {lower lower' upper upper' : LabelTree α} {path : String}
    (hlower : lower.lookup path = lower'.lookup path)
    (hupper : upper.lookup path = upper'.lookup path)
    (habove : upper.LeafAbove path ↔ upper'.LeafAbove path) :
    (lower.merge upper).lookup path = (lower'.merge upper').lookup path := by
  cases hnode : upper.lookup path with
  | some node =>
    rw [lookup_merge_of_some hnode, lookup_merge_of_some (hupper ▸ hnode), hlower]
  | none =>
    by_cases hleaf : upper.LeafAbove path
    · rw [lookup_merge_of_leafAbove hleaf, lookup_merge_of_leafAbove (habove.mp hleaf)]
    · have hopen : ¬upper'.LeafAbove path := fun h => hleaf (habove.mpr h)
      rw [lookup_merge_of_none hnode hleaf, lookup_merge_of_none (hupper ▸ hnode) hopen, hlower]

open Classical in
/-- What a merged tree holds at a path is determined by what its two layers hold there. Two groups are
merged; otherwise the node of the upper layer counts; and where the upper layer holds none, the lower
one shows through, unless a leaf of the upper layer above the path hides it. -/
theorem lookup_merge (lower upper : LabelTree α) (path : String) :
    (lower.merge upper).lookup path =
      match lower.lookup path, upper.lookup path with
      | some (.group below belowChild), some (.group above aboveChild) =>
        some ((LabelTree.mk below belowChild).merge ⟨above, aboveChild⟩).toNode
      | _, some node => some node
      | found, none => if upper.LeafAbove path then none else found := by
  cases hupper : upper.lookup path with
  | some node =>
    rw [lookup_merge_of_some hupper]
    cases node with
    | leaf value => rcases lower.lookup path with _ | _ | _ <;> rfl
    | group above aboveChild =>
      rcases lower.lookup path with _ | _ | _
      · exact congrArg some (LabelNode.onto_none _)
      · rfl
      · rfl
  | none =>
    by_cases hleaf : upper.LeafAbove path
    · rw [lookup_merge_of_leafAbove hleaf]
      cases lower.lookup path <;> simp [hleaf]
    · rw [lookup_merge_of_none hupper hleaf]
      cases lower.lookup path <;> simp [hleaf]

end LabelTree
end DevicePoll
