import DevicePoll.Proofs.LabelTree.Merge
import Mathlib.Data.List.Nodup

/-! Leaves of trees. A tree is left by the labels that lead to its leaves, and its leaves are met in the
order of their labels, those of one label before those of the next. A tree without empty groups has a
leaf below each of its nodes. -/
namespace DevicePoll

/-- The labels of a group stand in ascending order. -/
theorem LabelSet.members_ascending (labels : LabelSet) :
    (labels.members.map Subtype.val).Pairwise (· < ·) := by
  have hkeys : labels.members.map Subtype.val = labels.keys := by
    rw [members, List.map_map]
    exact List.attach_map_subtype_val labels.keys
  rw [hkeys]
  exact List.pairwise_map.mpr labels.ascending

theorem LabelSet.nodup_members (labels : LabelSet) : (labels.members.map Subtype.val).Nodup :=
  labels.members_ascending.imp fun {a b} hlt heq => by
    rw [heq] at hlt
    exact String.lt_irrefl b hlt

namespace LabelNode
variable {α : Type}

/-- The leaves of a node by the labels that lead to them, depth first. -/
def leaves : LabelNode α → List (List String × α)
  | leaf value => [([], value)]
  | group labels child => labels.members.flatMap fun ⟨label, h⟩ =>
    (leaves (child label h)).map fun e => (label :: e.1, e.2)

theorem leaves_group (labels : LabelSet) (child : (l : String) → l ∈ labels → LabelNode α) :
    (group labels child).leaves = labels.members.flatMap fun label =>
      (leaves (child label.1 label.2)).map fun e => (label.1 :: e.1, e.2) := rfl

theorem descend_group_cons {labels : LabelSet} {child : (l : String) → l ∈ labels → LabelNode α}
    {label : String} {path : List String} {node : LabelNode α} :
    (group labels child).descend (label :: path) = some node ↔
      ∃ h : label ∈ labels, (child label h).descend path = some node := by
  by_cases h : label ∈ labels <;> simp [descend, h]

/-- The leaves of a node are those that its labels lead to. -/
theorem mem_leaves_iff {node : LabelNode α} {path : List String} {value : α} :
    (path, value) ∈ node.leaves ↔ node.descend path = some (leaf value) := by
  induction node generalizing path with
  | leaf other =>
    cases path with
    | nil => simp [leaves, eq_comm]
    | cons label path => simp [leaves, descend]
  | group labels child ih =>
    rw [leaves_group, List.mem_flatMap]
    constructor
    · rintro ⟨label, -, hmem⟩
      obtain ⟨⟨rest, found⟩, hleaf, heq⟩ := List.mem_map.mp hmem
      cases heq
      exact descend_group_cons.mpr ⟨label.2, (ih label.1 label.2).mp hleaf⟩
    · intro hleaf
      cases path with
      | nil => simp at hleaf
      | cons label rest =>
        obtain ⟨hlabel, hbelow⟩ := descend_group_cons.mp hleaf
        refine ⟨⟨label, hlabel⟩, LabelSet.mem_members labels _, ?_⟩
        exact List.mem_map.mpr ⟨(rest, value), (ih label hlabel).mpr hbelow, rfl⟩

/-- The leaves of a node stand in the order of the labels that lead to them. -/
theorem leaves_ascending (node : LabelNode α) : node.leaves.Pairwise fun a b => a.1 < b.1 := by
  induction node with
  | leaf value => exact List.pairwise_singleton _ _
  | group labels child ih =>
    rw [leaves_group, List.pairwise_flatMap]
    constructor
    · intro label _
      refine List.pairwise_map.mpr ((ih label.1 label.2).imp fun {a b} hlt => ?_)
      exact List.cons_lt_cons_iff.mpr (.inr ⟨rfl, hlt⟩)
    · refine (List.pairwise_map.mp labels.members_ascending).imp fun {a b} hlt => ?_
      intro first hfirst second hsecond
      obtain ⟨below, -, rfl⟩ := List.mem_map.mp hfirst
      obtain ⟨below', -, rfl⟩ := List.mem_map.mp hsecond
      exact List.cons_lt_cons_iff.mpr (.inl hlt)

/-- What is first found among the leaves is found at no leaf before it. -/
theorem findSome?_leaves {β : Type} {f : α → Option β} {node : LabelNode α} {result : β}
    (h : node.leaves.findSome? (fun e => f e.2) = some result) :
    ∃ path value, node.descend path = some (leaf value) ∧ f value = some result ∧
      ∀ earlier other, earlier < path → node.descend earlier = some (leaf other) →
        f other = none := by
  obtain ⟨before, ⟨path, value⟩, after, hleaves, hfound, hbefore⟩ :=
    List.findSome?_eq_some_iff.mp h
  have hmem : (path, value) ∈ node.leaves := by
    rw [hleaves]
    exact List.mem_append_right before List.mem_cons_self
  refine ⟨path, value, mem_leaves_iff.mp hmem, hfound, fun earlier other hlt hother => ?_⟩
  have hascending := node.leaves_ascending
  rw [hleaves] at hascending
  have hrest := (List.pairwise_cons.mp (List.pairwise_append.mp hascending).2.1).1
  have hmem' := mem_leaves_iff.mpr hother
  rw [hleaves, List.mem_append, List.mem_cons] at hmem'
  rcases hmem' with hbelow | heq | habove
  · exact hbefore _ hbelow
  · cases heq
    exact absurd hlt (List.lt_irrefl path)
  · exact absurd (hrest _ habove) (List.lt_asymm hlt)

/-- No group at the node or below it is empty. -/
def Filled : LabelNode α → Prop
  | leaf _ => True
  | group labels child => (∃ label, label ∈ labels) ∧ ∀ label h, Filled (child label h)

theorem Filled.descend {node below : LabelNode α} (h : node.Filled) {path : List String}
    (hbelow : node.descend path = some below) : below.Filled := by
  induction path generalizing node with
  | nil =>
    obtain rfl : node = below := by simpa using hbelow
    exact h
  | cons label path ih =>
    cases node with
    | leaf value => cases hbelow
    | group labels child =>
      obtain ⟨hlabel, hnext⟩ := descend_group_cons.mp hbelow
      exact ih (h.2 label hlabel) hnext

/-- Without empty groups some labels lead to a leaf. -/
theorem Filled.exists_leaf {node : LabelNode α} (h : node.Filled) :
    ∃ path value, node.descend path = some (leaf value) := by
  induction node with
  | leaf value => exact ⟨[], value, rfl⟩
  | group labels child ih =>
    obtain ⟨⟨label, hlabel⟩, hchildren⟩ := h
    obtain ⟨path, value, hleaf⟩ := ih label hlabel (hchildren label hlabel)
    exact ⟨label :: path, value, descend_group_cons.mpr ⟨hlabel, hleaf⟩⟩

end LabelNode
end DevicePoll
