import DevicePoll.SortedMap
import DevicePoll.Text.Dotted

/-! Trees of labels with values at their leaves. The children of a group are a function on its set
of labels, so a tree is determined by its look-ups. Layering one tree over another merges groups and
replaces everything else. -/
namespace DevicePoll

/-- A finite set of labels, in ascending order. -/
abbrev LabelSet := SortedMap String Unit

namespace LabelSet

instance : Membership String LabelSet where
  mem labels label := (labels.get? label).isSome = true

instance (label : String) (labels : LabelSet) : Decidable (label ∈ labels) :=
  inferInstanceAs (Decidable (_ = true))

theorem mem_iff {label : String} {labels : LabelSet} :
    label ∈ labels ↔ (labels.get? label).isSome = true := Iff.rfl

def add (labels : LabelSet) (label : String) : LabelSet := labels.insert label ()

/-- The labels of both sets. -/
def union (a b : LabelSet) : LabelSet := b.keys.foldl add a

@[simp] theorem mem_empty (label : String) : ¬label ∈ (SortedMap.empty : LabelSet) := by
  simp [mem_iff]

@[simp] theorem mem_add {label other : String} {labels : LabelSet} :
    label ∈ labels.add other ↔ label = other ∨ label ∈ labels := by
  by_cases h : label = other <;> simp [mem_iff, add, h]

theorem mem_foldl_add {label : String} {more : List String} {labels : LabelSet} :
    label ∈ more.foldl add labels ↔ label ∈ labels ∨ label ∈ more := by
  induction more generalizing labels with
  | nil => simp
  | cons head rest ih =>
    rw [List.foldl_cons, ih, mem_add, List.mem_cons]
    constructor
    · rintro ((h | h) | h)
      · exact .inr (.inl h)
      · exact .inl h
      · exact .inr (.inr h)
    · rintro (h | h | h)
      · exact .inl (.inr h)
      · exact .inl (.inl h)
      · exact .inr h

theorem mem_keys {label : String} {labels : LabelSet} : label ∈ labels.keys ↔ label ∈ labels :=
  SortedMap.mem_keys_iff

@[simp] theorem mem_union {label : String} {a b : LabelSet} :
    label ∈ a.union b ↔ label ∈ a ∨ label ∈ b := by
  rw [union, mem_foldl_add, mem_keys]

theorem ext {a b : LabelSet} (h : ∀ label, label ∈ a ↔ label ∈ b) : a = b := by
  refine SortedMap.ext_get? fun label => ?_
  have e := h label
  simp only [mem_iff] at e
  cases ha : a.get? label <;> cases hb : b.get? label <;> simp_all

/-- The labels in order, each with the proof that it is one. -/
def members (labels : LabelSet) : List { label : String // label ∈ labels } :=
  labels.keys.attach.map fun label => ⟨label.1, mem_keys.1 label.2⟩

theorem mem_members (labels : LabelSet) (label : { label : String // label ∈ labels }) :
    label ∈ labels.members :=
  List.mem_map.2 ⟨⟨label.1, mem_keys.2 label.2⟩, List.mem_attach _ _, rfl⟩

end LabelSet

/-- A leaf, or a group of labelled nodes. -/
inductive LabelNode (α : Type) where
  | leaf (value : α)
  | group (labels : LabelSet) (child : (label : String) → label ∈ labels → LabelNode α)

/-- The labelled nodes of one group. -/
structure LabelTree (α : Type) where
  labels : LabelSet
  child : (label : String) → label ∈ labels → LabelNode α

namespace LabelTree
variable {α β : Type}

def toNode (t : LabelTree α) : LabelNode α := .group t.labels t.child

def empty : LabelTree α := ⟨SortedMap.empty, fun label h => absurd h (LabelSet.mem_empty label)⟩

instance : Inhabited (LabelTree α) := ⟨empty⟩

def get? (t : LabelTree α) (label : String) : Option (LabelNode α) :=
  if h : label ∈ t.labels then some (t.child label h) else none

theorem get?_eq_some {t : LabelTree α} {label : String} (h : label ∈ t.labels) :
    t.get? label = some (t.child label h) := dif_pos h

theorem get?_eq_none {t : LabelTree α} {label : String} (h : ¬label ∈ t.labels) :
    t.get? label = none := dif_neg h

theorem isSome_get?_iff {t : LabelTree α} {label : String} :
    (t.get? label).isSome = true ↔ label ∈ t.labels := by
  by_cases h : label ∈ t.labels
  · simp [get?_eq_some h, h]
  · simp [get?_eq_none h, h]

theorem ext_get? {a b : LabelTree α} (h : ∀ label, a.get? label = b.get? label) : a = b := by
  obtain ⟨la, ca⟩ := a
  obtain ⟨lb, cb⟩ := b
  have labels : la = lb := LabelSet.ext fun label => by
    rw [← isSome_get?_iff (t := ⟨la, ca⟩), ← isSome_get?_iff (t := ⟨lb, cb⟩), h label]
  subst labels
  have child : ca = cb := by
    funext label mem
    have e := h label
    rw [get?_eq_some mem, get?_eq_some mem] at e
    exact Option.some.inj e
  subst child
  rfl

/-- The tree with a node under a label, in place of the node that was there. -/
def insert (t : LabelTree α) (label : String) (node : LabelNode α) : LabelTree α where
  labels := t.labels.add label
  child other h := if e : other = label then node
    else t.child other ((LabelSet.mem_add.1 h).resolve_left e)

@[simp] theorem get?_empty (label : String) : (empty : LabelTree α).get? label = none :=
  get?_eq_none (LabelSet.mem_empty label)

@[simp] theorem get?_insert (t : LabelTree α) (label other : String) (node : LabelNode α) :
    (t.insert label node).get? other = if other = label then some node else t.get? other := by
  by_cases h : other = label
  · subst h
    rw [get?_eq_some (show other ∈ (t.insert other node).labels from LabelSet.mem_add.2 (.inl rfl))]
    simp [insert]
  · by_cases m : other ∈ t.labels
    · rw [get?_eq_some (show other ∈ (t.insert label node).labels from
        LabelSet.mem_add.2 (.inr m)), get?_eq_some m]
      simp [insert, h]
    · rw [get?_eq_none (fun c => (LabelSet.mem_add.1 c).elim h m), get?_eq_none m]
      simp [h]

/-- The tree of some labelled nodes; of repeated labels the last one counts. -/
def ofList (nodes : List (String × LabelNode α)) : LabelTree α :=
  nodes.foldl (fun t e => t.insert e.1 e.2) empty

/-- The labelled nodes in the order of their labels. -/
def toList (t : LabelTree α) : List (String × LabelNode α) :=
  t.labels.members.map fun label => (label.1, t.child label.1 label.2)

def isEmpty (t : LabelTree α) : Bool := t.labels.isEmpty

end LabelTree

namespace LabelNode
variable {α β : Type}

/-- The tree of a group. -/
def tree? : LabelNode α → Option (LabelTree α)
  | leaf _ => none
  | group labels child => some ⟨labels, child⟩

def leaf? : LabelNode α → Option α
  | leaf value => some value
  | group _ _ => none

/-- The node below a path of labels. -/
def descend : List String → LabelNode α → Option (LabelNode α)
  | [], node => some node
  | _ :: _, leaf _ => none
  | label :: path, group labels child =>
    if h : label ∈ labels then descend path (child label h) else none

/-- A node layered over what may stand below it: two groups are merged, and otherwise the upper node
replaces the lower one. -/
def onto (base : Option (LabelNode α)) : LabelNode α → LabelNode α
  | leaf value => leaf value
  | group labels child =>
    match base with
    | some (group baseLabels baseChild) =>
      group (baseLabels.union labels) fun label h =>
        if upper : label ∈ labels then
          (child label upper).onto (if lower : label ∈ baseLabels
            then some (baseChild label lower) else none)
        else baseChild label ((LabelSet.mem_union.1 h).resolve_right upper)
    | _ => group labels child

/-- The node with every value changed by a function of its path. -/
def mapPath (f : List String → α → β) (path : List String) : LabelNode α → LabelNode β
  | leaf value => leaf (f path value)
  | group labels child => group labels fun label h => (child label h).mapPath f (path ++ [label])

end LabelNode

namespace LabelTree
variable {α : Type}

/-- The node at a dotted path of labels. -/
def lookup (t : LabelTree α) (path : String) : Option (LabelNode α) :=
  t.toNode.descend (Text.parts path)

/-- The upper tree layered over the lower one. Where both hold a group under a label the groups are
layered, and otherwise the upper node replaces the lower one. -/
def merge (lower upper : LabelTree α) : LabelTree α where
  labels := lower.labels.union upper.labels
  child label h :=
    if m : label ∈ upper.labels then (upper.child label m).onto (lower.get? label)
    else lower.child label ((LabelSet.mem_union.1 h).resolve_right m)

theorem toNode_merge (lower upper : LabelTree α) :
    (lower.merge upper).toNode = upper.toNode.onto (some lower.toNode) := by
  rfl

theorem get?_merge (lower upper : LabelTree α) (label : String) :
    (lower.merge upper).get? label =
      match upper.get? label with
      | some node => some (node.onto (lower.get? label))
      | none => lower.get? label := by
  by_cases u : label ∈ upper.labels
  · rw [get?_eq_some (show label ∈ (lower.merge upper).labels from LabelSet.mem_union.2 (.inr u)),
      get?_eq_some u]
    simp [merge, u]
  · rw [get?_eq_none u]
    by_cases l : label ∈ lower.labels
    · rw [get?_eq_some (show label ∈ (lower.merge upper).labels from
        LabelSet.mem_union.2 (.inl l)), get?_eq_some l]
      simp [merge, u]
    · rw [get?_eq_none (fun c => (LabelSet.mem_union.1 c).elim l u), get?_eq_none l]

end LabelTree
end DevicePoll
