import DevicePoll.Proofs.LabelTree.Merge
import DevicePoll.Query.Tree

/-! Grouping layers. Three trees laid over one another come to the same in either grouping, except
where the middle one holds a leaf between a group of the lowest and a group of the uppermost tree:
laid first, the leaf takes the lower group away, and laid second it is itself replaced. -/
namespace DevicePoll

theorem LabelTree.toNode_injective {α : Type} {a b : LabelTree α} (h : a.toNode = b.toNode) :
    a = b := by
  obtain ⟨labels, child⟩ := a
  obtain ⟨labels', child'⟩ := b
  cases h
  rfl

namespace LabelNode
variable {α : Type}

/-- A node that may be missing, layered over what may stand below it. -/
def layered (lower upper : Option (LabelNode α)) : Option (LabelNode α) :=
  match upper with
  | none => lower
  | some node => some (node.onto lower)

@[simp] theorem layered_none (lower : Option (LabelNode α)) : layered lower none = lower := rfl

@[simp] theorem none_layered (upper : Option (LabelNode α)) : layered none upper = upper := by
  cases upper <;> simp [layered]

@[simp] theorem onto_leaf (node : LabelNode α) (value : α) : node.onto (some (leaf value)) = node := by
  cases node <;> rfl

theorem get?_merge_eq_layered (lower upper : LabelTree α) (label : String) :
    (lower.merge upper).get? label = layered (lower.get? label) (upper.get? label) := by
  rw [LabelTree.get?_merge]
  cases upper.get? label <;> rfl

theorem layered_toNode (lower upper : LabelTree α) :
    layered (some lower.toNode) (some upper.toNode) = some (lower.merge upper).toNode := rfl

/-- Three groups may be grouped in either way if what they hold under each label may. -/
theorem merge_assoc_iff_layered (below between above : LabelTree α) :
    (below.merge between).merge above = below.merge (between.merge above) ↔
      ∀ label, layered (layered (below.get? label) (between.get? label)) (above.get? label) =
        layered (below.get? label) (layered (between.get? label) (above.get? label)) := by
  simp only [← get?_merge_eq_layered]
  constructor
  · intro h label
    rw [h]
  · exact LabelTree.ext_get?

/-- At a path the middle layer holds a leaf, and the layers around it hold groups. -/
structure LeafBetween (lower middle upper : Option (LabelNode α)) (path : List String)
    (below above : LabelTree α) : Prop where
  below : lower.bind (descend path) = some below.toNode
  leaf : ∃ value, middle.bind (descend path) = some (leaf value)
  above : upper.bind (descend path) = some above.toNode

/-- Wherever a leaf stands between two groups, the lower group adds nothing to the upper one. -/
def Harmless (lower middle upper : Option (LabelNode α)) : Prop :=
  ∀ path below above, LeafBetween lower middle upper path below above →
    below.merge above = above

theorem harmless_of_not_leafBetween {lower middle upper : Option (LabelNode α)}
    (h : ∀ path below above, ¬LeafBetween lower middle upper path below above) :
    Harmless lower middle upper :=
  fun path below above hbetween => absurd hbetween (h path below above)

/-- No group stands at or below a leaf. -/
theorem bind_descend_leaf_ne_group (value : α) (path : List String) (t : LabelTree α) :
    (some (leaf value)).bind (descend path) ≠ some t.toNode := by
  cases path <;> simp [descend, LabelTree.toNode]

/-- Between two groups themselves a leaf is harmless if the lower group adds nothing to the upper
one. -/
theorem harmless_leaf_iff {below above : LabelTree α} {value : α} :
    Harmless (some below.toNode) (some (leaf value)) (some above.toNode) ↔
      below.merge above = above := by
  constructor
  · intro h
    exact h [] below above ⟨by simp, ⟨value, by simp⟩, by simp⟩
  · intro h path below' above' hbetween
    obtain ⟨value', hleaf⟩ := hbetween.leaf
    cases path with
    | nil =>
      have hbelow : below = below' :=
        LabelTree.toNode_injective (by simpa using hbetween.below)
      have habove : above = above' :=
        LabelTree.toNode_injective (by simpa using hbetween.above)
      rw [← hbelow, ← habove]
      exact h
    | cons label path => simp [descend] at hleaf

/-- Three groups are harmless if what they hold under each label is. -/
theorem harmless_groups_iff {below between above : LabelTree α} :
    Harmless (some below.toNode) (some between.toNode) (some above.toNode) ↔
      ∀ label, Harmless (below.get? label) (between.get? label) (above.get? label) := by
  have hstep : ∀ (t : LabelTree α) label path,
      (some t.toNode).bind (descend (label :: path)) = (t.get? label).bind (descend path) :=
    fun t label path => bind_descend_cons (some t.toNode) label path
  constructor
  · intro h label path below' above' hbetween
    obtain ⟨hbelow, hleaf, habove⟩ := hbetween
    refine h (label :: path) below' above' ⟨?_, ?_, ?_⟩
    · rw [hstep, hbelow]
    · simpa only [hstep] using hleaf
    · rw [hstep, habove]
  · intro h path below' above' hbetween
    obtain ⟨hbelow, ⟨value, hleaf⟩, habove⟩ := hbetween
    cases path with
    | nil => simp [LabelTree.toNode] at hleaf
    | cons label path =>
      rw [hstep] at hbelow hleaf habove
      exact h label path below' above' ⟨hbelow, ⟨value, hleaf⟩, habove⟩

theorem eq_leaf_or_group (node : LabelNode α) :
    (∃ value, node = leaf value) ∨ ∃ t : LabelTree α, node = t.toNode := by
  cases node with
  | leaf value => exact .inl ⟨value, rfl⟩
  | group labels child => exact .inr ⟨⟨labels, child⟩, rfl⟩

/-- Layers may be grouped in either way below a missing node. -/
theorem layered_none_assoc_iff (lower middle : Option (LabelNode α)) :
    layered (layered lower middle) none = layered lower (layered middle none) ↔
      Harmless lower middle none := by
  have hopen : Harmless lower middle none :=
    harmless_of_not_leafBetween fun path below above hbetween => by simpa using hbetween.above
  simp [hopen]

/-- Layers may be grouped in either way exactly below a group if they may be below each of its
labels. -/
theorem layered_group_assoc_iff (lower middle : Option (LabelNode α)) (above : LabelTree α)
    (hlabels : ∀ label lower middle, layered (layered lower middle) (above.get? label) =
      layered lower (layered middle (above.get? label)) ↔
        Harmless lower middle (above.get? label)) :
    layered (layered lower middle) (some above.toNode) =
        layered lower (layered middle (some above.toNode)) ↔
      Harmless lower middle (some above.toNode) := by
  cases middle with
  | none =>
    have hnone : Harmless lower none (some above.toNode) := by
      refine harmless_of_not_leafBetween fun path below above hbetween => ?_
      obtain ⟨value, hleaf⟩ := hbetween.leaf
      simp at hleaf
    simp [hnone]
  | some middle =>
    cases lower with
    | none =>
      have hnone : Harmless none (some middle) (some above.toNode) :=
        harmless_of_not_leafBetween fun path below above hbetween => by
          simpa using hbetween.below
      simp [hnone]
    | some lower =>
      obtain ⟨value, rfl⟩ | ⟨below, rfl⟩ := eq_leaf_or_group lower
      · have hleaf : Harmless (some (leaf value)) (some middle) (some above.toNode) :=
          harmless_of_not_leafBetween fun path below above hbetween =>
            bind_descend_leaf_ne_group value path below hbetween.below
        simp [hleaf, layered]
      · obtain ⟨value, rfl⟩ | ⟨between, rfl⟩ := eq_leaf_or_group middle
        -- a leaf between two groups: the one grouping keeps the upper group, the other merges both
        · have hkept : layered (layered (some below.toNode) (some (leaf value)))
              (some above.toNode) = some above.toNode := by simp [layered, onto]
          have hmerged : layered (some below.toNode) (layered (some (leaf value))
              (some above.toNode)) = some (below.merge above).toNode := by
            simp [layered, LabelTree.toNode_merge]
          rw [hkept, hmerged, harmless_leaf_iff, Option.some.injEq]
          constructor
          · intro h
            exact LabelTree.toNode_injective h.symm
          · intro h
            rw [h]
        · simp only [layered_toNode, Option.some.injEq, harmless_groups_iff, ← hlabels]
          rw [← merge_assoc_iff_layered]
          constructor
          · exact LabelTree.toNode_injective
          · intro h
            rw [h]

/-- Layers may be grouped in either way exactly if every leaf between two groups is harmless. The
induction is on the upper layer, which decides at every label what becomes of the other two. -/
theorem layered_assoc_iff (lower middle upper : Option (LabelNode α)) :
    layered (layered lower middle) upper = layered lower (layered middle upper) ↔
      Harmless lower middle upper := by
  cases upper with
  | none => exact layered_none_assoc_iff lower middle
  | some node =>
    induction node generalizing lower middle with
    | leaf value =>
      have hleaf : Harmless lower middle (some (leaf value)) :=
        harmless_of_not_leafBetween fun path below above hbetween =>
          bind_descend_leaf_ne_group value path above hbetween.above
      simp [hleaf, layered, onto]
    | group labels child ih =>
      refine layered_group_assoc_iff lower middle ⟨labels, child⟩ fun label lower middle => ?_
      by_cases hlabel : label ∈ labels
      · rw [LabelTree.get?_eq_some (t := ⟨labels, child⟩) hlabel]
        exact ih label hlabel lower middle
      · rw [LabelTree.get?_eq_none (t := ⟨labels, child⟩) hlabel]
        exact layered_none_assoc_iff lower middle

end LabelNode

/-- At a path of labels the middle tree holds a leaf, and the trees around it hold groups. A tree that
holds a node at a path holds groups all the way down to it, so no more is asked of the path. -/
def LabelTree.LeafBetween {α : Type} (lower middle upper : LabelTree α) (path : List String)
    (below above : LabelTree α) : Prop :=
  LabelNode.LeafBetween (some lower.toNode) (some middle.toNode) (some upper.toNode) path below above

/-- Layers of query trees may be merged in either grouping exactly if, wherever the middle layer holds
a leaf between two groups, the lower group adds nothing to the upper one. -/
theorem QueryTree.merge_assoc_iff_leaves_harmless (a b c : QueryTree) :
    ((a.merge b).merge c = a.merge (b.merge c) ↔ ∀ path below above,
      LabelTree.LeafBetween a b c path below above → below.merge above = above) ∧
    ((∀ path below above, ¬LabelTree.LeafBetween a b c path below above) →
      (a.merge b).merge c = a.merge (b.merge c)) ∧
    ∀ path below above, LabelTree.LeafBetween a b c path below above →
      below.merge above ≠ above → (a.merge b).merge c ≠ a.merge (b.merge c) := by
  have hlayers := LabelNode.layered_assoc_iff (some a.toNode) (some b.toNode) (some c.toNode)
  simp only [LabelNode.layered_toNode, Option.some.injEq] at hlayers
  have hassoc : (a.merge b).merge c = a.merge (b.merge c) ↔ ∀ path below above,
      LabelTree.LeafBetween a b c path below above → below.merge above = above := by
    constructor
    · intro h
      exact hlayers.mp (congrArg LabelTree.toNode h)
    · intro h
      exact LabelTree.toNode_injective (hlayers.mpr h)
  refine ⟨hassoc, fun hnone => ?_, fun path below above hbetween hadds heq => ?_⟩
  · rw [hassoc]
    intro path below above hbetween
    exact absurd hbetween (hnone path below above)
  · exact hadds (hassoc.mp heq path below above hbetween)

/-- A leaf that reads the first column of a table. -/
def firstColumn : Leaf := ⟨⟨[['1'], ['2']], by simp, by decide⟩, []⟩

/-- A tree with one property of the processors. -/
def oneReading (label : String) : QueryTree :=
  LabelTree.empty.insert "cpu" (LabelTree.empty.insert label (.leaf firstColumn)).toNode

/-- A leaf in place of the processors: merged first it takes their load away for good, and merged
second it is replaced by the temperature while the load stays. -/
theorem leaf_in_place_of_processors_matters :
    let blank : QueryTree := LabelTree.empty.insert "cpu" (.leaf firstColumn)
    ((oneReading "load").merge blank).merge (oneReading "temperature") ≠
      (oneReading "load").merge (blank.merge (oneReading "temperature")) := by
  intro blank
  have hadds : (LabelTree.empty.insert "load" (.leaf firstColumn)).merge
      (LabelTree.empty.insert "temperature" (.leaf firstColumn)) ≠
        LabelTree.empty.insert "temperature" (.leaf firstColumn) := by
    intro h
    have hload := congrArg (LabelTree.get? · "load") h
    simp [LabelTree.get?_merge] at hload
  exact (QueryTree.merge_assoc_iff_leaves_harmless (oneReading "load") blank
    (oneReading "temperature")).2.2 ["cpu"] _ _ ⟨rfl, ⟨firstColumn, rfl⟩, rfl⟩ hadds

end DevicePoll
