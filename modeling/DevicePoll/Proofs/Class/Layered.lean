import DevicePoll.Proofs.Class.Construction
import DevicePoll.Proofs.LabelTree.Merge

/-! Merged trees along a lineage. The tree of each class is that of its parent with its own
definition over it, so what a class holds at a path comes from the nearest class that declares the
path, unless a nearer one holds a leaf above it. -/
namespace DevicePoll

theorem Tier.declares_eq_false_iff {tier : Tier} {path : String} :
    tier.declares path = false ↔ tier.own.lookup path = none := by
  rw [Tier.declares, Option.isSome_eq_false_iff, Option.isNone_iff_eq_none]

theorem Tier.declares_of_own {tier : Tier} {path : String} {own : QueryNode}
    (h : tier.own.lookup path = some own) : tier.declares path = true := by
  rw [Tier.declares, h]
  rfl

/-- Every tier merges its own definition over the tree of the tier after it. -/
inductive Layered : List Tier → Prop where
  | root {tier : Tier} : tier.tree = tier.own → Layered [tier]
  | derived {tier parent : Tier} {ancestors : List Tier} :
      tier.tree = parent.tree.merge tier.own → Layered (parent :: ancestors) →
      Layered (tier :: parent :: ancestors)

/-- A class is made as a root or below a class that is made already, and in no other way. -/
inductive DeviceClass.Constructed : DeviceClass → Prop where
  | root (name : String) (own : QueryTree) (flags : Component → Option Bool) :
      Constructed (root name own flags)
  | derive {parent : DeviceClass} (name : String) (own : QueryTree)
      (flags : Component → Option Bool) : Constructed parent →
      Constructed (parent.derive name own flags)

theorem DeviceClass.Constructed.layered {c : DeviceClass} (h : c.Constructed) :
    Layered c.tiers := by
  induction h with
  | root name own flags => exact .root rfl
  | derive name own flags _ ih => exact .derived rfl ih

theorem Builds.constructed {overlays : List ClassOverlay} {o : ClassOverlay} {c : DeviceClass}
    (h : Builds overlays o c) : c.Constructed := by
  induction h with
  | root _ _ hc =>
    obtain ⟨own, -, rfl⟩ := ofOverlay_eq_ok hc
    exact .root _ own _
  | derived _ _ _ hc ih =>
    obtain ⟨own, -, rfl⟩ := ofOverlay_eq_ok hc
    exact .derive _ own _ ih

theorem Catalog.constructed_of_get? {overlays : List ClassOverlay} {catalog : Catalog}
    (h : ofOverlays overlays = .ok catalog) {name : String} {c : DeviceClass}
    (hget : catalog.get? name = some c) : c.Constructed := by
  obtain ⟨o, -, -, hbuilds⟩ := (get?_ofOverlays h).mp hget
  exact hbuilds.constructed

namespace Layered
variable {tier parent : Tier} {ancestors : List Tier} {path : String}

theorem tail (h : Layered (tier :: parent :: ancestors)) : Layered (parent :: ancestors) := by
  cases h with
  | derived _ htail => exact htail

theorem lookup_of_own (h : Layered (tier :: ancestors)) {own : QueryNode}
    (hown : tier.own.lookup path = some own) : ∃ node, tier.tree.lookup path = some node := by
  cases h with
  | root htree =>
    rw [htree]
    exact ⟨own, hown⟩
  | derived htree _ =>
    rw [htree, LabelTree.lookup_merge_of_some hown]
    exact ⟨_, rfl⟩

theorem own_eq_none (h : Layered (tier :: ancestors)) (hnone : tier.tree.lookup path = none) :
    tier.own.lookup path = none := by
  cases hown : tier.own.lookup path with
  | none => rfl
  | some own =>
    obtain ⟨node, hnode⟩ := h.lookup_of_own hown
    rw [hnode] at hnone
    cases hnone

theorem lookup_of_leafAbove (h : Layered (tier :: ancestors)) (habove : tier.own.LeafAbove path) :
    tier.tree.lookup path = none := by
  cases h with
  | root htree =>
    rw [htree]
    exact LabelTree.lookup_of_leafAbove habove
  | derived htree _ =>
    rw [htree]
    exact LabelTree.lookup_merge_of_leafAbove habove

theorem lookup_of_open (h : Layered (tier :: parent :: ancestors))
    (hown : tier.own.lookup path = none) (hopen : ¬tier.own.LeafAbove path) :
    tier.tree.lookup path = parent.tree.lookup path := by
  cases h with
  | derived htree _ =>
    rw [htree]
    exact LabelTree.lookup_merge_of_none hown hopen

/-- A node of the merged tree is the one that the nearest declaring class finds in its own merged
tree. -/
theorem exists_nearest (h : Layered (tier :: ancestors)) {node : QueryNode}
    (hnode : tier.tree.lookup path = some node) :
    ∃ nearer d farther, tier :: ancestors = nearer ++ d :: farther ∧
      (∀ t ∈ nearer, t.declares path = false) ∧ d.declares path = true ∧
      d.tree.lookup path = some node := by
  induction ancestors generalizing tier with
  | nil =>
    cases h with
    | root htree =>
      have hdeclares : tier.declares path = true := Tier.declares_of_own (htree ▸ hnode)
      exact ⟨[], tier, [], rfl, by simp, hdeclares, hnode⟩
  | cons parent ancestors ih =>
    cases hown : tier.own.lookup path with
    | some own =>
      have hdeclares : tier.declares path = true := Tier.declares_of_own hown
      exact ⟨[], tier, parent :: ancestors, rfl, by simp, hdeclares, hnode⟩
    | none =>
      have hopen : ¬tier.own.LeafAbove path := by
        intro habove
        rw [h.lookup_of_leafAbove habove] at hnode
        cases hnode
      rw [h.lookup_of_open hown hopen] at hnode
      obtain ⟨nearer, d, farther, hsplit, hnearer, hd, hlookup⟩ := ih h.tail hnode
      refine ⟨tier :: nearer, d, farther, by rw [hsplit]; rfl, ?_, hd, hlookup⟩
      intro t ht
      rcases List.mem_cons.mp ht with rfl | ht
      · exact Tier.declares_eq_false_iff.mpr hown
      · exact hnearer t ht

/-- A path that the merged tree does not hold is declared nowhere, if no leaf hides it. -/
theorem not_declares (h : Layered (tier :: ancestors)) (hnone : tier.tree.lookup path = none)
    (hopen : ∀ t ∈ tier :: ancestors, ¬t.own.LeafAbove path) :
    ∀ t ∈ tier :: ancestors, t.declares path = false := by
  induction ancestors generalizing tier with
  | nil =>
    intro t ht
    obtain rfl := List.mem_singleton.mp ht
    exact Tier.declares_eq_false_iff.mpr (h.own_eq_none hnone)
  | cons parent ancestors ih =>
    have hown := h.own_eq_none hnone
    rw [h.lookup_of_open hown (hopen tier List.mem_cons_self)] at hnone
    intro t ht
    rcases List.mem_cons.mp ht with rfl | ht
    · exact Tier.declares_eq_false_iff.mpr hown
    · exact ih h.tail hnone (fun u hu => hopen u (List.mem_cons_of_mem _ hu)) t ht

end Layered
end DevicePoll
