import DevicePoll.Override.Sap
import DevicePoll.Override.Script
import DevicePoll.Proofs.Class.Layered
import DevicePoll.Proofs.Source.Declared

/-! Unrelated labels. What a chain does for a property depends on its definitions at the path of the
property and on the leaves above that path. Everything else in the definitions can differ. -/
namespace DevicePoll

/-- The override asks its parent for no other property than the one that it answers for. -/
def Override.Local (override : Override) : Prop :=
  ∀ (p : Property) (parent parent' : Option Source),
    (parent.map fun source => source p) = (parent'.map fun source => source p) →
      override parent p = override parent' p

def Registry.Local (registry : Registry) : Prop :=
  ∀ name override, registry.get? name = some override → override.Local

theorem Sap.local_override : Sap.override.Local := by
  intro p parent parent' hparent
  funext identity
  cases p with
  | interfaces =>
    cases parent with
    | none =>
      cases parent' with
      | none => rfl
      | some source' => cases hparent
    | some source =>
      cases parent' with
      | none => cases hparent
      | some source' =>
        have hasks : source .interfaces = source' .interfaces := Option.some.inj hparent
        simp only [Sap.override, hasks]
  | _ => rfl

theorem Sap.local_defaults : Registry.Local Sap.defaults := by
  intro name override hget
  rw [Sap.defaults, SortedMap.get?_insert] at hget
  split at hget
  · obtain rfl := Option.some.inj hget
    exact Sap.local_override
  · cases hget

theorem Script.local_override (script : Script) : script.override.Local := by
  intro p parent parent' hparent
  funext identity
  unfold Script.override
  split
  · rfl
  · rfl
  · rfl
  · cases parent with
    | none =>
      cases parent' with
      | none => rfl
      | some source' => cases hparent
    | some source =>
      cases parent' with
      | none => cases hparent
      | some source' =>
        have hasks : source p = source' p := Option.some.inj hparent
        simp only [hasks]

/-- The definitions of two classes of one name hold the same node at a path, and leaves at the same
places above it. -/
structure Tier.AgreeAt (path : String) (t t' : Tier) : Prop where
  name : t.name = t'.name
  node : t.own.lookup path = t'.own.lookup path
  leaves : ∀ above, Text.IsAbove above path →
    ((∃ leaf, t.own.lookup above = some (.leaf leaf)) ↔
      ∃ leaf, t'.own.lookup above = some (.leaf leaf))

namespace Tier.AgreeAt
variable {path : String} {t t' : Tier}

theorem leafAbove_iff (h : t.AgreeAt path t') : t.own.LeafAbove path ↔ t'.own.LeafAbove path := by
  constructor
  · rintro ⟨above, leaf, habove, hleaf⟩
    obtain ⟨leaf', hleaf'⟩ := (h.leaves above habove).mp ⟨leaf, hleaf⟩
    exact ⟨above, leaf', habove, hleaf'⟩
  · rintro ⟨above, leaf, habove, hleaf⟩
    obtain ⟨leaf', hleaf'⟩ := (h.leaves above habove).mpr ⟨leaf, hleaf⟩
    exact ⟨above, leaf', habove, hleaf'⟩

theorem declares_eq (h : t.AgreeAt path t') : t.declares path = t'.declares path := by
  rw [declares, declares, h.node]

theorem node?_eq (h : t.AgreeAt path t') (htree : t.tree.lookup path = t'.tree.lookup path) :
    t.node? path = t'.node? path := by
  rw [node?, node?, h.declares_eq, htree]

end Tier.AgreeAt

/-- Along lineages whose definitions agree at a path, the merged trees agree there. -/
theorem Layered.lookup_eq {path : String} {tiers tiers' : List Tier} (h : Layered tiers)
    (h' : Layered tiers') (hagree : List.Forall₂ (Tier.AgreeAt path) tiers tiers') :
    List.Forall₂ (fun t t' => t.tree.lookup path = t'.tree.lookup path) tiers tiers' := by
  induction h generalizing tiers' with
  | root htree =>
    cases hagree with
    | cons hhead htail =>
      cases htail
      cases h' with
      | root htree' => exact .cons (by rw [htree, htree', hhead.node]) .nil
  | derived htree _ ih =>
    cases hagree with
    | cons hhead htail =>
      cases h' with
      | root _ => cases htail
      | derived htree' hbelow' =>
        have hbelow := ih hbelow' htail
        refine .cons ?_ hbelow
        cases hbelow with
        | cons hparent _ =>
          rw [htree, htree']
          exact LabelTree.lookup_merge_congr hparent hhead.node hhead.leafAbove_iff

/-- Two classes answer for a property under the same name and by the same program. -/
def Tier.SameStep (p : Property) (t t' : Tier) : Prop :=
  t.name = t'.name ∧ t.property p = t'.property p

theorem Layered.sameStep {p : Property} {tiers tiers' : List Tier} (h : Layered tiers)
    (h' : Layered tiers') (hagree : List.Forall₂ (Tier.AgreeAt p.path) tiers tiers') :
    List.Forall₂ (Tier.SameStep p) tiers tiers' := by
  have htrees := h.lookup_eq h' hagree
  clear h h'
  induction hagree with
  | nil => exact .nil
  | cons hhead _ ih =>
    cases htrees with
    | cons htree hbelow =>
      have hstep := Tier.property_congr hhead.name (hhead.node?_eq htree)
      exact .cons ⟨hhead.name, hstep⟩ (ih hbelow)

section Chain
variable {registry : Registry} {p : Property}

theorem Registry.Local.create_eq (hregistry : registry.Local) (name : String)
    {parent parent' : Option Source}
    (hparent : (parent.map fun source => source p) = (parent'.map fun source => source p)) :
    ((registry.create name parent).map fun source => source p) =
      ((registry.create name parent').map fun source => source p) := by
  rw [Registry.create, Registry.create]
  cases hget : registry.get? name with
  | none => rfl
  | some override =>
    have hanswers := hregistry name override hget p parent parent' hparent
    simp only [Option.map_some, hanswers]

/-- A node is determined, for one property, by what its class, its override and its parent do for
that property. Its components count only at the head. -/
theorem nodeSource_eq (isHead : Bool) {t t' : Tier}
    {override override' parent parent' : Option Source} (hstep : t.SameStep p t')
    (hgate : isHead = true → t.components = t'.components)
    (hoverride : (override.map fun source => source p) = (override'.map fun source => source p))
    (hparent : (parent.map fun source => source p) = (parent'.map fun source => source p)) :
    nodeSource isHead t override parent p = nodeSource isHead t' override' parent' p := by
  funext identity
  have hrun : ∀ {s s' : Option Source},
      (s.map fun source => source p) = (s'.map fun source => source p) →
        (s.map fun source => (source p identity).run) =
          (s'.map fun source => (source p identity).run) := by
    intro s s' h
    have hmap := congrArg (Option.map fun ask => (ask identity).run) h
    simpa only [Option.map_map, Function.comp_def] using hmap
  unfold nodeSource
  rw [hstep.2, hrun hoverride, hrun hparent]
  cases isHead with
  | false => rfl
  | true => rw [hgate rfl]

theorem chainSource_eq (hregistry : registry.Local) {tiers tiers' : List Tier}
    (hsteps : List.Forall₂ (Tier.SameStep p) tiers tiers') :
    ((chainSource registry tiers).map fun source => source p) =
      ((chainSource registry tiers').map fun source => source p) := by
  induction hsteps with
  | nil => rfl
  | @cons t t' ancestors ancestors' hhead _ ih =>
    have hoverride := hregistry.create_eq t.name ih
    have hnode := nodeSource_eq false hhead (by simp) hoverride ih
    rw [chainSource, chainSource, Option.map_some, Option.map_some, ← hhead.1]
    exact congrArg some hnode

end Chain

/-- Unrelated labels never interfere. If the definitions along two chains agree at the path of a
property, the heads of the chains run the same program for it: against every device they issue the
same reads and come to the same outcome. -/
theorem unrelated_labels_never_interfere {registry : Registry} (hregistry : registry.Local)
    {c c' : DeviceClass} (hc : c.Constructed) (hc' : c'.Constructed)
    (hflags : c.hasComponent = c'.hasComponent) (p : Property)
    (hagree : List.Forall₂ (Tier.AgreeAt p.path) c.tiers c'.tiers) (identity : Identity) :
    headSource registry c p identity = headSource registry c' p identity := by
  have hsteps := hc.layered.sameStep hc'.layered hagree
  rw [DeviceClass.tiers, DeviceClass.tiers] at hsteps
  cases hsteps with
  | cons hhead hancestors =>
    have hparent := chainSource_eq hregistry hancestors
    have hoverride := hregistry.create_eq c.head.name hparent
    have hcomponents : c.head.components = c'.head.components := hflags
    have hnode := nodeSource_eq true hhead (fun _ => hcomponents) hoverride hparent
    have hname : c.name = c'.name := hhead.1
    rw [headSource, headSource, ← hname]
    exact congrFun hnode identity

/-- A class below a root, each with its own definition. -/
def sasBelow (root own : QueryTree) : DeviceClass :=
  (DeviceClass.root "timos" root fun _ => none).derive "timos/sas" own fun _ => none

/-- A definition of the identity alone, with a leaf for each of some fields. -/
def identityTree (fields : List IdentityField) : QueryTree :=
  LabelTree.empty.insert "identify"
    (LabelTree.ofList (fields.map fun field => (field.label, .leaf ⟨Sap.tableOid, []⟩))).toNode

theorem model_leaf_leaves_vendor_alone :
    let plain := sasBelow (identityTree [.vendor]) (identityTree [])
    let extended := sasBelow (identityTree [.vendor]) (identityTree [.model])
    plain.declares "identify.model" = false ∧ extended.declares "identify.model" = true ∧
      Registry.Local Sap.defaults ∧ plain.Constructed ∧ extended.Constructed ∧
      plain.hasComponent = extended.hasComponent ∧
      List.Forall₂ (Tier.AgreeAt (Property.identity .vendor).path) plain.tiers extended.tiers ∧
      headSource Sap.defaults plain (.identity .vendor) (fun _ => none) =
        headSource Sap.defaults extended (.identity .vendor) (fun _ => none) := by
  intro plain extended
  have hplain : plain.Constructed := .derive _ _ _ (.root _ _ _)
  have hextended : extended.Constructed := .derive _ _ _ (.root _ _ _)
  have hagree : List.Forall₂ (Tier.AgreeAt (Property.identity .vendor).path) plain.tiers
      extended.tiers := by
    refine .cons ⟨rfl, rfl, fun above habove => ?_⟩ (.cons ⟨rfl, rfl, fun _ _ => Iff.rfl⟩ .nil)
    obtain rfl := Text.eq_of_isAbove_pair habove rfl
    constructor
    · rintro ⟨leaf, hleaf⟩
      cases hleaf
    · rintro ⟨leaf, hleaf⟩
      cases hleaf
  exact ⟨rfl, rfl, Sap.local_defaults, hplain, hextended, rfl, hagree,
    unrelated_labels_never_interfere Sap.local_defaults hplain hextended rfl
      (.identity .vendor) hagree (fun _ => none)⟩

end DevicePoll
