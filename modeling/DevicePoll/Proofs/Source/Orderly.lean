import DevicePoll.Override.Sap
import DevicePoll.Override.Script
import DevicePoll.Proofs.Query.Prompt
import DevicePoll.Snapshot

/-! Calls are orderly. Whatever a class reads, a chain tries one source after another; only the labels of
a group drop one another, and all else that runs side by side is carried to its end. So every call is
orderly as long as the registered overrides are and the trees of the class are prompt. -/
namespace DevicePoll

open Reading

namespace Poll

/-- Only flat groups of the program drop one another, if any may do so. -/
def Orderly (races : Prop) {α : Type} (p : Poll α) : Prop := p.run.Orderly races

namespace Orderly
variable {races : Prop} {α β : Type}

theorem ofOutcome (outcome : Outcome α) : (Poll.ofOutcome outcome).Orderly races := .done outcome

theorem fails (cause : Failure.Cause) : (Poll.fails cause : Poll α).Orderly races := ofOutcome _

theorem pure (value : α) : (Pure.pure value : Poll α).Orderly races := ofOutcome (.ok value)

theorem request (q : Request) : (Poll.request q).Orderly races := .read fun reply => .done reply

theorem mapOutcome {p : Poll α} (h : p.Orderly races) (f : Outcome α → Outcome β) :
    (p.mapOutcome f).Orderly races := h.map f

theorem map {p : Poll α} (h : p.Orderly races) (f : α → β) : (f <$> p).Orderly races := by
  rw [Orderly, ExceptT.run_map]
  exact Reading.Orderly.map h _

theorem bind {p : Poll α} {f : α → Poll β} (h : p.Orderly races)
    (hf : ∀ value, (f value).Orderly races) : (p >>= f).Orderly races := by
  refine Reading.Orderly.bind h fun outcome => ?_
  cases outcome with
  | ok value => exact hf value
  | error failure => exact .done _

end Orderly
end Poll

/-! ### What a class reads -/

section Class
variable {races : Prop}

theorem Leaf.orderly_read (leaf : Leaf) : leaf.read.Orderly races := (Poll.Orderly.request _).mapOutcome _

theorem QueryTree.orderly_readAll {tree : QueryTree} (h : tree.Prompt) (allowed : races) :
    tree.readAll.Orderly races := (flat_readAll h).orderly allowed

namespace Tier

/-- The groups where properties are found are read promptly. -/
def Prompt (tier : Tier) : Prop :=
  ∀ (p : Property) (tree : QueryTree), tier.groupAt p.path = .ok tree → tree.Prompt

theorem orderly_column (tier : Tier) (path : String) : (tier.column path).Orderly races := by
  refine (Poll.Orderly.ofOutcome _).bind fun leaf => leaf.orderly_read.bind fun values => ?_
  split
  · exact .fails _
  · exact .pure _

/-- A scalar or a list is one read. -/
theorem orderly_scalar (tier : Tier) (path : String) (type : ScalarType) :
    (tier.scalar path type).Orderly races := by
  refine (tier.orderly_column path).bind fun values => ?_
  cases values with
  | nil => exact .fails _
  | cons value _ => exact .ofOutcome _

theorem orderly_reals (tier : Tier) (path : String) : (tier.reals path).Orderly races :=
  (tier.orderly_column path).bind fun _ => .ofOutcome _

theorem orderly_rows {tier : Tier} {path : String}
    (h : ∀ tree, tier.groupAt path = .ok tree → tree.Prompt) (allowed : races) :
    (tier.rows path).Orderly races := by
  cases hgroup : tier.groupAt path with
  | error failure =>
    rw [rows, hgroup]
    exact .done _
  | ok tree =>
    have htree := QueryTree.orderly_readAll (h tree hgroup) allowed
    rw [rows, hgroup]
    change Poll.Orderly races (tree.readAll >>= _)
    refine htree.bind fun rows => ?_
    split
    · exact .fails _
    · exact .pure _

theorem orderly_property {tier : Tier} (h : tier.Prompt) (allowed : races) (p : Property) :
    (tier.property p).Orderly races := by
  change Poll.Orderly races (tier.readForm p.path p.form)
  cases p.form with
  | scalar type => exact tier.orderly_scalar p.path type
  | reals => exact tier.orderly_reals p.path
  | interfaces => exact (orderly_rows (h p) allowed).bind fun rows => .ofOutcome _
  | table schema => exact (orderly_rows (h p) allowed).bind fun rows => .ofOutcome _

/-- A group of a prompt tree is prompt. -/
theorem prompt_of_tree {tier : Tier} (h : tier.tree.Prompt) : tier.Prompt := by
  intro p tree hgroup
  rw [groupAt, node?] at hgroup
  split at hgroup
  · next labels child hfound =>
    obtain rfl := Except.ok.inj hgroup
    split at hfound
    · exact QueryNode.Prompt.descend h hfound
    · cases hfound
  · cases hgroup
  · cases hgroup

end Tier
end Class

/-- The class and its ancestors read their properties promptly. -/
def DeviceClass.Prompt (c : DeviceClass) : Prop := ∀ tier ∈ c.tiers, tier.Prompt

/-! ### Chains of sources -/

/-- Groups of labels are all that races in what the source reads. -/
def Source.Orderly (source : Source) : Prop :=
  ∀ (p : Property) (identity : Identity), (source p identity).Orderly True

/-- The override is orderly beside every parent that is. -/
def Override.Orderly (override : Override) : Prop :=
  ∀ parent : Option Source, (∀ source, parent = some source → source.Orderly) →
    Source.Orderly (override parent)

def Registry.Orderly (registry : Registry) : Prop :=
  ∀ name override, registry.get? name = some override → Override.Orderly override

/-- Sources that are tried one after another. -/
theorem orderly_tryFrom {α : Type} (property : String) {sources : List (Reading (Outcome α))}
    (h : ∀ source ∈ sources, source.Orderly True) (foundNothing : Bool) :
    (tryFrom property foundNothing sources).Orderly True := by
  induction sources generalizing foundNothing with
  | nil => exact .done _
  | cons source rest ih =>
    obtain ⟨hhead, htail⟩ := List.forall_mem_cons.mp h
    refine hhead.bind fun outcome => ?_
    cases outcome with
    | ok value => exact .done _
    | error failure =>
      dsimp only
      split
      · exact ih htail _
      · exact ih htail _
      · exact .done _

theorem orderly_nodeSource (isHead : Bool) {tier : Tier} (htier : tier.Prompt)
    {override parent : Option Source} (hoverride : ∀ source, override = some source → source.Orderly)
    (hparent : ∀ source, parent = some source → source.Orderly) :
    (nodeSource isHead tier override parent).Orderly := by
  intro p identity
  have hsources : ∀ source ∈ [some (tier.property p).run,
      override.map fun source => (source p identity).run,
      parent.map fun source => (source p identity).run].filterMap id, source.Orderly True := by
    intro asked hasked
    obtain ⟨found, hfound, hsome⟩ := List.mem_filterMap.mp hasked
    simp only [List.mem_cons, List.not_mem_nil, or_false] at hfound
    obtain rfl | rfl | rfl := hfound
    · obtain rfl := Option.some.inj hsome
      exact tier.orderly_property htier trivial p
    · obtain ⟨source, hsource, rfl⟩ := Option.map_eq_some_iff.mp hsome
      exact hoverride source hsource p identity
    · obtain ⟨source, hsource, rfl⟩ := Option.map_eq_some_iff.mp hsome
      exact hparent source hsource p identity
  have hvalue : Poll.Orderly True (ExceptT.mk (inOrder p.wording [some (tier.property p).run,
      override.map fun source => (source p identity).run,
      parent.map fun source => (source p identity).run])) := orderly_tryFrom _ hsources false
  have hrest := hvalue.bind fun value => .ofOutcome (p.finish isHead value)
  unfold nodeSource
  split
  · exact (Poll.Orderly.ofOutcome _).bind fun _ => hrest
  · exact hrest

namespace Registry
variable {registry : Registry}

theorem orderly_empty : Registry.empty.Orderly := by
  intro name override h
  rw [Registry.empty, SortedMap.get?_empty] at h
  cases h

theorem Orderly.insert (h : registry.Orderly) {name : String} {override : Override}
    (hoverride : override.Orderly) : Registry.Orderly (SortedMap.insert registry name override) := by
  intro other found hfound
  rw [SortedMap.get?_insert] at hfound
  split at hfound
  · cases hfound
    exact hoverride
  · exact h other found hfound

theorem Orderly.create (h : registry.Orderly) (name : String) {parent : Option Source}
    (hparent : ∀ source, parent = some source → source.Orderly) :
    ∀ source, registry.create name parent = some source → source.Orderly := by
  intro source hsource
  obtain ⟨override, hoverride, rfl⟩ := Option.map_eq_some_iff.mp hsource
  exact h name override hoverride parent hparent

theorem Orderly.chainSource (h : registry.Orderly) {tiers : List Tier}
    (htiers : ∀ tier ∈ tiers, tier.Prompt) :
    ∀ source, chainSource registry tiers = some source → source.Orderly := by
  induction tiers with
  | nil => exact nofun
  | cons tier ancestors ih =>
    intro source hsource
    obtain rfl := Option.some.inj hsource
    obtain ⟨htier, hancestors⟩ := List.forall_mem_cons.mp htiers
    have hparent := ih hancestors
    exact orderly_nodeSource false htier (h.create tier.name hparent) hparent

theorem Orderly.headSource (h : registry.Orderly) {deviceClass : DeviceClass}
    (hclass : deviceClass.Prompt) : (headSource registry deviceClass).Orderly := by
  obtain ⟨hhead, hancestors⟩ := List.forall_mem_cons.mp hclass
  have hparent := h.chainSource hancestors
  exact orderly_nodeSource true hhead (h.create deviceClass.name hparent) hparent

end Registry

/-! ### Overrides -/

theorem Source.orderly_unsupported : Source.unsupported.Orderly := fun _ _ => .fails _

theorem Script.orderly_override (script : Script) : script.override.Orderly := by
  intro parent hparent p identity
  unfold Script.override
  split
  · exact Source.orderly_unsupported p identity
  · exact .ofOutcome _
  · exact .ofOutcome _
  · cases parent with
    | none => exact .ofOutcome _
    | some source => exact hparent source rfl p identity

namespace Sap

section Attach
variable {races : Prop}

theorem orderly_counter (column : Oid) (i : Index) : (counter column i).Orderly races :=
  (Poll.Orderly.ofOutcome _).bind fun _ => (Poll.Orderly.request _).mapOutcome _

theorem orderly_counters (i : Index) : (counters i).Orderly races :=
  ((orderly_counter inboundOid i).alternate (orderly_counter outboundOid i)).map _

theorem orderly_attachAll (responses : List Response) (interfaces : List Interface) :
    (attachAll responses interfaces).Orderly races := by
  induction responses generalizing interfaces with
  | nil => exact .pure interfaces
  | cons response rest ih =>
    refine (Poll.Orderly.ofOutcome _).bind fun sap => (Poll.Orderly.ofOutcome _).bind fun index => ?_
    split
    · exact (orderly_counters sap).bind fun found => ih _
    · exact .fails _

/-- The counters of an access point are read side by side, each to its end. -/
theorem orderly_attach (interfaces : List Interface) : (attach interfaces).Orderly races :=
  ((Poll.Orderly.request _).mapOutcome _).bind fun responses =>
    orderly_attachAll responses interfaces

end Attach

theorem orderly_override : Sap.override.Orderly := by
  intro parent hparent p identity
  cases p with
  | interfaces =>
    cases parent with
    | none => exact .fails _
    | some source => exact (hparent source rfl .interfaces identity).bind orderly_attach
  | _ => exact Source.orderly_unsupported _ identity

theorem orderly_defaults : Sap.defaults.Orderly := Registry.orderly_empty.insert orderly_override

end Sap

/-! ### Devices -/

namespace Communicator
variable {c : Communicator} (hregistry : c.registry.Orderly) (hclass : c.deviceClass.Prompt)
  (known : Identity)
include hregistry hclass

theorem orderly_head (p : Property) : (c.head p known).Orderly True :=
  hregistry.headSource hclass p known

theorem orderly_identifyFrom (initial : Identity) (fields : List IdentityField) :
    (c.identifyFrom initial fields known).Orderly True := by
  induction fields generalizing known with
  | nil => exact .pure known
  | cons field rest ih =>
    refine ((orderly_head hregistry hclass _ _).mapOutcome _).bind fun found => ?_
    cases found with
    | none => exact ih known
    | some value => exact ih _

theorem orderly_answers (properties : List Property) : (c.answers known properties).Orderly True := by
  refine .inTurns fun x hx => ?_
  obtain ⟨p, -, rfl⟩ := List.mem_map.mp hx
  exact Reading.Orderly.map (orderly_head hregistry hclass known p) _

theorem orderly_fields (component : Component) : (c.fields known component).Orderly True := by
  unfold fields
  split
  · exact (orderly_answers hregistry hclass known component.fields).map _
  · exact .fails _

theorem orderly_component (component : Component) : (c.component known component).Orderly True := by
  unfold Communicator.component
  split
  · exact Poll.Orderly.map (orderly_head hregistry hclass known .interfaces) _
  · exact Poll.Orderly.map (orderly_fields hregistry hclass known component) _

theorem orderly_poll : (c.poll known).Orderly True := by
  refine (orderly_identifyFrom hregistry hclass _ known _).bind fun identity => ?_
  refine Reading.Orderly.map (.alternate (orderly_head hregistry hclass identity .interfaces) (.all ?_)) _
  intro x hx
  obtain ⟨component, -, rfl⟩ := List.mem_map.mp hx
  exact Reading.Orderly.map (orderly_fields hregistry hclass identity component) _

end Communicator
end DevicePoll
