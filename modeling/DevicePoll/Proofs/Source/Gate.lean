import DevicePoll.Communicator
import DevicePoll.Override.Script
import DevicePoll.Proofs.Reading.Rounds
import DevicePoll.Proofs.Source.Declared

/-! Components that a class does not advertise. The head of a chain refuses the properties of such a
component before it looks at any source, whatever the sources are. The nodes below the head refuse
nothing: what they come to is a function of names and definitions alone. -/
namespace DevicePoll

open Reading

namespace Property

/-- Class definitions hold the property under the name of the component. -/
def BelongsTo (p : Property) (component : Component) : Prop :=
  p.labels.head? = some component.label

instance (p : Property) (component : Component) : Decidable (p.BelongsTo component) := by
  unfold BelongsTo
  infer_instance

/-- A property is gated by the component that it belongs to, and by no other one. -/
theorem component?_eq_some_iff (p : Property) (component : Component) :
    p.component? = some component ↔ p.BelongsTo component := by
  have hall : ∀ p ∈ all, ∀ component ∈ Component.all,
      p.component? = some component ↔ p.BelongsTo component := by decide +kernel
  exact hall p p.mem_all component component.mem_all

/-- The listing and the table of interfaces belong to the interfaces, and every field of another
component belongs to that component. -/
theorem belongsTo_iff (p : Property) (component : Component) :
    p.BelongsTo component ↔ p ∈ component.fields ∨
      component = .interfaces ∧ (p = .interfaces ∨ p = .interfaceTable) := by
  have hall : ∀ p ∈ all, ∀ component ∈ Component.all, p.BelongsTo component ↔
      p ∈ component.fields ∨ component = .interfaces ∧ (p = .interfaces ∨ p = .interfaceTable) := by
    decide +kernel
  exact hall p p.mem_all component component.mem_all

theorem gate_eq_absent {p : Property} {component : Component} {components : Component → Bool}
    (hp : p.BelongsTo component) (h : components component = false) :
    p.gate components = Outcome.fails (.componentAbsent component.label) := by
  have hcomponent : p.component? = some component := (p.component?_eq_some_iff component).mpr hp
  simp [gate, hcomponent, h]

end Property

/-- The failure of what belongs to a component that is not advertised. -/
def Component.absence (component : Component) : Failure := .because (.componentAbsent component.label)

/-! ### Nodes below the head -/

/-- Two classes that differ in nothing but the components that they advertise. -/
structure Tier.SameButFlags (tier other : Tier) : Prop where
  name : tier.name = other.name
  own : tier.own = other.own
  tree : tier.tree = other.tree

namespace Tier
variable {tier other : Tier}

theorem SameButFlags.property_eq (h : tier.SameButFlags other) (p : Property) :
    tier.property p = other.property p := by
  apply property_congr h.name
  rw [node?, node?, declares, declares, h.own, h.tree]

/-- A node that is not the head does not look at what its class advertises. -/
theorem SameButFlags.nodeSource_eq (h : tier.SameButFlags other) (override parent : Option Source) :
    nodeSource false tier override parent = nodeSource false other override parent := by
  funext p identity
  simp only [nodeSource, Bool.false_eq_true, ↓reduceIte, h.property_eq p]

end Tier

/-- What a chain below the head comes to does not depend on what its classes advertise. -/
theorem chainSource_congr (registry : Registry) {tiers others : List Tier}
    (h : List.Forall₂ Tier.SameButFlags tiers others) :
    chainSource registry tiers = chainSource registry others := by
  induction h with
  | nil => rfl
  | cons hhead _ ih => simp only [chainSource, ih, hhead.name, hhead.nodeSource_eq]

namespace Communicator
variable {c : Communicator} {component : Component}

/-! ### The head -/

theorem head_run_of_absent (h : c.advertises component = false) {p : Property}
    (hp : p.BelongsTo component) (identity : Identity) :
    (c.head p identity).run = .done (.error component.absence) := by
  have hgate : p.gate c.deviceClass.head.components =
      Outcome.fails (.componentAbsent component.label) := Property.gate_eq_absent hp h
  simp only [head, headSource, nodeSource, ↓reduceIte, hgate]
  rfl

theorem component_run_of_absent (h : c.advertises component = false) (identity : Identity) :
    (c.component identity component).run = .done (.error component.absence) := by
  by_cases hinterfaces : component = .interfaces
  · subst hinterfaces
    have hhead := head_run_of_absent h (p := .interfaces) rfl identity
    rw [Communicator.component, if_pos rfl, ExceptT.run_map, interfaces, hhead]
    rfl
  · have hclosed : ¬c.advertises component = true := by simp [h]
    rw [Communicator.component, if_neg hinterfaces, ExceptT.run_map, fields, if_neg hclosed]
    rfl

/-- A component that the head class does not advertise is refused before anything is asked, and so is
every property that belongs to it, whatever the registered overrides are: the program is over before
it starts, so that no run of it, not even one that is cancelled from its start, sees a read. At the
nodes below the head the same properties do not depend on what any class advertises. -/
theorem unadvertised_component_is_refused (c : Communicator) (component : Component)
    (identity : Identity) :
    (c.advertises component = false →
      component.absence.kind = .componentNotFound ∧
      (c.component identity component).run = .done (.error component.absence) ∧
      (∀ p : Property, p.BelongsTo component →
        (c.head p identity).run = .done (.error component.absence)) ∧
      ∀ (client : Client) (limits : Limits) (rounds : Nat) (meter : Meter),
        runWithin client limits rounds (c.component identity component).run meter =
          (.error component.absence, meter) ∧
        ∀ p : Property, p.BelongsTo component →
          runWithin client limits rounds (c.head p identity).run meter =
            (.error component.absence, meter)) ∧
    (∀ p : Property, p.BelongsTo component ↔ p ∈ component.fields ∨
      component = .interfaces ∧ (p = .interfaces ∨ p = .interfaceTable)) ∧
    ∀ other : Communicator, other.registry = c.registry →
      List.Forall₂ Tier.SameButFlags c.deviceClass.ancestors other.deviceClass.ancestors →
      ∀ n, c.nodeBelow (n + 1) = other.nodeBelow (n + 1) := by
  refine ⟨fun habsent => ?_, fun p => p.belongsTo_iff component,
    fun other hregistry hancestors n => ?_⟩
  · have hcomponent := component_run_of_absent habsent identity
    have hhead := fun p hp => head_run_of_absent habsent (p := p) hp identity
    refine ⟨rfl, hcomponent, hhead, fun client limits rounds meter => ⟨?_, fun p hp => ?_⟩⟩
    · rw [hcomponent, runWithin_done]
    · rw [hhead p hp, runWithin_done]
  · rw [nodeBelow, nodeBelow, hregistry]
    exact chainSource_congr c.registry (List.forall₂_drop n hancestors)

end Communicator

/-- A class that advertises its processors or does not, below one that does. -/
def mutedHost : DeviceClass :=
  let flags (shown : Bool) : Component → Option Bool := fun component =>
    if component = .cpu then some shown else none
  (DeviceClass.root "loud" LabelTree.empty (flags true)).derive "muted" LabelTree.empty (flags false)

/-- Answers that know the load of processors. -/
def knownLoad : Script := fun p =>
  match p with
  | .cpuLoad => some (.value [])
  | _ => none

namespace Communicator

/-- The override of the class knows the load, and is not asked for it. The node of the parent stays the
same when the parent stops to advertise its processors. -/
theorem muted_host_refuses_processors :
    let c : Communicator := ⟨mutedHost, Registry.empty.insert "muted" knownLoad.override⟩
    let mutedAbove : Communicator :=
      ⟨⟨mutedHost.head, [⟨"loud", LabelTree.empty, LabelTree.empty, fun _ => false⟩]⟩, c.registry⟩
    let cancelled : Limits := ⟨1, Nat.one_pos, some 0, none⟩
    let client : Client := ⟨fun request => Outcome.fails (.noObject request.oid.absolute),
      fun _ => 0⟩
    c.advertises .cpu = false ∧
      runWithin client cancelled 8 (c.head .cpuLoad IdentityField.schema.blank).run Meter.zero =
        (.error Component.cpu.absence, Meter.zero) ∧
      c.nodeBelow 1 = mutedAbove.nodeBelow 1 := by
  intro c mutedAbove cancelled client
  obtain ⟨hrefused, -, hbelow⟩ :=
    unadvertised_component_is_refused c .cpu IdentityField.schema.blank
  obtain ⟨-, -, -, hruns⟩ := hrefused rfl
  have hancestors : List.Forall₂ Tier.SameButFlags c.deviceClass.ancestors
      mutedAbove.deviceClass.ancestors := .cons ⟨rfl, rfl, rfl⟩ .nil
  exact ⟨rfl, (hruns client cancelled 8 Meter.zero).2 .cpuLoad rfl, hbelow mutedAbove rfl hancestors 0⟩

end Communicator
end DevicePoll
