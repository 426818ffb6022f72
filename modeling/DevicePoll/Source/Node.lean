import DevicePoll.Source.Chain
import DevicePoll.Source.Declared

/-! Sources of properties and the chain of nodes that joins them. A node asks its class first, then
an override that is registered for the class, then the node of the parent. Only the head of a chain
asks whether a component is advertised, and only the head replaces the speeds of its interfaces. -/
namespace DevicePoll

/-- A source of properties. What is known of the identity of the device may decide its answers. -/
abbrev Source : Type 1 := (p : Property) → Identity → Poll p.Value

/-- A source that stands beside a class; it may ask the node of the parent. -/
abbrev Override : Type 1 := Option Source → Source

/-- Overrides by the name of their class. -/
abbrev Registry : Type 1 := SortedMap String Override

namespace Source

/-- A source without properties. -/
def unsupported : Source := fun p _ => Poll.fails (.unsupported p.wording)

end Source

namespace Registry

def empty : Registry := SortedMap.empty

/-- The override of a class, with the parent that it may ask. -/
def create (registry : Registry) (name : String) (parent : Option Source) : Option Source :=
  (registry.get? name).map fun override => override parent

def describe (registry : Registry) : String :=
  "OverrideRegistry \x7b classes: " ++ Text.shownList registry.keys ++ " \x7d"

end Registry

namespace Property

/-- What a node makes of a value: an identity must not be empty, and the head of a chain normalizes
the interfaces. -/
def finish (isHead : Bool) : (p : Property) → p.Value → Outcome p.Value
  | identity field, value =>
    if String.isEmpty value then Outcome.fails (.blankText (identity field).wording) else .ok value
  | interfaces, value => .ok (if isHead then List.map Interface.normalize value else value)
  | _, value => .ok value

/-- The head of a chain answers for a property only if its component is advertised. -/
def gate (p : Property) (components : Component → Bool) : Outcome Unit :=
  match p.component? with
  | none => .ok ()
  | some component =>
    if components component then .ok () else Outcome.fails (.componentAbsent component.label)

end Property

/-- The source of one node from its three sources. -/
def nodeSource (isHead : Bool) (tier : Tier) (override parent : Option Source) : Source :=
  fun p identity => do
    if isHead then Poll.ofOutcome (p.gate tier.components)
    let value ← ExceptT.mk (inOrder p.wording
      [some (tier.property p).run, override.map fun source => (source p identity).run,
        parent.map fun source => (source p identity).run])
    Poll.ofOutcome (p.finish isHead value)

/-- The node of the first of some tiers, below the head of a chain. -/
def chainSource (registry : Registry) : List Tier → Option Source
  | [] => none
  | tier :: ancestors =>
    let parent := chainSource registry ancestors
    some (nodeSource false tier (registry.create tier.name parent) parent)

/-- The head of the chain of a class. -/
def headSource (registry : Registry) (c : DeviceClass) : Source :=
  let parent := chainSource registry c.ancestors
  nodeSource true c.head (registry.create c.name parent) parent

end DevicePoll
