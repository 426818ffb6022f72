import DevicePoll.Communicator
import DevicePoll.Reading.Together

/-! Polls of a whole device: its identity first, and then the interfaces and every other advertised
component side by side. What is unavailable is left out, and any other failure fails the poll. -/
namespace DevicePoll

/-- Everything that one poll reads from a device. -/
structure Snapshot where
  className : String
  identity : Identity
  interfaces : Option (List Interface)
  components : (component : Component) → Option component.schema.Record

/-- A value, or nothing when it is unavailable. -/
def available {α : Type} : Outcome α → Outcome (Option α)
  | .ok value => .ok (some value)
  | .error failure => if failure.kind.isUnavailable then .ok none else .error failure

/-- Outcomes of components, each with its component. -/
abbrev ComponentOutcomes : Type :=
  List ((component : Component) × Outcome component.schema.Record)

namespace ComponentOutcomes

/-- The records of the components that are available. The first failure of another kind is the
failure of all. -/
def records : ComponentOutcomes → Outcome ((component : Component) → Option component.schema.Record)
  | [] => .ok fun _ => none
  | ⟨component, outcome⟩ :: rest =>
    match available outcome with
    | .error failure => .error failure
    | .ok found => (records rest).map fun others other =>
      if h : component = other then h ▸ found else others other

end ComponentOutcomes

namespace Communicator

/-- The components that are polled beside the interfaces. -/
def polled (c : Communicator) : List Component :=
  c.deviceClass.components.filter fun component => component ≠ .interfaces

/-- The snapshot from the outcomes of the interfaces and of the components. -/
def snapshot (c : Communicator) (identity : Identity) (interfaces : Outcome (List Interface))
    (components : ComponentOutcomes) : Outcome Snapshot :=
  match available interfaces with
  | .error failure => .error failure
  | .ok interfaces => components.records.map fun components =>
    ⟨c.deviceClass.name, identity, interfaces, components⟩

def poll (c : Communicator) (initial : Identity) : Poll Snapshot := do
  let identity ← c.identify initial
  ExceptT.mk (Reading.alternate (c.interfaces identity).run
    (Reading.all (c.polled.map fun component => (c.fields identity component).run >>= fun outcome =>
      .done ⟨component, outcome⟩)) >>= fun pair =>
    .done (c.snapshot identity pair.1 pair.2))

end Communicator

/-- A device that is polled together with others: its communicator, what answers for it, the limits
of its poll, and what is known of its identity before. -/
structure Target where
  communicator : Communicator
  client : Client
  limits : Limits
  identity : Identity

namespace Target

def job (t : Target) : Reading.Job (Outcome Snapshot) :=
  ⟨t.client, t.limits, (t.communicator.poll t.identity).run⟩

/-- Polls independent devices at once. -/
def pollAll (targets : List Target) : List (Outcome Snapshot) :=
  Reading.runTogether (targets.map job)

end Target

namespace Snapshot

def write (s : Snapshot) : Document :=
  let interfaces := match s.interfaces with
    | none => []
    | some rows => [("interfaces", Document.list (rows.map InterfaceField.schema.write))]
  let components := Component.all.filterMap fun component =>
    (s.components component).map fun record =>
      (component.label, (ComponentRecord.fields component record).write)
  .object ([("class", .text s.className), ("properties", IdentityField.schema.write s.identity)] ++
    interfaces ++ [("components", .object components)])

end Snapshot
end DevicePoll
