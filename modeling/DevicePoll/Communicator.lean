import DevicePoll.Class.Catalog
import DevicePoll.Source.Node

/-! The communicator of a device: the chain of its class, what it tells of the identity of the
device, and the components that it puts together from their properties. -/
namespace DevicePoll

structure Communicator where
  deviceClass : DeviceClass
  registry : Registry

namespace Component

/-- The properties that make up a component; interfaces are a listing of their own. -/
def fields (component : Component) : List Property :=
  if component = interfaces then [] else Property.all.filter fun p => p.component? = some component

def recordName : Component → String
  | interfaces => "Interfaces"
  | cpu => "CpuComponent"
  | memory => "MemoryComponent"
  | ups => "UpsComponent"
  | sbc => "SbcComponent"
  | server => "ServerComponent"
  | disk => "DiskComponent"
  | hardwareHealth => "HardwareHealthComponent"

/-- The records of a component, with a field for each of its properties. -/
@[reducible] def schema (component : Component) : Schema where
  name := component.recordName
  Field := { p : Property // p ∈ component.fields }
  decEq := inferInstance
  fields := component.fields.attach
  complete field := List.mem_attach _ field
  label field := field.1.label
  format field := field.1.form.format
  isShown _ := component ≠ cpu ∧ component ≠ memory

end Component

/-- Outcomes of properties, each with its property. -/
abbrev Answers : Type := List ((p : Property) × Outcome p.Value)

/-- Values of properties, each with its property. -/
abbrev Values : Type := List ((p : Property) × p.Value)

namespace Values

def get? (values : Values) (p : Property) : Option p.Value :=
  match values with
  | [] => none
  | ⟨q, value⟩ :: rest => if h : q = p then some (h ▸ value) else get? rest p

end Values

namespace Answers

/-- The values among some outcomes. The first outcome that does not yield is the failure of all. -/
def values : Answers → Outcome Values
  | [] => .ok []
  | ⟨p, outcome⟩ :: rest =>
    match optional p.wording outcome with
    | .error failure => .error failure
    | .ok none => values rest
    | .ok (some value) => (values rest).map fun found => ⟨p, value⟩ :: found

end Answers

/-- A component as it is read from a device. -/
inductive ComponentRecord where
  | interfaces (rows : List Interface)
  | fields (component : Component) (record : component.schema.Record)

namespace ComponentRecord

def component : ComponentRecord → Component
  | interfaces _ => .interfaces
  | fields component _ => component

def write (r : ComponentRecord) : Document :=
  let data := match r with
    | interfaces rows => .list (rows.map InterfaceField.schema.write)
    | fields component record => component.schema.write record
  .object [("component", .text r.component.label), ("data", data)]

end ComponentRecord

namespace Communicator

/-- The communicator of a class in a catalog. -/
def ofCatalog (catalog : Catalog) (name : String) (registry : Registry) : Outcome Communicator :=
  (Catalog.find catalog name).map fun c => ⟨c, registry⟩

/-- The source at the head of the chain. -/
def head (c : Communicator) : Source := headSource c.registry c.deviceClass

/-- The source of the node a number of levels below the head. -/
def nodeBelow (c : Communicator) : Nat → Option Source
  | 0 => some c.head
  | n + 1 => chainSource c.registry (c.deviceClass.ancestors.drop n)

/-- The nodes of the chain by name, each with whether it is the head. -/
def nodes (c : Communicator) : List (String × Bool) :=
  (c.deviceClass.name, true) :: c.deviceClass.ancestors.map fun tier => (tier.name, false)

/-- The text that shows some nodes, each within the one before it. -/
def describeFrom (registry : Registry) : List (String × Bool) → String
  | [] => "None"
  | (name, isHead) :: below =>
    let sub := if below.isEmpty then "None" else "Some(" ++ describeFrom registry below ++ ")"
    "CommunicatorNode \x7b class: " ++ Text.shown name ++ ", has_override: " ++
      toString (registry.contains name) ++ ", sub: " ++ sub ++ ", head: " ++ toString isHead ++
      " \x7d"

def describe (c : Communicator) : String := describeFrom c.registry c.nodes

def advertises (c : Communicator) (component : Component) : Bool :=
  c.deviceClass.hasComponent component

/-- Resolves identity fields one after another. Once one is resolved, the next ones are resolved in
the light of those that are. -/
def identifyFrom (c : Communicator) (initial : Identity) :
    List IdentityField → Identity → Poll Identity
  | [], known => pure known
  | field :: rest, known => do
    let light := if known.isEmpty then initial else known
    let p := Property.identity field
    let found ← (c.head p light).mapOutcome (optional p.wording)
    match found with
    | none => c.identifyFrom initial rest known
    | some value => c.identifyFrom initial rest (Schema.set known field (some value))

def identify (c : Communicator) (initial : Identity) : Poll Identity :=
  c.identifyFrom initial IdentityField.all IdentityField.schema.blank

/-- The listing of interfaces. -/
def interfaces (c : Communicator) (identity : Identity) : Poll (List Interface) :=
  c.head .interfaces identity

/-- The outcomes of some properties, read side by side. -/
def answers (c : Communicator) (identity : Identity) (properties : List Property) :
    Reading Answers :=
  Reading.inTurns (properties.map fun p =>
    (c.head p identity).run >>= fun outcome => .done ⟨p, outcome⟩)

/-- The record of a component from the outcomes of its properties. -/
def assemble (component : Component) (answers : Answers) : Outcome component.schema.Record :=
  match answers.values with
  | .error failure => .error failure
  | .ok [] => Outcome.fails (.componentEmpty component.label)
  | .ok (value :: values) => .ok fun field => Values.get? (value :: values) field.1

/-- The record of a component other than the interfaces. -/
def fields (c : Communicator) (identity : Identity) (component : Component) :
    Poll component.schema.Record :=
  if c.advertises component then
    ExceptT.mk (c.answers identity component.fields >>= fun answers =>
      .done (assemble component answers))
  else Poll.fails (.componentAbsent component.label)

def component (c : Communicator) (identity : Identity) (component : Component) :
    Poll ComponentRecord :=
  if component = .interfaces then .interfaces <$> c.interfaces identity
  else .fields component <$> c.fields identity component

end Communicator
end DevicePoll
