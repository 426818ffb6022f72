import DevicePoll.Component
import DevicePoll.Query.Tree

/-! Class definitions as data: a name, the name of a parent, flags for components, and the
properties that the class defines itself. Compiling a definition checks its labels and identifiers
and gives the query tree of the class. -/
namespace DevicePoll

/-- A leaf as it is written in a definition. -/
structure LeafSpec where
  oid : String
  operators : List Operator

abbrev NodeSpec : Type := LabelNode LeafSpec

/-- The definition of one class. A component is enabled, disabled or left to the parent. -/
structure ClassOverlay where
  name : String
  parent : Option String
  flags : Component → Option Bool
  properties : LabelTree LeafSpec

namespace NodeSpec

/-- The node with its identifiers and labels checked, `path` being its dotted path. A group is
checked label by label in ascending order, each label before what stands below it. -/
def compile (path : String) : NodeSpec → Outcome QueryNode
  | .leaf spec =>
    match Oid.ofText spec.oid with
    | .ok oid => .ok (.leaf ⟨oid, spec.operators⟩)
    | .error failure => .error (.within ("label '" ++ path ++ "'") failure)
  | .group labels child =>
    (LabelTree.toNode ∘ LabelTree.ofList) <$> labels.members.mapM fun label =>
      if Text.isLabel label.1 then
        (label.1, ·) <$> compile (Text.extend path label.1) (child label.1 label.2)
      else Outcome.fails (.badLabel label.1 path)

/-- The tree with a leaf at a path of labels. Groups are made on the way, also in place of
leaves. -/
def withLeaf (spec : LeafSpec) : List String → LabelTree LeafSpec → LabelTree LeafSpec
  | [], tree => tree
  | [label], tree => tree.insert label (.leaf spec)
  | label :: path, tree =>
    let below := ((tree.get? label).bind LabelNode.tree?).getD LabelTree.empty
    tree.insert label (withLeaf spec path below).toNode

def writeLeaf (spec : LeafSpec) : Document :=
  .object (("oid", .text spec.oid) ::
    if spec.operators.isEmpty then []
    else [("operators", .list (spec.operators.map Operator.write))])

def write : NodeSpec → Document
  | .leaf spec => writeLeaf spec
  | .group labels child =>
    .object (labels.members.map fun label => (label.1, write (child label.1 label.2)))

/-- The labels of a leaf. -/
def leafLabels : List String := ["oid", "operators"]

/-- A leaf with no other labels than its own, each of them once. -/
def readLeafEntries? (entries : List (String × Document)) : Option LeafSpec :=
  if entries.all (leafLabels.contains ·.1) &&
      (Document.repeated? leafLabels entries).isNone then do
    let oid ← ((← Document.lookup? "oid" entries).asText).toOption
    match Document.lookup? "operators" entries with
    | none => some ⟨oid, []⟩
    | some operators => return ⟨oid, ← (Operator.readAll true operators).toOption⟩
  else none

/-- A leaf by its labels, or the list of its parts. -/
def readLeaf? : Document → Option LeafSpec
  | .object entries => readLeafEntries? entries
  | .table entries => (Document.labelled? leafLabels entries).bind readLeafEntries?
  | .list [oid] => do some ⟨← oid.asText.toOption, []⟩
  | .list [oid, operators] => do
    some ⟨← oid.asText.toOption, ← (Operator.readAll true operators).toOption⟩
  | _ => none

mutual

/-- A leaf if the document can be one, and otherwise a group. -/
def read? : Document → Option NodeSpec
  | .object entries =>
    match readLeaf? (.object entries) with
    | some spec => some (.leaf spec)
    | none => (readEntries? entries).map fun nodes => (LabelTree.ofList nodes).toNode
  | other => (readLeaf? other).map .leaf

def readEntries? : List (String × Document) → Option (List (String × NodeSpec))
  | [] => some []
  | (label, value) :: rest =>
    match read? value, readEntries? rest with
    | some node, some nodes => some ((label, node) :: nodes)
    | _, _ => none

end

def read (document : Document) : Document.Read NodeSpec :=
  match read? document with
  | some node => .ok node
  | none => .error (.noForm "NodeSpec")

end NodeSpec

namespace ClassOverlay

/-- A definition that defines nothing. -/
def named (name : String) : ClassOverlay := ⟨name, none, fun _ => none, LabelTree.empty⟩

def withParent (overlay : ClassOverlay) (parent : String) : ClassOverlay :=
  { overlay with parent := some parent }

def withComponent (overlay : ClassOverlay) (component : Component) (enabled : Bool) :
    ClassOverlay :=
  { overlay with
    flags := fun other => if other = component then some enabled else overlay.flags other }

/-- The definition with a leaf at a dotted path. -/
def withLeaf (overlay : ClassOverlay) (path oid : String) (operators : List Operator) :
    ClassOverlay :=
  { overlay with
    properties := NodeSpec.withLeaf ⟨oid, operators⟩ (Text.parts path) overlay.properties }

/-- The query tree of the properties that the class defines itself. -/
def queryTree (overlay : ClassOverlay) : Outcome QueryTree :=
  Outcome.within ("class '" ++ overlay.name ++ "'")
    ((fun node => (LabelNode.tree? node).getD LabelTree.empty) <$>
      NodeSpec.compile "" overlay.properties.toNode)

/-- The components that the definition mentions, in order. -/
def mentioned (overlay : ClassOverlay) : List (Component × Bool) :=
  Component.all.filterMap fun component => (component, ·) <$> overlay.flags component

def write (overlay : ClassOverlay) : Document :=
  let parent := match overlay.parent with
    | none => []
    | some parent => [("parent", Document.text parent)]
  let flags := overlay.mentioned.map fun e => (e.1.label, Document.boolean e.2)
  let components := if flags.isEmpty then [] else [("components", Document.object flags)]
  let properties := if overlay.properties.isEmpty then []
    else [("properties", NodeSpec.write overlay.properties.toNode)]
  .object (("name", .text overlay.name) :: parent ++ components ++ properties)

def componentNames : List String := Component.all.map Component.label

/-- One flag after another; the later one of two for the same component counts. -/
def readFlagEntries : List (String × Document) → (Component → Option Bool) →
    Document.Read (Component → Option Bool)
  | [], flags => .ok flags
  | (label, value) :: rest, flags =>
    match Component.ofLabel? label with
    | none => .error (.unknownName label componentNames)
    | some component =>
      match value.asFlag with
      | .error mismatch => .error mismatch
      | .ok enabled =>
        readFlagEntries rest fun other => if other = component then some enabled else flags other

def readFlags (document : Document) : Document.Read (Component → Option Bool) := do
  readFlagEntries (← document.asObject) fun _ => none

def readProperties (document : Document) : Document.Read (LabelTree LeafSpec) := do
  let nodes ← (← document.asObject).mapM fun e => (e.1, ·) <$> NodeSpec.read e.2
  return LabelTree.ofList nodes

/-- Reads one labelled part of a definition into it; unknown labels are ignored. -/
def readPart (overlay : ClassOverlay) (label : String) (value : Document) :
    Document.Read ClassOverlay :=
  if label = "name" then (fun name => { overlay with name }) <$> value.asText
  else if label = "parent" then
    (fun parent => { overlay with parent }) <$> value.asOptional Document.asText
  else if label = "components" then (fun flags => { overlay with flags }) <$> readFlags value
  else if label = "properties" then
    (fun properties => { overlay with properties }) <$> readProperties value
  else .ok overlay

/-- The labels of a definition, in order. -/
def labels : List String := ["name", "parent", "components", "properties"]

/-- The parts of a definition one after another. -/
def readParts (entries : List (String × Document)) : Document.Read ClassOverlay :=
  entries.foldlM (fun overlay e => overlay.readPart e.1 e.2) (named "")

def read : Document → Document.Read ClassOverlay
  | .object entries => do
    let overlay ← readParts entries
    match Document.repeated? labels entries with
    | some label => .error (.repeatedEntry label)
    | none =>
      if (Document.lookup? "name" entries).isSome then .ok overlay
      else .error (.missingEntry "name")
  | .list [] => .error (.wrongLength 0 "struct ClassOverlay with 4 elements")
  | .list items => do
    let overlay ← readParts (labels.zip items)
    if items.length ≤ 4 then .ok overlay
    else .error (.wrongLength items.length "fewer elements in array")
  | other => .error (.wrongType other.found "struct ClassOverlay")

end ClassOverlay
end DevicePoll
