import DevicePoll.Class.Catalog
import DevicePoll.Yaml.Reader

/-! Class definitions as a YAML list. The name and the parent of a class are read as they are
written, and what belongs to its properties is read for what it denotes, so a number is no
identifier there. -/
namespace DevicePoll
namespace ClassOverlay

/-- The document of one part of a definition; of a part that is ignored nothing is kept. -/
def partOfYaml (label : String) (depth : Nat) (node : Yaml.Node) : Yaml.Read Document :=
  if label = "name" then .text <$> node.text
  else if label = "parent" then .ofOption .text <$> node.optionalText
  else if label = "components" then
    .object <$> node.entries Yaml.Node.caseName (fun _ _ value => .boolean <$> value.flag) depth
  else if label = "properties" then
    .object <$> node.entries Yaml.Node.text (fun _ => Yaml.Node.data) depth
  else pure .null

def definitionOfYaml (depth : Nat) (node : Yaml.Node) : Yaml.Read Document :=
  .object <$> node.entries Yaml.Node.text partOfYaml depth

/-- The definitions of a YAML text, in order. -/
def ofYaml? (s : String) : Option (List ClassOverlay) := do
  let documents ← (← Yaml.parse? s).read? (Yaml.Node.items definitionOfYaml)
  documents.mapM fun document => (read document).toOption

end ClassOverlay

/-- The catalog of the definitions of a YAML text. -/
def Catalog.ofYaml (s : String) : Outcome Catalog :=
  match ClassOverlay.ofYaml? s with
  | some overlays => ofOverlays overlays
  | none => Outcome.fails .unreadableDefinitions

end DevicePoll
