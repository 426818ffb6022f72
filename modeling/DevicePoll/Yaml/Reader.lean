import DevicePoll.Yaml.Node
import DevicePoll.Yaml.Plain

/-! Readers of values from YAML nodes. An alias is read as the node that it stands for; how often
this can happen is limited, and so is how deep lists and maps stand in each other. What is not read
is not checked. -/
namespace DevicePoll.Yaml

/-- What aliases stand for, and how many can still be followed. -/
structure Aliases where
  nodes : List (Nat × Node)
  left : Nat

/-- A reader that follows aliases. -/
abbrev Read (α : Type) : Type := StateT Aliases Option α

/-- How deep lists and maps may stand in each other. -/
def maxDepth : Nat := 128

/-- How many aliases can be followed for each mark and word of a text. -/
def followedPerMark : Nat := 100

/-- The aliases of a text. A number that was given to several nodes stands for the last of them. -/
def aliases (y : Yaml) : Aliases := ⟨y.named.reverse, followedPerMark * y.size⟩

namespace Node

/-- The node itself, or the one that an alias stands for. -/
def follow : Node → Read Node
  | reference name => do
    let s ← get
    match s.left, s.nodes.lookup name with
    | left + 1, some node =>
      set { s with left }
      return node
    | _, _ => failure
  | node => pure node

/-- The text of a scalar as it is written, without its quotes. -/
def text (node : Node) : Read String := do
  match ← node.follow with
  | scalar _ _ text => return text
  | _ => failure

/-- A text that may be left out. -/
def optionalText (node : Node) : Read (Option String) := do
  match ← node.follow with
  | scalar p style text =>
    if style ≠ .plain then return some text
    else match p.tag with
      | some name =>
        if name ≠ commonTag "null" then return some text
        else if isNull text then return none
        else failure
      | none => return if text.isEmpty || isNull text then none else some text
  | _ => failure

/-- A flag: a plain scalar, or a literal block with the tag of flags. -/
def flag (node : Node) : Read Bool := do
  match ← node.follow with
  | scalar p style text =>
    if style = .plain || (style = .literal && p.tag = some (commonTag "bool")) then
      match flag? text with
      | some value => return value
      | none => failure
    else failure
  | _ => failure

/-- The name of one of some cases: a tag of the text's own making in front of nothing, or else a
text. -/
def caseName (node : Node) : Read String := do
  match ← node.follow with
  | scalar p style text =>
    match ownTag? p.tag with
    | none => return text
    | some name =>
      if style = .plain && (text.isEmpty || isNull text) then return name else failure
  | _ => failure

/-- The items of a list, or none where nothing is written. -/
def items {α : Type} (read : Nat → Node → Read α) (depth : Nat) (node : Node) : Read (List α) := do
  match ← node.follow, depth with
  | list _ items, depth + 1 => items.mapM (read depth)
  | list _ _, 0 => failure
  | other, _ => if other.isBlank then return [] else failure

/-- The entries of a map by their labels, or none where nothing is written. -/
def entries {α : Type} (label : Node → Read String) (read : String → Nat → Node → Read α)
    (depth : Nat) (node : Node) : Read (List (String × α)) := do
  match ← node.follow, depth with
  | map _ entries, depth + 1 =>
    entries.mapM fun e => do
      let label ← label e.1
      return (label, ← read label depth e.2)
  | map _ _, 0 => failure
  | other, _ => if other.isBlank then return [] else failure

/-- An object if every key is a text, and otherwise a table. -/
def ofPairs (entries : List (Document × Document)) : Document :=
  let labelled := entries.mapM fun e =>
    match e.1 with
    | .text label => some (label, e.2)
    | _ => none
  match labelled with
  | some entries => .object entries
  | none => .table entries

/-- The document of a scalar in data, where no tag may be of the text's own making and whole numbers
have to fit a word. -/
def dataScalar (p : Properties) (style : Style) (text : String) : Read Document :=
  if (ownTag? p.tag).isSome then failure
  else match scalarDocument? true p.tag (style = .plain) text with
    | some d => pure d
    | none => failure

/-- The document that a node denotes in data. -/
def data : Nat → Node → Read Document
  | 0, node => do
    match ← node.follow with
    | scalar p style text => dataScalar p style text
    | _ => failure
  | depth + 1, node => do
    match ← node.follow with
    | scalar p style text => dataScalar p style text
    | list p items =>
      if (ownTag? p.tag).isSome then failure
      return .list (← items.mapM (data depth))
    | map p entries =>
      if (ownTag? p.tag).isSome then failure
      return ofPairs (← entries.mapM fun e => do return (← data depth e.1, ← data depth e.2))
    | reference _ => failure

/-- A document under the name of a tag of the text's own making. -/
def underTag (tag : Option String) (d : Document) : Document :=
  match ownTag? tag with
  | some name => .object [(name, d)]
  | none => d

def settingScalar (p : Properties) (style : Style) (text : String) : Read Document :=
  let tag := if (ownTag? p.tag).isSome then none else p.tag
  match scalarDocument? false tag (style = .plain) text with
  | some d => pure (underTag p.tag d)
  | none => failure

/-- The document that a node denotes in settings. Keys count as they are written, and a tag of the
text's own making is a label of what it stands in front of. -/
def setting : Nat → Node → Read Document
  | 0, node => do
    match ← node.follow with
    | scalar p style text => settingScalar p style text
    | _ => failure
  | depth + 1, node => do
    match ← node.follow with
    | scalar p style text => settingScalar p style text
    | list p items => return underTag p.tag (.list (← items.mapM (setting depth)))
    | map p entries =>
      let entries ← entries.mapM fun e => do return (← e.1.text, ← setting depth e.2)
      return underTag p.tag (.object entries)
    | reference _ => failure

end Node

/-- What a reader makes of the node of a text, or of a place where nothing is written. -/
def read? {α : Type} (y : Yaml) (read : Nat → Node → Read α) : Option α :=
  ((read maxDepth (y.root.getD (.blank .none))).run y.aliases).map (·.1)

end DevicePoll.Yaml
