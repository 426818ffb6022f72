import DevicePoll.Yaml.Token

/-! YAML texts as nodes. A text holds one document at most. A node can be given a name, and an alias
stands for the node with its name; names are numbered in the order in which they come up. -/
namespace DevicePoll

namespace Yaml

/-- What is written in front of a node: the number of its name, and the full name of its tag. -/
structure Properties where
  anchor : Option Nat
  tag : Option String
  deriving DecidableEq, Repr

def Properties.none : Properties := ⟨Option.none, Option.none⟩

inductive Node where
  | scalar (properties : Properties) (style : Style) (text : String)
  | list (properties : Properties) (items : List Node)
  | map (properties : Properties) (entries : List (Node × Node))
  | reference (name : Nat)
  deriving Inhabited, Repr

namespace Node

/-- The node of a place where nothing is written. -/
def blank (p : Properties) : Node := scalar p .plain ""

/-- Whether nothing is written but properties. -/
def isBlank : Node → Bool
  | scalar _ style text => style = .plain && text.isEmpty
  | _ => false

mutual

/-- How many marks and words a node consists of. -/
def size : Node → Nat
  | scalar _ _ _ | reference _ => 1
  | list _ items => sizeOfItems items + 2
  | map _ entries => sizeOfEntries entries + 2

def sizeOfItems : List Node → Nat
  | [] => 0
  | item :: items => size item + sizeOfItems items

def sizeOfEntries : List (Node × Node) → Nat
  | [] => 0
  | (key, value) :: entries => size key + size value + sizeOfEntries entries

end

mutual

/-- The nodes with a name, each with its number, in the order of their starts. -/
def named : Node → List (Nat × Node)
  | scalar p style text => p.anchor.toList.map (·, scalar p style text)
  | list p items => p.anchor.toList.map (·, list p items) ++ namedItems items
  | map p entries => p.anchor.toList.map (·, map p entries) ++ namedEntries entries
  | reference _ => []

def namedItems : List Node → List (Nat × Node)
  | [] => []
  | item :: items => named item ++ namedItems items

def namedEntries : List (Node × Node) → List (Nat × Node)
  | [] => []
  | (key, value) :: entries => named key ++ (named value ++ namedEntries entries)

end

end Node

/-- What is left of the tokens of a document, the names so far, and the handles of its tags. -/
structure Stream where
  tokens : List Token
  names : List (String × Nat)
  handles : List Handle

/-- A reader of tokens. -/
abbrev Parse (α : Type) : Type := StateT Stream Option α

namespace Parse

/-- The next token, which stays. -/
def peek? : Parse (Option Token) := do return (← get).tokens.head?

def skip : Parse Unit := modify fun s => { s with tokens := s.tokens.drop 1 }

/-- Takes the next token if it is the given one, and tells whether it is. -/
def accept (token : Token) : Parse Bool := do
  if (← peek?) = some token then
    skip
    return true
  else return false

def expect (token : Token) : Parse Unit := do
  if !(← accept token) then failure

/-- Whether the next token is one of some tokens. -/
def isAt (tokens : List Token) : Parse Bool := do
  return (← peek?).any tokens.contains

/-- Gives a name to the node that starts here. Its number tells how many names were known before; a
name that is used again counts once. -/
def bindName (name : String) : Parse Nat := do
  let s ← get
  let number := s.names.length
  set { s with names := (name, number) :: s.names.filter (·.1 ≠ name) }
  return number

/-- The number of a name that is known. -/
def numberOf (name : String) : Parse Nat := do
  match (← get).names.lookup name with
  | some number => return number
  | none => failure

/-- The name of a node and its tag, each at most once and in any order. The tag is told by its full
name. -/
def properties : Parse Properties := do
  let anchor ← anchor?
  let tag ← tag?
  let anchor ← if anchor.isSome then pure anchor else anchor?
  let handles := (← get).handles
  let tag ← match tag with
    | none => pure none
    | some tag =>
      match tag.name? handles with
      | some name => pure (some name)
      | none => failure
  let anchor ← match anchor with
    | none => pure none
    | some name => some <$> bindName name
  return ⟨anchor, tag⟩
where
  anchor? : Parse (Option String) := do
    match ← peek? with
    | some (.anchor name) =>
      skip
      return some name
    | _ => return none
  tag? : Parse (Option Tag) := do
    match ← peek? with
    | some (.tag tag) =>
      skip
      return some tag
    | _ => return none

/-- A place where nothing is written. -/
def nothing : Parse Node := return .blank .none

mutual

/-- A node. Blocks are nodes where `inBlock` allows them; where `inMap`, the items of a list may
stand at the column of the map around it. -/
def node (inBlock inMap : Bool) : Nat → Parse Node
  | 0 => failure
  | fuel + 1 => do
    match ← peek? with
    | some (.reference name) =>
      skip
      return .reference (← numberOf name)
    | _ =>
      let p ← properties
      match ← peek? with
      | some .item => if inMap then return .list p (← levelItems fuel) else blank p
      | some (.scalar style text) =>
        skip
        return .scalar p style text
      | some .flowListStart =>
        skip
        return .list p (← flowItems true fuel)
      | some .flowMapStart =>
        skip
        return .map p (← flowEntries true fuel)
      | some .listStart =>
        if inBlock then
          skip
          return .list p (← blockItems fuel)
        else blank p
      | some .mapStart =>
        if inBlock then
          skip
          return .map p (← blockEntries fuel)
        else blank p
      | _ => blank p
where
  blank (p : Properties) : Parse Node := if p = .none then failure else return .blank p

/-- The items of a list in a block of its own. -/
def blockItems : Nat → Parse (List Node)
  | 0 => failure
  | fuel + 1 => do
    if ← accept .item then
      let item ← if ← isAt [.item, .blockEnd] then nothing else node true false fuel
      return item :: (← blockItems fuel)
    else
      expect .blockEnd
      return []

/-- The items of a list at the column of the map around it. -/
def levelItems : Nat → Parse (List Node)
  | 0 => failure
  | fuel + 1 => do
    if ← accept .item then
      let item ← if ← isAt [.item, .key, .value, .blockEnd] then nothing else node true false fuel
      return item :: (← levelItems fuel)
    else return []

/-- The entries of a map in a block. -/
def blockEntries : Nat → Parse (List (Node × Node))
  | 0 => failure
  | fuel + 1 => do
    if ← accept .key then
      let key ← blockSide fuel
      let value ← if ← accept .value then blockSide fuel else nothing
      return (key, value) :: (← blockEntries fuel)
    else
      expect .blockEnd
      return []

/-- A key or a value of a map in a block. -/
def blockSide : Nat → Parse Node
  | 0 => failure
  | fuel + 1 => do
    if ← isAt [.key, .value, .blockEnd] then nothing else node true true fuel

/-- The items of a list between brackets. A key with a value is a map of its own. -/
def flowItems (first : Bool) : Nat → Parse (List Node)
  | 0 => failure
  | fuel + 1 => do
    if ← accept .flowListEnd then return []
    if !first then expect .comma
    if ← accept .flowListEnd then return []
    let item ← if ← accept .key then flowPair fuel else node false false fuel
    return item :: (← flowItems false fuel)

/-- A map of one entry, after the mark of its key. The token after an empty key is dropped. -/
def flowPair : Nat → Parse Node
  | 0 => failure
  | fuel + 1 => do
    let ends : List Token := [.comma, .flowListEnd]
    let key ← if ← isAt (.value :: ends) then
        skip
        nothing
      else node false false fuel
    let value ← flowSide ends fuel
    return .map .none [(key, value)]

/-- A value between brackets, which may be missing. -/
def flowSide (ends : List Token) : Nat → Parse Node
  | 0 => failure
  | fuel + 1 => do
    if ← accept .value then
      if ← isAt ends then nothing else node false false fuel
    else nothing

/-- The entries of a map between brackets. A node without the mark of a key has nothing as its
value. -/
def flowEntries (first : Bool) : Nat → Parse (List (Node × Node))
  | 0 => failure
  | fuel + 1 => do
    if ← accept .flowMapEnd then return []
    if !first then expect .comma
    if ← accept .flowMapEnd then return []
    let ends : List Token := [.comma, .flowMapEnd]
    let entry ←
      if ← accept .key then
        let key ← if ← isAt (.value :: ends) then nothing else node false false fuel
        pure (key, ← flowSide ends fuel)
      else pure (← node false false fuel, ← nothing)
    return entry :: (← flowEntries false fuel)

end

/-- The directives of a document: at most one version, and each handle once. -/
def directives (version : Bool) : Nat → Parse Unit
  | 0 => failure
  | fuel + 1 => do
    match ← peek? with
    | some (.directive (.version major minor)) =>
      if version || major ≠ 1 || (minor ≠ 1 && minor ≠ 2) then failure
      skip
      directives true fuel
    | some (.directive (.handle h)) =>
      if (← get).handles.any (·.handle = h.handle) then failure
      modify fun s => { s with handles := s.handles ++ [h] }
      skip
      directives version fuel
    | _ => return ()

def isDirective : Token → Bool
  | .directive _ => true
  | _ => false

/-- The node of a text that holds one document at most. Directives need the mark of the start of
their document, and marks of its end may follow. -/
def document (fuel : Nat) : Parse (Option Node) := do
  match ← peek? with
  | none => return none
  | some token =>
    let root ←
      if isDirective token || token = .documentStart then
        directives false fuel
        modify fun s => { s with handles := s.handles ++ commonHandles }
        expect .documentStart
        match ← peek? with
        | none => nothing
        | some next =>
          if isDirective next || next = .documentStart || next = .documentEnd then nothing
          else node true false fuel
      else
        modify fun s => { s with handles := commonHandles }
        node true false fuel
    modify fun s => { s with tokens := s.tokens.dropWhile (· = .documentEnd) }
    if (← peek?).isSome then failure
    return some root

end Parse
end Yaml

/-- What a YAML text holds: its node, unless it is empty, and what its aliases stand for. -/
structure Yaml where
  root : Option Yaml.Node

namespace Yaml

/-- The nodes with a name, in the order of their starts. -/
def named (y : Yaml) : List (Nat × Node) :=
  match y.root with
  | none => []
  | some node => node.named

/-- How many marks and words a text consists of. -/
def size (y : Yaml) : Nat :=
  match y.root with
  | none => 1
  | some node => node.size

/-- Reads a text. Every step of the reader takes a token or enters a part of a node, so the number
of the tokens bounds the number of steps. -/
def parse? (s : String) : Option Yaml := do
  let tokens ← tokens? s
  let (root, _) ← (Parse.document (4 * tokens.length + 4)).run ⟨tokens, [], []⟩
  return ⟨root⟩

end Yaml
end DevicePoll
