import DevicePoll.Text.Numeral
import DevicePoll.Yaml.Character

/-! Names of nodes, tags and directives in YAML. A tag is written as a handle and a suffix, and the
directives of a document say which opening a handle stands for. -/
namespace DevicePoll.Yaml

/-- The name of a node, after its mark, and the rest. -/
def scanName (cs : List Char) : Option (String × List Char) :=
  let name := cs.takeWhile isNameChar
  let rest := cs.dropWhile isNameChar
  let ends := endsWord rest || rest.head?.any ("?:,]\x7d%@\x60".toList.contains ·)
  if name.isEmpty || !ends then none else some (String.ofList name, rest)

/-- A byte that is written as a percent sign and two digits, and the rest. -/
def scanByte : List Char → Option (Nat × List Char)
  | '%' :: c :: d :: rest => (Text.magnitude? 16 [c, d]).map (·, rest)
  | _ => none

/-- How many bytes a character has whose first one is given, and what that one holds of it. -/
def leadOf? (byte : Nat) : Option (Nat × Nat) :=
  if byte < 0x80 then some (1, byte)
  else if 0xC0 ≤ byte ∧ byte < 0xE0 then some (2, byte - 0xC0)
  else if 0xE0 ≤ byte ∧ byte < 0xF0 then some (3, byte - 0xE0)
  else if 0xF0 ≤ byte ∧ byte < 0xF8 then some (4, byte - 0xF0)
  else none

/-- The number that the further bytes of a character continue, and the rest. -/
def scanTrail : Nat → Nat → List Char → Option (Nat × List Char)
  | 0, n, cs => some (n, cs)
  | count + 1, n, cs => do
    let (byte, rest) ← scanByte cs
    if 0x80 ≤ byte ∧ byte < 0xC0 then scanTrail count (n * 64 + (byte - 0x80)) rest else none

/-- A character that is written byte by byte, and the rest. -/
def scanBytes (cs : List Char) : Option (Char × List Char) := do
  let (byte, rest) ← scanByte cs
  let (width, start) ← leadOf? byte
  let (n, rest) ← scanTrail (width - 1) start rest
  return (if n.isValidChar then Char.ofNat n else '\uFFFD', rest)

/-- A character of a tag; the marks of lists count only where `marks` allows them. -/
def isTagChar (marks : Bool) (c : Char) : Bool :=
  isNameChar c || ";/?:@&=+$.!~*'()".toList.contains c || (marks && ",[]".toList.contains c)

/-- The longest run of characters of a tag, and the rest. -/
def scanTagText (marks : Bool) (cs : List Char) : Option (List Char × List Char) :=
  go (cs.length + 1) [] cs
where
  go : Nat → List Char → List Char → Option (List Char × List Char)
    | 0, _, _ => none
    | _ + 1, read, [] => some (read.reverse, [])
    | fuel + 1, read, c :: cs =>
      if c = '%' then (scanBytes (c :: cs)).bind fun (d, rest) => go fuel (d :: read) rest
      else if isTagChar marks c then go fuel (c :: read) cs
      else some (read.reverse, c :: cs)

/-- A tag as it is written. Without a handle the suffix is the whole name. -/
structure Tag where
  handle : String
  suffix : String
  deriving DecidableEq, Repr

/-- A tag after its mark, and the rest. -/
def scanTag (inFlow : Bool) (cs : List Char) : Option (Tag × List Char) := do
  let (tag, rest) ← form cs
  if endsWord rest || (inFlow && rest.head? = some ',') then some (tag, rest) else none
where
  form : List Char → Option (Tag × List Char)
    | '<' :: cs => do
      let (name, rest) ← scanTagText true cs
      match rest with
      | '>' :: rest => if name.isEmpty then none else some (⟨"", String.ofList name⟩, rest)
      | _ => none
    | cs =>
      let name := cs.takeWhile isNameChar
      match cs.dropWhile isNameChar with
      | '!' :: rest => do
        let (suffix, rest) ← scanTagText false rest
        if suffix.isEmpty then none
        else some (⟨String.ofList ('!' :: name ++ ['!']), String.ofList suffix⟩, rest)
      | rest => do
        let (more, rest) ← scanTagText false rest
        let suffix := String.ofList (name ++ more)
        some (if suffix.isEmpty then ⟨"", "!"⟩ else ⟨"!", suffix⟩, rest)

/-- What stands for a handle. -/
structure Handle where
  handle : String
  opening : String
  deriving DecidableEq, Repr

/-- The opening of the names of the tags that every text can use. -/
def commonOpening : String := "tag:yaml.org,2002:"

/-- The handles that every document knows. -/
def commonHandles : List Handle := [⟨"!", "!"⟩, ⟨"!!", commonOpening⟩]

/-- The full name of a tag. -/
def Tag.name? (handles : List Handle) (tag : Tag) : Option String :=
  if tag.handle.isEmpty then some tag.suffix
  else (handles.find? fun h => h.handle = tag.handle).map fun h => h.opening ++ tag.suffix

/-- What a directive says: the version of the format, or what a handle stands for. -/
inductive Directive where
  | version (major minor : Nat)
  | handle (handle : Handle)
  deriving DecidableEq, Repr

/-- A number of a version, of at most nine digits, and the rest. -/
def scanVersionNumber (cs : List Char) : Option (Nat × List Char) :=
  let digits := cs.takeWhile Char.isDigit
  if digits.length ≤ 9 then
    (Text.magnitude? 10 digits).map (·, cs.dropWhile Char.isDigit)
  else none

/-- The handle of a directive, and the rest. -/
def scanHandle : List Char → Option (String × List Char)
  | '!' :: cs =>
    let name := cs.takeWhile isNameChar
    match cs.dropWhile isNameChar with
    | '!' :: rest => some (String.ofList ('!' :: name ++ ['!']), rest)
    | rest => if name.isEmpty then some ("!", rest) else none
  | _ => none

/-- A directive after its mark, and the rest of its line. Only a comment may follow it. -/
def scanDirective (cs : List Char) : Option (Directive × List Char) := do
  let name := String.ofList (cs.takeWhile isNameChar)
  let rest := cs.dropWhile isNameChar
  if !endsWord rest then none
  let rest := rest.dropWhile isSpace
  let (directive, rest) ←
    if name = "YAML" then do
      let (major, rest) ← scanVersionNumber rest
      match rest with
      | '.' :: rest =>
        let (minor, rest) ← scanVersionNumber rest
        some (Directive.version major minor, rest)
      | _ => none
    else if name = "TAG" then do
      let (handle, rest) ← scanHandle rest
      if !rest.head?.any isSpace then none
      let (opening, rest) ← scanTagText true (rest.dropWhile isSpace)
      if opening.isEmpty || !endsWord rest then none
      some (.handle ⟨handle, String.ofList opening⟩, rest)
    else none
  let rest := rest.dropWhile isSpace
  let rest := if rest.head? = some '#' then rest.dropWhile (!isBreak ·) else rest
  if rest.head?.all isBreak then some (directive, rest) else none

end DevicePoll.Yaml
