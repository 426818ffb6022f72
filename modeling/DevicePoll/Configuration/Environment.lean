import DevicePoll.Document.Layer
import DevicePoll.Decimal.Real
import DevicePoll.Text.Blank
import DevicePoll.Text.Bytes
import DevicePoll.Text.Numeral

/-! Settings from environment variables. The name of a variable gives the place of a setting, with
two underscores between the labels on the way, and its text is a flag, a number, a list, a table of
labels or else a text. -/
namespace DevicePoll.Configuration

/-- The opening of the names of the variables, in any case of letters. -/
def nameOpening : List Char := "netprobe_".toList

/-- The labels between pairs of underscores; a dot separates as well. -/
def splitLabels : List Char → List (List Char)
  | [] => [[]]
  | '_' :: '_' :: cs => [] :: splitLabels cs
  | c :: cs =>
    if c = '.' then [] :: splitLabels cs
    else match splitLabels cs with
      | [] => [[c]]
      | first :: rest => (c :: first) :: rest

/-- The place that a variable is about. A place with an empty label is none. -/
def placeOf? (name : String) : Option (List String) :=
  let cs := Decimal.lower (Text.trimmed name.toList)
  if nameOpening.isPrefixOf cs then
    let labels := (splitLabels (cs.drop nameOpening.length)).map String.ofList
    let labels := trimEnds labels
    if labels.any (·.isEmpty) then none else some labels
  else none
where
  trimStart : List String → List String
    | [] => []
    | label :: labels => String.ofList (label.toList.dropWhile Text.isBlank) :: labels
  trimEnds (labels : List String) : List String :=
    match (trimStart labels).reverse with
    | [] => []
    | last :: rest =>
      (String.ofList (Text.dropEndWhile Text.isBlank last.toList) :: rest).reverse

/-- A value at the end of a path of labels. -/
def nest : List String → Document → Document
  | [], value => value
  | label :: labels, value => .object [(label, nest labels value)]

def isSpace (c : Char) : Bool := c = ' ' || c = '\t' || c = '\n' || c = '\x0c' || c = '\r'

def skipSpace (cs : List Char) : List Char := cs.dropWhile isSpace

def isMark (c : Char) : Bool := c = ',' || c = '[' || c = ']' || c = '\x7b' || c = '\x7d'

def isLabelChar (c : Char) : Bool := c.isAlphanum || c = '_' || c = '-'

/-- A number or else a text, without the blanks at its ends. -/
def bareValue (cs : List Char) : Document :=
  let s := String.ofList (Text.trimmed cs)
  let real := if s.toList.contains '.' then Decimal.readReal s else none
  match real with
  | some x => .real x
  | none =>
    match Decimal.readUnsigned s, Decimal.readSigned s with
    | .ok n, _ => .integer n.toNat
    | .error _, .ok n => .integer n.toInt
    | .error _, .error _ => .text s

/-- What is kept of the characters before the first escape of a text: as many bytes as there are
characters. -/
def beforeEscape (read : List Char) : List Char :=
  (Text.takeBytes read.length read.reverse).reverse

/-- The characters of a text up to its closing quote, with its escapes replaced, and the rest.
`escaped` tells whether there was an escape, and `read` is in reverse. Every step reads a character,
so the length of what is left bounds the number of steps. -/
def scanQuoted : Nat → Bool → List Char → List Char → Option (String × List Char)
  | 0, _, _, _ => none
  | _ + 1, _, _, [] => none
  | fuel + 1, escaped, read, c :: cs =>
    if c = '"' then some (String.ofList read.reverse, cs)
    else if c = '\\' then
      (escape cs).bind fun (d, rest) =>
        scanQuoted fuel true (d :: if escaped then read else beforeEscape read) rest
    else if c = '\t' || (' ' ≤ c && c ≠ '\x7f') then scanQuoted fuel escaped (c :: read) cs
    else none
where
  escape : List Char → Option (Char × List Char)
    | '"' :: r => some ('"', r)
    | '\\' :: r => some ('\\', r)
    | 'b' :: r => some ('\x08', r)
    | 'f' :: r => some ('\x0c', r)
    | 'n' :: r => some ('\n', r)
    | 'r' :: r => some ('\r', r)
    | 't' :: r => some ('\t', r)
    | 'u' :: r => wide 4 r
    | 'U' :: r => wide 8 r
    | _ => none
  wide (width : Nat) (cs : List Char) : Option (Char × List Char) :=
    if (cs.take width).length = width then
      (Text.codePoint? (cs.take width)).map fun d => (d, cs.drop width)
    else none

def scanLabel (fuel : Nat) (cs : List Char) : Option (String × List Char) :=
  match cs with
  | '"' :: r => scanQuoted fuel false [] r
  | cs =>
    let label := cs.takeWhile isLabelChar
    if label.isEmpty then none else some (String.ofList label, cs.dropWhile isLabelChar)

mutual

/-- A value at the start of a text, and the rest after blanks. -/
def scanValue : Nat → List Char → Option (Document × List Char)
  | 0, _ => none
  | fuel + 1, cs =>
    let found : Option (Document × List Char) :=
      match skipSpace cs with
      | 't' :: 'r' :: 'u' :: 'e' :: r => some (.boolean true, r)
      | 'f' :: 'a' :: 'l' :: 's' :: 'e' :: r => some (.boolean false, r)
      | '\x7b' :: r =>
        (scanEntries fuel r).map fun (entries, r) =>
          (.object (Document.canonicalEntries entries), r)
      | '[' :: r => (scanItems fuel r).map fun (items, r) => (.list items, r)
      | '"' :: r => (scanQuoted fuel false [] r).map fun (s, r) => (.text s, r)
      | '\'' :: r =>
        match r with
        | c :: '\'' :: r => some (.text (String.ofList [c]), r)
        | _ => none
      | cs => some (bareValue (cs.takeWhile (!isMark ·)), cs.dropWhile (!isMark ·))
    found.map fun (value, r) => (value, skipSpace r)

/-- The items of a list up to its closing bracket; a comma may stand after the last one. -/
def scanItems : Nat → List Char → Option (List Document × List Char)
  | 0, _ => none
  | _ + 1, ']' :: r => some ([], r)
  | fuel + 1, cs =>
    (scanValue fuel cs).bind fun (item, r) =>
      match r with
      | ',' :: r => (scanItems fuel r).map fun (items, r) => (item :: items, r)
      | ']' :: r => some ([item], r)
      | _ => none

/-- The entries of a table up to its closing brace; a comma may stand after the last one. -/
def scanEntries : Nat → List Char → Option (List (String × Document) × List Char)
  | 0, _ => none
  | _ + 1, '\x7d' :: r => some ([], r)
  | fuel + 1, cs =>
    (scanLabel fuel (skipSpace cs)).bind fun (label, r) =>
      match skipSpace r with
      | '=' :: r =>
        (scanValue fuel r).bind fun (value, r) =>
          match r with
          | ',' :: r => (scanEntries fuel r).map fun (entries, r) => ((label, value) :: entries, r)
          | '\x7d' :: r => some ([(label, value)], r)
          | _ => none
      | _ => none

end

/-- The value of a variable; a text that is no other value stands for itself. -/
def valueOf (s : String) : Document :=
  match scanValue (2 * s.length + 2) s.toList with
  | some (value, []) => value
  | _ => .text s

/-- The settings of some variables, each over those before it. -/
def ofEnvironment (named : List (String × String)) : Document :=
  named.foldl (fun document e =>
    match placeOf? e.1 with
    | some labels => document.overlay (nest labels (valueOf e.2))
    | none => document) (.object [])

end DevicePoll.Configuration
