import DevicePoll.Yaml.Cursor
import DevicePoll.Yaml.Tag
import DevicePoll.Yaml.Text

/-! Tokens of a YAML text. Outside of brackets the columns of items and keys open and close blocks.
Whether a token starts a key is known only at the colon after it, so the place of a token that may
start one is kept until its line ends, and the marks of the key are put in front of it there. -/
namespace DevicePoll.Yaml

/-- How a scalar is written, as far as it matters for what it denotes. -/
inductive Style where
  | plain
  | literal
  | other
  deriving DecidableEq, Repr

inductive Token where
  | directive (directive : Directive)
  | documentStart
  | documentEnd
  | listStart
  | mapStart
  | blockEnd
  | flowListStart
  | flowListEnd
  | flowMapStart
  | flowMapEnd
  | item
  | comma
  | key
  | value
  | reference (name : String)
  | anchor (name : String)
  | tag (tag : Tag)
  | scalar (style : Style) (text : String)
  deriving DecidableEq, Repr

/-- The place of a token that may start a key. A key is required where a block asks for one. -/
structure KeyPlace where
  required : Bool
  /-- How many tokens stand before it. -/
  number : Nat
  line : Nat
  column : Nat
  index : Nat

/-- Tokens up to a place. `keys` holds the place of a possible key outside of all brackets and in
each pair of open brackets, the innermost first. -/
structure Layout where
  cursor : Cursor
  tokens : Array Token
  indent : Int
  outerIndents : List Int
  key : Option KeyPlace
  outerKeys : List (Option KeyPlace)
  keyAllowed : Bool

namespace Layout

def start (c : Cursor) : Layout := ⟨c, #[], -1, [], none, [], true⟩

/-- Whether the place is between brackets. -/
def inFlow (l : Layout) : Bool := !l.outerKeys.isEmpty

def push (l : Layout) (token : Token) : Layout := { l with tokens := l.tokens.push token }

/-- A token in front of some others. -/
def insert (l : Layout) (number : Nat) (token : Token) : Layout :=
  { l with tokens := l.tokens.take number ++ #[token] ++ l.tokens.drop number }

/-- A key ends on its line, after at most this many characters. -/
def longestKey : Nat := 1024

/-- Keys whose line is over are none; it is an error if a key was required. -/
def expire (l : Layout) : Option Layout := do
  let key ← check l.key
  let outerKeys ← l.outerKeys.mapM check
  return { l with key, outerKeys }
where
  check : Option KeyPlace → Option (Option KeyPlace)
    | none => some none
    | some k =>
      if k.line < l.cursor.line || k.index + longestKey < l.cursor.index then
        if k.required then none else some none
      else some (some k)

/-- The innermost possible key is none; it is an error if it was required. -/
def dropKey (l : Layout) : Option Layout :=
  if l.key.any (·.required) then none else some { l with key := none }

/-- The next token may start a key, where keys are allowed. -/
def keepKey (l : Layout) : Option Layout :=
  if l.keyAllowed then do
    let c := l.cursor
    let required := !l.inFlow && l.indent = (c.column : Int)
    let l ← l.dropKey
    return { l with key := some ⟨required, l.tokens.size, c.line, c.column, c.index⟩ }
  else some l

/-- A block opens at a column further to the right, in front of the token of a number. -/
def openBlock (l : Layout) (column number : Nat) (token : Token) : Layout :=
  if l.inFlow || (column : Int) ≤ l.indent then l
  else { l.insert number token with indent := column, outerIndents := l.indent :: l.outerIndents }

/-- Blocks close that are indented by more than `column`. -/
def closeBlocks (l : Layout) (column : Int) : Layout :=
  if l.inFlow then l else go l.indent l.outerIndents l.tokens
where
  go (indent : Int) : List Int → Array Token → Layout
    | [], tokens => { l with tokens, indent, outerIndents := [] }
    | outer :: outerIndents, tokens =>
      if column < indent then go outer outerIndents (tokens.push .blockEnd)
      else { l with tokens, indent, outerIndents := outer :: outerIndents }

def passed (l : Layout) (n : Nat) : Layout := { l with cursor := l.cursor.after n }

def movedTo (l : Layout) (rest : List Char) : Layout := { l with cursor := l.cursor.moveTo rest }

def allowing (l : Layout) (keyAllowed : Bool) : Layout := { l with keyAllowed }

/-- A mark of `n` characters at the start of a line, which belongs to no block. -/
def outside (l : Layout) (token : Token) (n : Nat) : Option Layout := do
  let l ← (l.closeBlocks (-1)).dropKey
  return ((l.push token).passed n).allowing false

def openFlow (l : Layout) (token : Token) : Option Layout := do
  let l ← l.keepKey
  return { (l.push token).passed 1 with
    key := none, outerKeys := l.key :: l.outerKeys, keyAllowed := true }

def closeFlow (l : Layout) (token : Token) : Option Layout := do
  let l ← l.dropKey
  let l := ((l.push token).passed 1).allowing false
  match l.outerKeys with
  | [] => return l
  | key :: outerKeys => return { l with key, outerKeys }

/-- A mark between brackets that a key may follow. -/
def separator (l : Layout) (token : Token) : Option Layout := do
  let l ← l.dropKey
  return ((l.push token).passed 1).allowing true

/-- An item or a key with a mark of its own, which opens a block where there is none at its
column. -/
def marked (l : Layout) (blockStart token : Token) : Option Layout := do
  if !l.inFlow && !l.keyAllowed then none
  let l ← (l.openBlock l.cursor.column l.tokens.size blockStart).dropKey
  return ((l.push token).passed 1).allowing (token = .item || !l.inFlow)

/-- The colon of a value. It makes a key of the token at the place that is kept. -/
def value (l : Layout) : Option Layout :=
  match l.key with
  | some k =>
    let l := (l.insert k.number .key).openBlock k.column k.number .mapStart
    some ((({ l with key := none }.push .value).passed 1).allowing false)
  | none =>
    if !l.inFlow && !l.keyAllowed then none
    else
      let l := l.openBlock l.cursor.column l.tokens.size .mapStart
      some (((l.push .value).passed 1).allowing !l.inFlow)

/-- A token that may start a key, up to `rest`. -/
def word (l : Layout) (token : Token) (rest : List Char) (keyAllowed : Bool) : Option Layout := do
  let l ← l.keepKey
  return ((l.push token).movedTo rest).allowing keyAllowed

/-- A block of text, after its mark. -/
def block (l : Layout) (folded : Bool) (cs : List Char) : Option Layout := do
  let l ← l.dropKey
  let s ← scanBlock folded l.indent cs
  return ((l.push (.scalar (if folded then .other else .literal) s.text)).movedTo s.rest).allowing
    true

/-- The next token, whose first character and the rest are given. -/
def token (l : Layout) (x : Char) (cs : List Char) : Option Layout :=
  let c := l.cursor
  let flow := l.inFlow
  if c.column = 0 && x = '%' then do
    let (directive, rest) ← scanDirective cs
    let l ← (l.closeBlocks (-1)).dropKey
    return ((l.push (.directive directive)).movedTo (rest.drop 1)).allowing false
  else if c.column = 0 && isMarker (x :: cs) then
    l.outside (if x = '-' then .documentStart else .documentEnd) 3
  else if x = '[' then l.openFlow .flowListStart
  else if x = '\x7b' then l.openFlow .flowMapStart
  else if x = ']' then l.closeFlow .flowListEnd
  else if x = '\x7d' then l.closeFlow .flowMapEnd
  else if x = ',' then l.separator .comma
  else if x = '-' && endsWord cs then
    if flow then l.separator .item else l.marked .listStart .item
  else if x = '?' && (flow || endsWord cs) then l.marked .mapStart .key
  else if x = ':' && (flow || endsWord cs) then l.value
  else if x = '*' then do
    let (name, rest) ← scanName cs
    l.word (.reference name) rest false
  else if x = '&' then do
    let (name, rest) ← scanName cs
    l.word (.anchor name) rest false
  else if x = '!' then do
    let (tag, rest) ← scanTag flow cs
    l.word (.tag tag) rest false
  else if x = '|' && !flow then l.block false cs
  else if x = '>' && !flow then l.block true cs
  else if x = '\'' then do
    let s ← scanSingle cs
    l.word (.scalar .other s.text) s.rest false
  else if x = '"' then do
    let s ← scanDouble cs
    l.word (.scalar .other s.text) s.rest false
  else if startsPlain flow (x :: cs) then do
    let s ← scanPlain flow l.indent (x :: cs) c.column
    l.word (.scalar .plain s.text) s.rest s.crossed
  else none

/-- The place of the next token: what is to be skipped is skipped, keys whose line is over are
dropped, and blocks are closed that the column is outside of. -/
def settle (l : Layout) : Option Layout := do
  let (cursor, keyAllowed) := l.cursor.skip l.inFlow l.keyAllowed
  let l ← { l with cursor, keyAllowed }.expire
  return l.closeBlocks cursor.column

/-- All tokens up to the end of the text. Every step reads a character. -/
def run : Nat → Layout → Option (Array Token)
  | 0, _ => none
  | fuel + 1, l => do
    let l ← l.settle
    match l.cursor.rest with
    | [] => return (← (l.closeBlocks (-1)).dropKey).tokens
    | x :: cs => run fuel (← l.token x cs)

end Layout

/-- The tokens of a text. -/
def tokens? (s : String) : Option (List Token) := do
  let c ← Cursor.ofText? s
  return (← (Layout.start c).run (c.rest.length + 1)).toList

end DevicePoll.Yaml
