import DevicePoll.Failure
import DevicePoll.Text.Alphanumeric
import DevicePoll.Text.Blank
import DevicePoll.Text.Numeral

/-! Patterns: which texts are regular expressions for the values of fields. A pattern is checked
from left to right with the modes that hold at a place. What needs the letters or cases of all
scripts is refused, and so is what can match only a part of a character and what stands too deep. -/
namespace DevicePoll.Log.Pattern

/-- How a pattern is taken from a place on. -/
structure Mode where
  /-- Letters match in both cases. -/
  caseless : Bool
  /-- Blanks and remarks are left out. -/
  spaced : Bool
  /-- Characters are matched, not bytes. -/
  wide : Bool

/-- What a backslash makes of what follows it. `reach` tells whether a set has members beyond
ASCII. -/
inductive Escape where
  | char (c : Char) (asByte : Bool)
  | set (reach : Bool)
  | edge (ofWord : Bool)

/-- How deep sets, groups, repetitions, rows and choices may stand in each other. -/
def maxDepth : Nat := 250

/-- A row of parts: how many there are, and how deep the last one and those before it are. -/
structure Row where
  count : Nat
  before : Nat
  last : Nat

namespace Row

def empty : Row := ⟨0, 0, 0⟩

def push (r : Row) (depth : Nat) : Row := ⟨r.count + 1, max r.before r.last, depth⟩

/-- The last part is repeated. -/
def repeatLast (r : Row) : Row := { r with last := r.last + 1 }

/-- A single part stands for itself. -/
def depth (r : Row) : Nat := max r.before r.last + if 1 < r.count then 1 else 0

end Row

/-- How deep a choice is, or a side alone. -/
def besides (left : Option Nat) (depth : Nat) : Nat :=
  match left with
  | some other => max other depth + 1
  | none => depth

/-- Characters with a meaning of their own, which a backslash takes from them. -/
def isMark (c : Char) : Bool := "\\.+*?()|[]\x7b\x7d^$#&-~".toList.contains c

/-- Digits of a fixed number that name a character; blanks may stand between them in `spaced`. -/
def hexDigits (spaced : Bool) : Nat → List Char → List Char → Option (List Char × List Char)
  | 0, read, cs => some (read.reverse, cs)
  | _ + 1, _, [] => none
  | n + 1, read, c :: cs =>
    if (Text.digitIn? 16 c).isSome then hexDigits spaced n (c :: read) cs
    else if spaced && Text.isBlank c then hexDigits spaced (n + 1) read cs
    else none

/-- What stands after a backslash, and the rest. -/
def escape (spaced : Bool) : List Char → Option (Escape × List Char)
  | [] => none
  | c :: cs =>
    if isMark c then some (.char c false, cs)
    else match c with
      | 'x' => hex 2 true cs
      | 'u' => hex 4 false cs
      | 'U' => hex 8 false cs
      | 'd' | 's' | 'w' => some (.set false, cs)
      | 'D' | 'S' | 'W' => some (.set true, cs)
      | 'a' => some (.char '\x07' false, cs)
      | 'f' => some (.char '\x0c' false, cs)
      | 't' => some (.char '\t' false, cs)
      | 'n' => some (.char '\n' false, cs)
      | 'r' => some (.char '\r' false, cs)
      | 'v' => some (.char '\x0b' false, cs)
      | 'A' | 'z' => some (.edge false, cs)
      | 'b' | 'B' | '<' | '>' => some (.edge true, cs)
      | _ => if c.toNat < 0x80 && !c.isAlphanum then some (.char c false, cs) else none
where
  hex (width : Nat) (asByte : Bool) (cs : List Char) : Option (Escape × List Char) := do
    let (ds, cs) ← hexDigits spaced width [] cs
    return (.char (← Text.codePoint? ds) asByte, cs)

/-- Blanks and remarks are skipped where they are left out. -/
def skip (spaced : Bool) (cs : List Char) : List Char :=
  if spaced then go false cs else cs
where
  go : Bool → List Char → List Char
    | _, [] => []
    | true, c :: cs => go (c ≠ '\n') cs
    | false, c :: cs =>
      if Text.isBlank c then go false cs else if c = '#' then go true cs else c :: cs

/-- Whether a character may stand for itself outside of sets. -/
def Mode.allowsChar (m : Mode) (c : Char) (asByte : Bool) : Bool :=
  if m.wide then !m.caseless else !(asByte && 0x80 ≤ c.toNat && c.toNat ≤ 0xFF)

/-- Whether a character may stand for itself in a set. -/
def Mode.allowsMember (m : Mode) (c : Char) : Bool :=
  if m.wide then !m.caseless else c.toNat < 0x80

def setNames : List String :=
  ["alnum", "alpha", "ascii", "blank", "cntrl", "digit", "graph", "lower", "print", "punct",
    "space", "upper", "word", "xdigit"]

/-- A named set in brackets and colons, after the bracket: whether it is the complement, and the
rest. -/
def namedSet? : List Char → Option (Bool × List Char)
  | ':' :: cs =>
    let (complement, cs) := match cs with
      | '^' :: cs => (true, cs)
      | cs => (false, cs)
    match cs.dropWhile (· ≠ ':') with
    | ':' :: ']' :: rest =>
      if setNames.contains (String.ofList (cs.takeWhile (· ≠ ':'))) then some (complement, rest)
      else none
    | _ => none
  | _ => none

/-- A set in brackets that is still open: whether it is the complement, what the operation before
makes of the members to come, how deep its left side is, whether a member so far reaches beyond
ASCII, and the members so far. -/
structure Bracket where
  complement : Bool
  left : Bool → Bool
  leftDepth : Option Nat
  reach : Bool
  row : Row

namespace Bracket

def add (b : Bracket) (reach : Bool) (depth : Nat) : Bracket :=
  { b with reach := b.reach || reach, row := b.row.push depth }

/-- How deep the set is. -/
def depth (b : Bracket) : Nat := besides b.leftDepth b.row.depth

/-- The members so far are the left side of an operation. -/
def operate (b : Bracket) (op : Bool → Bool → Bool) : Bracket :=
  ⟨b.complement, op (b.left b.reach), some b.depth, false, .empty⟩

/-- Whether the whole set reaches beyond ASCII. -/
def close (b : Bracket) : Bool := (b.left b.reach).xor b.complement

end Bracket

/-- The start of a set after its bracket. Hyphens in front are members, and a closing bracket is one
if it is the first. -/
def openSet (m : Mode) (cs : List Char) : Option (Bracket × List Char) :=
  let (complement, cs) := match skip m.spaced cs with
    | '^' :: cs => (true, skip m.spaced cs)
    | cs => (false, cs)
  let (row, cs) := hyphens cs.length .empty cs
  if 0 < row.count then if m.allowsMember '-' then start complement row cs else none
  else match cs with
    | ']' :: rest =>
      if m.allowsMember ']' then start complement (row.push 0) (skip m.spaced rest) else none
    | _ => start complement row cs
where
  start (complement : Bool) (row : Row) (cs : List Char) : Option (Bracket × List Char) :=
    some (⟨complement, id, none, false, row⟩, cs)
  hyphens : Nat → Row → List Char → Row × List Char
    | fuel + 1, row, '-' :: cs => hyphens fuel (row.push 0) (skip m.spaced cs)
    | _, row, cs => (row, cs)

/-- One member of a set, or the start of a range. -/
def member : Bool → List Char → Option (Escape × List Char)
  | spaced, '\\' :: cs => escape spaced cs
  | _, c :: cs => some (.char c false, cs)
  | _, [] => none

/-- A member or a range at a place in a set: whether it reaches beyond ASCII, and the rest. -/
def memberOrRange (m : Mode) (cs : List Char) : Option (Bool × List Char) := do
  let (first, cs) ← member m.spaced cs
  match skip m.spaced cs with
  | [] => none
  | c :: rest =>
    let after := skip m.spaced rest
    if c ≠ '-' || after.head? = some ']' || after.head? = some '-' then
      match first with
      | .char d _ => if m.allowsMember d then some (false, c :: rest) else none
      | .set reach => if m.wide then none else some (reach, c :: rest)
      | .edge _ => none
    else
      let (last, rest) ← member m.spaced after
      match first, last with
      | .char d _, .char e _ =>
        if d ≤ e && m.allowsMember d && m.allowsMember e then some (false, rest) else none
      | _, _ => none

/-- How deep a set in brackets is, of which some are open, and the rest after it. -/
def set (m : Mode) : Nat → List Bracket → List Char → Option (Nat × List Char)
  | 0, _, _ | _ + 1, [], _ => none
  | fuel + 1, b :: outer, cs =>
    match skip m.spaced cs with
    | [] => none
    | '[' :: cs =>
      match namedSet? cs with
      | some (complement, rest) =>
        if m.wide && m.caseless then none
        else set m fuel (b.add complement 0 :: outer) rest
      | none => do
        let (inner, cs) ← openSet m cs
        set m fuel (inner :: b :: outer) cs
    | ']' :: cs =>
      if !m.wide && b.close then none
      else match outer with
        | [] => some (b.depth + 1, cs)
        | o :: outer => set m fuel (o.add b.close (b.depth + 1) :: outer) cs
    | '&' :: '&' :: cs => set m fuel (b.operate (· && ·) :: outer) cs
    | '-' :: '-' :: cs => set m fuel (b.operate (fun x y => x && !y) :: outer) cs
    | '~' :: '~' :: cs => set m fuel (b.operate xor :: outer) cs
    | cs => do
      let (reach, cs) ← memberOrRange m cs
      set m fuel (b.add reach 0 :: outer) cs

/-- Flags up to a colon or a closing bracket: the mode that they make, the mark that ends them, and
the rest. No flag and no minus sign may stand there twice. -/
def flags (m : Mode) (seen : List Char) : List Char → Option (Mode × Char × List Char)
  | [] => none
  | c :: cs =>
    if c = ':' || c = ')' then
      if seen.head? = some '-' || (c = ')' && seen.isEmpty) then none else some (m, c, cs)
    else if seen.contains c || !"-imsUuRx".toList.contains c then none
    else
      let on := !seen.contains '-'
      let m :=
        if c = 'i' then { m with caseless := on }
        else if c = 'x' then { m with spaced := on }
        else if c = 'u' then { m with wide := on }
        else m
      flags m (c :: seen) cs

/-- The name of a group up to its closing mark, and the rest. -/
def groupName (read : List Char) : List Char → Option (List Char × List Char)
  | [] => none
  | c :: cs =>
    if c = '>' then if read.isEmpty then none else some (read.reverse, cs)
    else if c = '_' || (Text.isAlphanumeric c && !(read.isEmpty && c.isDigit))
        || (!read.isEmpty && (c = '.' || c = '[' || c = ']')) then groupName (c :: read) cs
    else none

/-- The mode around an open group, and the parts and the choices before it. -/
structure Around where
  mode : Mode
  row : Row
  choices : Option Nat

/-- What is known at a place outside of sets: the mode, the parts since the last bar, how deep the
choices before it are, what is around the open groups, the names of groups, whether something to be
repeated stands before, and whether the edge of a word was asked for. -/
structure State where
  mode : Mode
  row : Row
  choices : Option Nat
  outer : List Around
  names : List (List Char)
  repeatable : Bool
  wordEdge : Bool

namespace State

def start : State := ⟨⟨false, false, true⟩, .empty, none, [], [], false, false⟩

def item (s : State) (depth : Nat) : State :=
  { s with row := s.row.push depth, repeatable := true }

/-- How deep the parts of the innermost open group are. -/
def depth (s : State) : Nat := besides s.choices s.row.depth

/-- A bar ends a choice. -/
def choice (s : State) : State :=
  { s with
    row := .empty, choices := some (max (s.choices.getD 0) s.row.depth), repeatable := false }

def openGroup (s : State) (mode : Mode) : State :=
  { s with
    mode, row := .empty, choices := none, outer := ⟨s.mode, s.row, s.choices⟩ :: s.outer,
    repeatable := false }

def closeGroup (s : State) : Option State :=
  match s.outer with
  | [] => none
  | a :: outer =>
    some ({ s with mode := a.mode, row := a.row, choices := a.choices, outer }.item (s.depth + 1))

/-- A group or flags after an opening bracket. -/
def group (s : State) (cs : List Char) : Option (State × List Char) :=
  match skip s.mode.spaced cs with
  | '?' :: 'P' :: '<' :: cs => named cs
  | '?' :: '<' :: '=' :: _ | '?' :: '<' :: '!' :: _ => none
  | '?' :: '<' :: cs => named cs
  | '?' :: cs => do
    let (mode, mark, cs) ← flags s.mode [] cs
    if mark = ':' then return (s.openGroup mode, cs)
    else return ({ s.item 0 with mode, repeatable := false }, cs)
  | cs => some (s.openGroup s.mode, cs)
where
  named (cs : List Char) : Option (State × List Char) := do
    let (name, cs) ← groupName [] cs
    if s.names.contains name then none
    else return ({ s.openGroup s.mode with names := name :: s.names }, cs)

/-- The next part of a pattern. -/
def step (s : State) (c : Char) (cs : List Char) : Option (State × List Char) :=
  match c with
  | '(' => s.group cs
  | ')' => s.closeGroup.map (·, cs)
  | '|' => some (s.choice, cs)
  | '[' => do
    let (b, cs) ← openSet s.mode cs
    let (depth, cs) ← set s.mode (cs.length + 1) [b] cs
    return (s.item depth, cs)
  | '?' | '*' | '+' =>
    if !s.repeatable then none
    else some ({ s with row := s.row.repeatLast }, match cs with
      | '?' :: cs => cs
      | cs => cs)
  | '\x7b' => none
  | '.' => if s.mode.wide then some (s.item 0, cs) else none
  | '^' | '$' => some (s.item 0, cs)
  | '\\' => do
    match ← escape s.mode.spaced cs with
    | (.char d asByte, cs) => if s.mode.allowsChar d asByte then some (s.item 0, cs) else none
    | (.set reach, cs) => if s.mode.wide || reach then none else some (s.item 0, cs)
    | (.edge ofWord, cs) =>
      some ({ s.item 0 with wordEdge := s.wordEdge || (ofWord && s.mode.wide) }, cs)
  | c => if s.mode.allowsChar c false then some (s.item 0, cs) else none

/-- The state at the end of a pattern. Every step reads a character. -/
def run : Nat → State → List Char → Option State
  | 0, _, _ => none
  | fuel + 1, s, cs =>
    match skip s.mode.spaced cs with
    | [] => if s.outer.isEmpty && s.depth ≤ maxDepth then some s else none
    | c :: cs => do
      let (s, cs) ← s.step c cs
      run fuel s cs

end State

/-- Whether a text is a pattern, and if not, why. -/
def check (pattern : List Char) : Except Failure.FilterFault Unit :=
  match State.start.run (pattern.length + 1) pattern with
  | none => .error .badPattern
  | some s => if s.wordEdge then .error .wordEdge else .ok ()

end DevicePoll.Log.Pattern
