import DevicePoll.Text.Numeral
import DevicePoll.Yaml.Character

/-! Texts in YAML: plain, quoted and in blocks. A common line end inside of a text is folded: one
becomes a blank, and of several all but the first are kept. -/
namespace DevicePoll.Yaml

/-- What stands between two words of a text: blanks, or a line end with the line ends after it. The
first line end is missing where it was escaped. Characters are kept in reverse. -/
inductive Gap where
  | blanks (reversed : List Char)
  | lines (first : Option Char) (later : List Char)

namespace Gap

def none : Gap := blanks []

def isNone : Gap → Bool
  | blanks [] => true
  | _ => false

/-- The gap continued by a blank or by a line end. -/
def add (c : Char) : Gap → Gap
  | blanks reversed => if isBreak c then lines (some c) [] else blanks (c :: reversed)
  | lines first later => lines first (if isBreak c then c :: later else later)

/-- The characters of a gap in reverse. A common line end is folded: alone it is a blank, and before
others it is dropped. -/
def reversed : Gap → List Char
  | blanks reversed => reversed
  | lines (some '\n') later => if later.isEmpty then [' '] else later
  | lines first later => later ++ first.toList

def crossesLine : Gap → Bool
  | blanks _ => false
  | lines _ _ => true

end Gap

/-- A text that was read, whether a line end follows it, and the rest. -/
structure Scanned where
  text : String
  crossed : Bool
  rest : List Char

/-- Whether a plain text may start here. -/
def startsPlain (inFlow : Bool) : List Char → Bool
  | [] => false
  | c :: rest =>
    if endsWord (c :: rest) then false
    else if c = '-' then !rest.head?.any isSpace
    else if !inFlow && (c = '?' || c = ':') then !endsWord rest
    else !isIndicator c

/-- Whether a colon is directly followed by a mark between brackets. -/
def isStrayColon : List Char → Bool
  | ':' :: c :: _ => isFlowMark c || c = '?'
  | _ => false

/-- A plain text. It goes on over lines that are indented by more than `indent`. -/
def scanPlain (inFlow : Bool) (indent : Int) (cs : List Char) (column : Nat) : Option Scanned :=
  go cs column [] Gap.none
where
  finish (read : List Char) (gap : Gap) (rest : List Char) : Option Scanned :=
    some ⟨String.ofList read.reverse, gap.crossesLine, rest⟩
  go : List Char → Nat → List Char → Gap → Option Scanned
    | [], _, read, gap => finish read gap []
    | c :: cs, column, read, gap =>
      if isBreak c then go cs 0 read (gap.add c)
      else if isSpace c then
        if gap.crossesLine && c = '\t' && (column : Int) ≤ indent then none
        else go cs (column + 1) read (gap.add c)
      else if (gap.crossesLine && !inFlow && (column : Int) ≤ indent)
          || (column = 0 && isMarker (c :: cs)) || (!gap.isNone && c = '#') then
        finish read gap (c :: cs)
      else if inFlow && isStrayColon (c :: cs) then none
      else if (c = ':' && endsWord cs) || (inFlow && isFlowMark c) then finish read gap (c :: cs)
      else go cs (column + 1) (c :: (gap.reversed ++ read)) Gap.none

/-- A text in single quotes, after the first of them. A quote in it is written twice. -/
def scanSingle (cs : List Char) : Option Scanned :=
  go cs false [] Gap.none
where
  go : List Char → Bool → List Char → Gap → Option Scanned
    | [], _, _, _ => none
    | '\'' :: '\'' :: cs, _, read, gap => go cs false ('\'' :: (gap.reversed ++ read)) Gap.none
    | c :: cs, atStart, read, gap =>
      if atStart && isMarker (c :: cs) then none
      else if c = '\'' then some ⟨String.ofList (gap.reversed ++ read).reverse, false, cs⟩
      else if isBreak c then go cs true read (gap.add c)
      else if isSpace c then go cs false read (gap.add c)
      else go cs false (c :: (gap.reversed ++ read)) Gap.none

/-- The character of a short escape. -/
def escaped? (c : Char) : Option Char :=
  match c with
  | '0' => some '\x00'
  | 'a' => some '\x07'
  | 'b' => some '\x08'
  | 't' | '\t' => some '\t'
  | 'n' => some '\n'
  | 'v' => some '\x0b'
  | 'f' => some '\x0c'
  | 'r' => some '\r'
  | 'e' => some '\x1b'
  | ' ' => some ' '
  | '"' => some '"'
  | '/' => some '/'
  | '\\' => some '\\'
  | 'N' => some '\x85'
  | '_' => some '\xa0'
  | 'L' => some '\u2028'
  | 'P' => some '\u2029'
  | _ => none

/-- How many hexadecimal digits follow the letter of an escape. -/
def escapeWidth? (c : Char) : Option Nat :=
  match c with
  | 'x' => some 2
  | 'u' => some 4
  | 'U' => some 8
  | _ => none

/-- A text in double quotes, after the first of them. `pending` counts the hexadecimal digits of an
escape that are still to be read, which stand in `hex` in reverse. -/
def scanDouble (cs : List Char) : Option Scanned :=
  go cs false 0 [] [] Gap.none
where
  go : List Char → Bool → Nat → List Char → List Char → Gap → Option Scanned
    | [], _, _, _, _, _ => none
    | c :: cs, _, pending + 1, hex, read, _ =>
      if pending = 0 then
        match Text.codePoint? (c :: hex).reverse with
        | some d => go cs false 0 [] (d :: read) Gap.none
        | none => none
      else go cs false pending (c :: hex) read Gap.none
    | '\\' :: c :: cs, _, 0, _, read, gap =>
      let read := gap.reversed ++ read
      if isBreak c then go cs true 0 [] read (.lines none [])
      else match escapeWidth? c with
        | some width => go cs false width [] read Gap.none
        | none =>
          match escaped? c with
          | some d => go cs false 0 [] (d :: read) Gap.none
          | none => none
    | c :: cs, atStart, 0, _, read, gap =>
      if atStart && isMarker (c :: cs) then none
      else if c = '"' then some ⟨String.ofList (gap.reversed ++ read).reverse, false, cs⟩
      else if isBreak c then go cs true 0 [] read (gap.add c)
      else if isSpace c then go cs false 0 [] read (gap.add c)
      else go cs false 0 [] (c :: (gap.reversed ++ read)) Gap.none

/-- What is kept of the line ends after a block of text. -/
inductive Chomp where
  | strip
  | clip
  | keep

/-- The head of a block: what is kept at its end, and how far its lines are indented, if that is
given. -/
structure BlockHead where
  folded : Bool
  chomp : Chomp
  increment : Option Nat

/-- The head of a block after its mark, and the rest from the next line on. -/
def scanHead (folded : Bool) (cs : List Char) : Option (BlockHead × List Char) := do
  let (head, cs) ← marks cs
  let cs := cs.dropWhile isSpace
  let cs := match cs with
    | '#' :: _ => cs.dropWhile (!isBreak ·)
    | _ => cs
  match cs with
  | [] => some (head, [])
  | c :: rest => if isBreak c then some (head, rest) else none
where
  chomp? (c : Char) : Option Chomp :=
    if c = '+' then some .keep else if c = '-' then some .strip else none
  width? (c : Char) : Option Nat := if '1' ≤ c ∧ c ≤ '9' then some (c.toNat - 48) else none
  marks : List Char → Option (BlockHead × List Char)
    | c :: d :: rest =>
      match chomp? c, width? d, width? c, chomp? d with
      | some chomp, some width, _, _ => some (⟨folded, chomp, some width⟩, rest)
      | some chomp, none, _, _ => some (⟨folded, chomp, none⟩, d :: rest)
      | none, _, some width, some chomp => some (⟨folded, chomp, some width⟩, rest)
      | none, _, some width, none => some (⟨folded, .clip, some width⟩, d :: rest)
      | none, _, none, _ => some (⟨folded, .clip, none⟩, c :: d :: rest)
    | [c] =>
      match chomp? c, width? c with
      | some chomp, _ => some (⟨folded, chomp, none⟩, [])
      | none, some width => some (⟨folded, .clip, some width⟩, [])
      | none, none => some (⟨folded, .clip, none⟩, [c])
    | [] => some (⟨folded, .clip, none⟩, [])

/-- What stands before a line of a block: line ends in reverse, the column of the line and the
widest column on the way. -/
structure Lead where
  breaks : List Char
  column : Nat
  widest : Nat
  rest : List Char

/-- Line ends and indentation up to column `limit`, or of any width. -/
def scanLead (limit : Option Nat) : List Char → Lead → Option Lead
  | [], lead => some { lead with widest := max lead.widest lead.column, rest := [] }
  | c :: cs, lead =>
    if limit.all (lead.column < ·) && c = ' ' then
      scanLead limit cs { lead with column := lead.column + 1 }
    else if limit.all (lead.column < ·) && c = '\t' then none
    else if isBreak c then
      scanLead limit cs
        { lead with
          breaks := c :: lead.breaks, column := 0, widest := max lead.widest lead.column }
    else some { lead with widest := max lead.widest lead.column, rest := c :: cs }

/-- The lines of a block from a line on. `read` is in reverse, `last` is the line end after it, and
`afterBlank` tells whether the last line started with a blank. Every step reads a character, so the
length of what is left bounds the number of steps. -/
def scanLines (head : BlockHead) (indent : Nat) : Nat → Lead → List Char → Option Char → Bool →
    Option (List Char × Option Char × Lead)
  | 0, lead, read, last, _ => some (read, last, lead)
  | fuel + 1, lead, read, last, afterBlank =>
    if lead.column ≠ indent || lead.rest.isEmpty then some (read, last, lead)
    else
      let startsBlank := lead.rest.head?.any isSpace
      let between :=
        if head.folded && last = some '\n' && !afterBlank && !startsBlank then
          if lead.breaks.isEmpty then [' '] else lead.breaks
        else lead.breaks ++ last.toList
      let line := lead.rest.takeWhile (!isBreak ·)
      let rest := lead.rest.dropWhile (!isBreak ·)
      (scanLead (some indent) (rest.drop 1) ⟨[], 0, 0, []⟩).bind fun lead =>
        scanLines head indent fuel lead (line.reverse ++ (between ++ read)) rest.head? startsBlank

/-- A block of text after its mark, inside of a block that is indented by `indent`. -/
def scanBlock (folded : Bool) (indent : Int) (cs : List Char) : Option Scanned := do
  let (head, cs) ← scanHead folded cs
  let fixed := head.increment.map fun n => (max indent 0).toNat + n
  let lead ← scanLead fixed cs ⟨[], 0, 0, []⟩
  let indent := fixed.getD (max lead.widest (max (indent + 1) 1).toNat)
  let (read, last, lead) ← scanLines head indent (cs.length + 1) lead [] none false
  let ending := match head.chomp with
    | .strip => []
    | .clip => last.toList
    | .keep => lead.breaks ++ last.toList
  return ⟨String.ofList (ending ++ read).reverse, true, List.replicate lead.column ' ' ++ lead.rest⟩

end DevicePoll.Yaml
