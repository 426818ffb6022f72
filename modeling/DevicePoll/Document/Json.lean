import DevicePoll.Document.Reader
import DevicePoll.Decimal.Real
import DevicePoll.Text.Numeral

/-! Documents as JSON text. A reader refuses a text at the first character that cannot belong to a
document and says where it stands. Whole numbers of 64 bits are kept exactly, and every other number
is a real that is computed from at most the leading digits that fit a word. -/
namespace DevicePoll.Document.Json

/-- Why a text is not a document. -/
inductive SyntaxFault where
  | endInValue
  | endInText
  | endInList
  | endInObject
  | wantsValue
  | wantsName
  | wantsColon
  | wantsListNext
  | wantsObjectNext
  | wantsKey
  | commaAtEnd
  | badNumber
  | numberTooLarge
  | badEscape
  | badCodePoint
  | loneSurrogate
  | hexEscapeEnds
  | controlCharacter
  | tooDeep
  | moreCharacters
  deriving DecidableEq, Repr

def SyntaxFault.wording : SyntaxFault → String
  | endInValue => "EOF while parsing a value"
  | endInText => "EOF while parsing a string"
  | endInList => "EOF while parsing a list"
  | endInObject => "EOF while parsing an object"
  | wantsValue => "expected value"
  | wantsName => "expected ident"
  | wantsColon => "expected `:`"
  | wantsListNext => "expected `,` or `]`"
  | wantsObjectNext => "expected `,` or `\x7d`"
  | wantsKey => "key must be a string"
  | commaAtEnd => "trailing comma"
  | badNumber => "invalid number"
  | numberTooLarge => "number out of range"
  | badEscape => "invalid escape"
  | badCodePoint => "invalid unicode code point"
  | loneSurrogate => "lone leading surrogate in hex escape"
  | hexEscapeEnds => "unexpected end of hex escape"
  | controlCharacter => "control character (\\u0000-\\u001F) found while parsing a string"
  | tooDeep => "recursion limit exceeded"
  | moreCharacters => "trailing characters"

/-- A fault and the number of bytes that were still unread where it is noticed. -/
structure Refusal where
  fault : SyntaxFault
  unread : Nat
  deriving Repr

abbrev Scan (α : Type) : Type := Except Refusal (α × List Char)

/-- The number of bytes of a text. -/
def byteCount (cs : List Char) : Nat := cs.foldl (fun n c => n + c.utf8Size) 0

/-- A fault that is noticed after some bytes of what is left. -/
def refuseAfter {α : Type} (bytes : Nat) (fault : SyntaxFault) (rest : List Char) :
    Except Refusal α :=
  .error ⟨fault, byteCount rest - bytes⟩

/-- A fault right after the characters that were read. -/
def refuse {α : Type} (fault : SyntaxFault) (rest : List Char) : Except Refusal α :=
  refuseAfter 0 fault rest

/-- A fault of the next character, which shows at its first byte. -/
def refuseNext {α : Type} (fault : SyntaxFault) (rest : List Char) : Except Refusal α :=
  refuseAfter 1 fault rest

def isSpace (c : Char) : Bool := c = ' ' || c = '\n' || c = '\t' || c = '\r'

def skip (cs : List Char) : List Char := cs.dropWhile isSpace

/-- The rest after the characters of a name. -/
def scanName : List Char → List Char → Except Refusal (List Char)
  | [], cs => .ok cs
  | _ :: _, [] => refuse .endInValue []
  | n :: name, c :: cs => if n = c then scanName name cs else refuseNext .wantsName (c :: cs)

def powerOfTen (n : Nat) : Float := Float.ofScientific 1 false n

/-- Scales a real down by powers of ten that a real can hold. -/
def scaleDown : Nat → Float → Nat → Float
  | 0, x, _ => x
  | fuel + 1, x, n =>
    if n ≤ 308 then x / powerOfTen n
    else if x == 0 then x
    else scaleDown fuel (x / powerOfTen 308) (n - 308)

/-- The real `significand * 10 ^ exponent`, computed by one product or by quotients. -/
def scaled (significand : Nat) (exponent : Int) : Option Float :=
  let x := Float.ofNat significand
  if exponent < 0 then some (scaleDown 8 x exponent.natAbs)
  else if exponent ≤ 308 then
    let y := x * powerOfTen exponent.natAbs
    if y.isInf then none else some y
  else if significand = 0 then some x else none

/-- Digits that still fit a word, in `significand`; the others are only counted. -/
structure Significand where
  value : Nat
  taken : Nat
  dropped : Nat

/-- Continues a significand by a run of digits. Once a digit does not fit, none of the rest is
taken. -/
def takeDigits (s : Significand) : List Nat → Significand
  | [] => s
  | d :: ds =>
    if s.dropped = 0 ∧ s.value * 10 + d ≤ Decimal.maxUnsigned then
      takeDigits ⟨s.value * 10 + d, s.taken + 1, s.dropped⟩ ds
    else takeDigits ⟨s.value, s.taken, s.dropped + 1⟩ ds

/-- The largest power of ten that is told apart, `2 ^ 31 - 1`. -/
def maxPower : Nat := 0x7FFFFFFF

/-- How many digits of a power of ten are read until it is too large, after a power of `n`. -/
def powerLength (n : Nat) : List Nat → Nat
  | [] => 0
  | d :: ds => if n * 10 + d ≤ maxPower then powerLength (n * 10 + d) ds + 1 else 1

/-- A real from its parts, with the power of ten that may follow. -/
def scanPower (negative : Bool) (significand : Nat) (exponent : Int) (cs : List Char) :
    Scan Document :=
  let finish (exponent : Int) (rest : List Char) : Scan Document :=
    match scaled significand exponent with
    | some x => .ok (.real (if negative then -x else x), rest)
    | none => refuse .numberTooLarge rest
  match cs with
  | c :: afterLetter =>
    if c = 'e' || c = 'E' then
      let (down, ds) := match afterLetter with
        | '+' :: r => (false, r)
        | '-' :: r => (true, r)
        | r => (false, r)
      match Decimal.spanDigits ds with
      | ([], []) => refuse .endInValue []
      | ([], rest) => refuseNext .badNumber rest
      | (power, rest) =>
        let n := Decimal.valueOf power
        if n ≤ maxPower then finish (if down then exponent - n else exponent + n) rest
        else if significand ≠ 0 ∧ !down then
          refuseAfter (powerLength 0 power) .numberTooLarge ds
        else .ok (.real (if negative then -0.0 else 0.0), rest)
    else finish exponent cs
  | [] => finish exponent []

/-- A number after its sign. -/
def scanNumber (negative : Bool) (cs : List Char) : Scan Document :=
  match Decimal.spanDigits cs with
  | ([], []) => refuse .endInValue []
  | ([], rest) => refuseNext .badNumber rest
  | (0 :: _ :: _, _) => refuseNext .badNumber (cs.drop 1)
  | (ds, rest) =>
    let s := takeDigits ⟨0, 0, 0⟩ ds
    match rest with
    | '.' :: afterPoint =>
      match Decimal.spanDigits afterPoint with
      | ([], []) => refuse .endInValue []
      | ([], r) => refuseNext .badNumber r
      | (places, r) =>
        let t := takeDigits ⟨s.value, 0, 0⟩ places
        scanPower negative t.value ((s.dropped : Int) - t.taken) r
    | c :: _ =>
      if c = 'e' || c = 'E' || 0 < s.dropped then scanPower negative s.value s.dropped rest
      else .ok (whole s.value, rest)
    | [] =>
      if 0 < s.dropped then scanPower negative s.value s.dropped []
      else .ok (whole s.value, [])
where
  /-- A number without a point or a power; a negative one below the signed range is a real. -/
  whole (n : Nat) : Document :=
    if negative then
      if n = 0 ∨ Decimal.maxSigned + 1 < n then .real (-Float.ofNat n) else .integer (-(n : Int))
    else .integer n

/-- Four hexadecimal digits. Four bytes are taken before they are looked at. -/
def scanHex (cs : List Char) : Scan Nat :=
  if byteCount cs < 4 then refuse .endInText []
  else
    match Text.magnitude? 16 (cs.take 4) with
    | some n => if cs.length < 4 then refuseAfter 4 .badEscape cs else .ok (n, cs.drop 4)
    | none => refuseAfter 4 .badEscape cs

/-- A code point in hexadecimal, in one unit of 16 bits or in two. -/
def scanCodePoint (cs : List Char) : Scan Char :=
  match scanHex cs with
  | .error refusal => .error refusal
  | .ok (n, rest) =>
    if 0xDC00 ≤ n ∧ n ≤ 0xDFFF then refuse .loneSurrogate rest
    else if 0xD800 ≤ n ∧ n ≤ 0xDBFF then
      match rest with
      | '\\' :: 'u' :: low =>
        match scanHex low with
        | .error refusal => .error refusal
        | .ok (m, rest) =>
          if 0xDC00 ≤ m ∧ m ≤ 0xDFFF then
            .ok (Char.ofNat ((n - 0xD800) * 0x400 + (m - 0xDC00) + 0x10000), rest)
          else refuse .loneSurrogate rest
      | ['\\'] => refuse .endInText []
      | '\\' :: rest => refuseNext .hexEscapeEnds rest
      | [] => refuse .endInText []
      | rest => refuseNext .hexEscapeEnds rest
    else .ok (Char.ofNat n, rest)

/-- The characters of a text up to its closing quote. Every step reads a character, so the length of
what is left bounds the number of steps. -/
def scanText : Nat → List Char → List Char → Scan String
  | 0, _, cs => refuse .endInText cs
  | _ + 1, _, [] => refuse .endInText []
  | fuel + 1, read, c :: rest =>
    if c = '"' then .ok (String.ofList read.reverse, rest)
    else if c = '\\' then
      match rest with
      | [] => refuse .endInText []
      | '"' :: r => scanText fuel ('"' :: read) r
      | '\\' :: r => scanText fuel ('\\' :: read) r
      | '/' :: r => scanText fuel ('/' :: read) r
      | 'b' :: r => scanText fuel ('\x08' :: read) r
      | 'f' :: r => scanText fuel ('\x0c' :: read) r
      | 'n' :: r => scanText fuel ('\n' :: read) r
      | 'r' :: r => scanText fuel ('\r' :: read) r
      | 't' :: r => scanText fuel ('\t' :: read) r
      | 'u' :: r =>
        match scanCodePoint r with
        | .ok (d, r) => scanText fuel (d :: read) r
        | .error e => .error e
      | r => refuseNext .badEscape r
    else if c.toNat < 0x20 then refuse .controlCharacter rest
    else scanText fuel (c :: read) rest

def scanQuoted (cs : List Char) : Scan String := scanText (cs.length + 1) [] cs

/-- How deep lists and objects may stand in each other. -/
def maxDepth : Nat := 127

mutual

/-- A document at the start of a text. `fuel` bounds the steps and `depth` the nesting. -/
def scanDocument : Nat → Nat → List Char → Scan Document
  | 0, _, cs => refuse .tooDeep cs
  | fuel + 1, depth, cs =>
    match skip cs with
    | [] => refuse .endInValue []
    | c :: rest =>
      if c = 'n' then (scanName "ull".toList rest).map fun r => (.null, r)
      else if c = 't' then (scanName "rue".toList rest).map fun r => (.boolean true, r)
      else if c = 'f' then (scanName "alse".toList rest).map fun r => (.boolean false, r)
      else if c = '-' then scanNumber true rest
      else if c.isDigit then scanNumber false (c :: rest)
      else if c = '"' then (scanQuoted rest).map fun (s, r) => (.text s, r)
      else if c = '[' then
        match depth with
        | 0 => refuse .tooDeep rest
        | depth + 1 => (scanItems fuel depth true rest).map fun (items, r) => (.list items, r)
      else if c = '\x7b' then
        match depth with
        | 0 => refuse .tooDeep rest
        | depth + 1 =>
          (scanEntries fuel depth true rest).map fun (entries, r) =>
            (.object (canonicalEntries entries), r)
      else refuseNext .wantsValue (c :: rest)

/-- The items of a list up to its closing bracket. -/
def scanItems : Nat → Nat → Bool → List Char → Scan (List Document)
  | 0, _, _, cs => refuse .tooDeep cs
  | fuel + 1, depth, first, cs =>
    match skip cs with
    | [] => refuse .endInList []
    | ']' :: rest => .ok ([], rest)
    | c :: rest =>
      let start : Except Refusal (List Char) :=
        if first then .ok (c :: rest)
        else if c = ',' then
          match skip rest with
          | ']' :: r => refuse .commaAtEnd r
          | r => .ok r
        else refuseNext .wantsListNext (c :: rest)
      match start with
      | .error e => .error e
      | .ok cs =>
        match scanDocument fuel depth cs with
        | .error e => .error e
        | .ok (item, r) => (scanItems fuel depth false r).map fun (items, r) => (item :: items, r)

/-- The entries of an object up to its closing brace. -/
def scanEntries : Nat → Nat → Bool → List Char → Scan (List (String × Document))
  | 0, _, _, cs => refuse .tooDeep cs
  | fuel + 1, depth, first, cs =>
    match skip cs with
    | [] => refuse .endInObject []
    | '\x7d' :: rest => .ok ([], rest)
    | c :: rest =>
      let start : Except Refusal (List Char) :=
        if first then if c = '"' then .ok rest else refuseNext .wantsKey (c :: rest)
        else if c = ',' then
          match skip rest with
          | [] => refuse .endInValue []
          | '"' :: r => .ok r
          | '\x7d' :: r => refuse .commaAtEnd r
          | r => refuseNext .wantsKey r
        else refuseNext .wantsObjectNext (c :: rest)
      match start with
      | .error e => .error e
      | .ok cs =>
        match scanQuoted cs with
        | .error e => .error e
        | .ok (label, r) =>
          match skip r with
          | [] => refuse .endInObject []
          | ':' :: r =>
            match scanDocument fuel depth r with
            | .error e => .error e
            | .ok (value, r) =>
              (scanEntries fuel depth false r).map fun (entries, r) =>
                ((label, value) :: entries, r)
          | r => refuseNext .wantsColon r

end

/-- Line and column, counted in bytes, of a place in a text: the number of bytes left there is
given. -/
def place (cs : List Char) (unread : Nat) : Nat × Nat :=
  let bytes := (String.ofList cs).toUTF8.toList
  let read := bytes.take (bytes.length - unread)
  ((read.filter (· = 10)).length + 1, (read.reverse.takeWhile (· ≠ 10)).length)

/-- The fault with its place. -/
def Refusal.text (refusal : Refusal) (cs : List Char) : String :=
  let (line, column) := place cs refusal.unread
  refusal.fault.wording ++ " at line " ++ Decimal.natText line ++ " column " ++
    Decimal.natText column

/-- Reads one document with a reader of values, and nothing after it. -/
def readWith {α : Type} (read : Document → Read α) (s : String) : Read α :=
  let cs := s.toList
  match scanDocument (2 * cs.length + 4) maxDepth cs with
  | .error refusal => .error (.refused (refusal.text cs))
  | .ok (document, rest) =>
    match read document with
    | .error mismatch => .error mismatch
    | .ok value =>
      match skip rest with
      | [] => .ok value
      | more =>
        .error (.refused (Refusal.text ⟨.moreCharacters, byteCount more - 1⟩ cs))

/-- The document of a text. -/
def parse (s : String) : Read Document := readWith .ok s

mutual

/-- The shortest text of a document, without blanks. -/
def write : Document → String
  | .null => "null"
  | .boolean value => if value then "true" else "false"
  | .integer value => Decimal.intText value
  | .real value => if value.isFinite then Decimal.dataText value else "null"
  | .text value => Text.written value
  | .list items => "[" ++ ",".intercalate (writeItems items) ++ "]"
  | .object entries => "\x7b" ++ ",".intercalate (writeEntries entries) ++ "\x7d"
  | .table entries => "\x7b" ++ ",".intercalate (writePairs entries) ++ "\x7d"

def writeItems : List Document → List String
  | [] => []
  | item :: items => write item :: writeItems items

def writeEntries : List (String × Document) → List String
  | [] => []
  | (label, value) :: entries => (Text.written label ++ ":" ++ write value) :: writeEntries entries

/-- A key that is no text is written as the text of its own text. -/
def writePairs : List (Document × Document) → List String
  | [] => []
  | (key, value) :: entries =>
    (Text.written (write key) ++ ":" ++ write value) :: writePairs entries

end
end DevicePoll.Document.Json
