import DevicePoll.Decimal.Real
import DevicePoll.Log.Pattern
import DevicePoll.Text.Bytes

/-! Log filters: directives between commas, each the name of a level, or a target with an optional
span, a field in braces and a level after an equals sign. Places are counted in the bytes of the
directive without its blanks, but parts are cut out of the directive as it is written, so blanks in
front of it shift them. -/
namespace DevicePoll.Log

def levelNames : List String := ["off", "error", "warn", "info", "debug", "trace"]

/-- A level by name in any case of letters, or by a number up to five. -/
def isLevel (s : String) : Bool :=
  levelNames.contains s.toLower ||
    match Decimal.readNat s.toList with
    | .ok n => n ≤ 5
    | .error _ => false

/-- A field is a name, or a name and a value after an equals sign: a number or a pattern. -/
def checkField (field : List Char) : Except Failure.FilterFault Unit :=
  match field.splitOn '=' with
  | _ :: value :: _ =>
    if (Decimal.readReal (String.ofList value)).isSome then .ok () else Pattern.check value
  | _ => .ok ()

/-- What is being read of a directive. A field or a level is given by the place where it starts. -/
inductive Part where
  | start
  | name
  | span
  | field (place : Nat)
  | fields
  | target
  | level (place : Nat)

def startsName (c : Char) : Bool :=
  c = '-' || c = ':' || c = '_' || Text.isAlphanumeric c

/-- The part after a character at a place of a directive. -/
def Part.next (directive : List Char) (place : Nat) (c : Char) :
    Part → Except Failure.FilterFault Part
  | start => if c = '[' then .ok span else if startsName c then .ok name else .error .badDirective
  | name => .ok (if c = '=' then level (place + 1) else if c = '[' then span else name)
  | span => .ok (if c = ']' then target else if c = '\x7b' then field (place + 1) else span)
  | field first =>
    if c ≠ '\x7d' then .ok (field first)
    else if first = place then .error .badDirective
    else
      (checkField (Text.takeBytes (place - first) (Text.dropBytes first directive))).map
        fun _ => fields
  | fields => if c = ']' then .ok target else .error .badDirective
  | target => if c = '=' then .ok (level (place + 1)) else .error .badDirective
  | level first => .ok (level first)

/-- The part that is read at the end of a directive. -/
def lastPart (directive : List Char) : Nat → Part → List Char → Except Failure.FilterFault Part
  | _, part, [] => .ok part
  | place, part, c :: cs =>
    match part.next directive place c with
    | .error fault => .error fault
    | .ok part => lastPart directive (place + c.utf8Size) part cs

def checkDirective (directive : List Char) : Except Failure.FilterFault Unit :=
  match lastPart directive 0 .start (Text.trimmed directive) with
  | .error fault => .error fault
  | .ok part =>
    match part with
    | .name | .target => .ok ()
    | .level place =>
      let level := String.ofList (Text.dropBytes place directive)
      if level.isEmpty || isLevel level then .ok () else .error .badLevel
    | _ => .error .badDirective

/-- Every directive that is not empty is checked, and the first fault counts. -/
def checkFilter (filter : String) : Outcome Unit :=
  match ((filter.toList.splitOn ',').filter (!·.isEmpty)).forM checkDirective with
  | .ok () => .ok ()
  | .error fault => Outcome.fails (.badFilter filter fault)

end DevicePoll.Log
