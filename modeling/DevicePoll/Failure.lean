import DevicePoll.Document.Basic
import DevicePoll.Failure.Kind

/-! Failures of a poll. A failure is a cause within any number of scopes; its kind is the kind of
the cause, whatever the scopes say, and all wording is in `Cause.detail` and `Failure.message`. -/
namespace DevicePoll

universe u

namespace Failure

/-- The opening words of a message. Several categories can share a kind. -/
inductive Category where
  | notImplemented
  | notFound
  | componentNotFound
  | transport
  | timeout
  | cancelled
  | decode
  | typeMismatch
  | operator
  | invalidClass
  | configuration
  | files
  | internal
  deriving DecidableEq, Repr

namespace Category

def kind : Category → Kind
  | notImplemented => .notImplemented
  | notFound => .notFound
  | componentNotFound => .componentNotFound
  | transport => .transport
  | timeout => .timeout
  | cancelled => .cancelled
  | decode | typeMismatch | operator => .decode
  | invalidClass => .invalidClass
  | configuration => .configuration
  | files | internal => .internal

def opening : Category → String
  | notImplemented => "Not implemented: "
  | notFound => "Not found: "
  | componentNotFound => "Component not found: "
  | transport => "Transport error: "
  | timeout => "Timeout: "
  | cancelled => "Cancelled: "
  | decode => "Decode error: "
  | typeMismatch => "Data type mismatch: "
  | operator => "Operator error: "
  | invalidClass => "Invalid device class: "
  | configuration => "Configuration error: "
  | files => "IO error: "
  | internal => ""

/-- The plain category of a kind. -/
def ofKind : Kind → Category
  | .notImplemented => notImplemented
  | .notFound => notFound
  | .componentNotFound => componentNotFound
  | .transport => transport
  | .timeout => timeout
  | .cancelled => cancelled
  | .decode => decode
  | .invalidClass => invalidClass
  | .configuration => configuration
  | .internal => internal

@[simp] theorem kind_ofKind (k : Kind) : (ofKind k).kind = k := by cases k <;> rfl

end Category

/-- Where a read stood when it was cut off. -/
inductive Stage where
  | before
  | waiting
  | reading
  deriving DecidableEq, Repr

/-- What ends reads from outside: the caller's cancellation or the deadline. -/
inductive Stop where
  | cancelled
  | deadline
  deriving DecidableEq, Repr

def Stop.category : Stop → Category
  | .cancelled => .cancelled
  | .deadline => .timeout

def Stop.opening : Stop → String
  | .cancelled => "poll cancelled"
  | .deadline => "deadline exceeded"

def Stage.wording : Stage → String
  | .before => "before reading"
  | .waiting => "while waiting to read"
  | .reading => "while reading"

/-- Why a text is not a log filter. -/
inductive FilterFault where
  | badLevel
  | badDirective
  | badPattern
  | wordEdge
  deriving DecidableEq, Repr

def FilterFault.text : FilterFault → String
  | .badLevel => "error parsing level filter: expected one of \"off\", \"error\", \"warn\", " ++
    "\"info\", \"debug\", \"trace\", or a number 0-5"
  | .badDirective => "invalid filter directive"
  | .badPattern => "invalid field filter: error building NFA"
  | .wordEdge => "invalid field filter: unsupported regex feature for DFAs: cannot build DFAs " ++
    "for regexes with Unicode word boundaries; switch to ASCII word boundaries, or " ++
    "heuristically enable Unicode word boundaries or use a different regex engine"

/-- Why a directory cannot be made. -/
inductive DirectoryFault where
  | belowFile
  | isFile
  | noPlace
  | readOnly
  | badName
  | longName
  deriving DecidableEq, Repr

def DirectoryFault.text : DirectoryFault → String
  | .belowFile => "Not a directory (os error 20)"
  | .isFile => "File exists (os error 17)"
  | .noPlace => "No such file or directory (os error 2)"
  | .readOnly => "Read-only file system (os error 30)"
  | .badName => "file name contained an unexpected NUL byte"
  | .longName => "File name too long (os error 36)"

/-- What went wrong, before any wording. Paths and identifiers are kept as texts. -/
inductive Cause where
  | stated (category : Category) (text : String)
  | cutOff (stop : Stop) (stage : Stage) (oid : String)
  | noObject (oid : String)
  | noInstance (oid : String)
  | typeMismatch (expected actual : String)
  | badInteger (fault : Decimal.WholeFault)
  | unreadable (mismatch : Document.Mismatch)
  | emptyOid
  | malformedOid (text : String)
  | badIndex (oid : String)
  | notNumber (text : String)
  | noMapping (key : String)
  | rowNotFinite (index : Nat) (path : String)
  | rowUnreadable (index : Nat) (mismatch : Document.Mismatch)
  | unknownComponent (text : String)
  | badLabel (label path : String)
  | wrongShape (path expected : String)
  | duplicateClass (name : String)
  | unresolvedParents (names : List String)
  | unknownClass (name : String)
  | undeclared (path className : String)
  | noValue (path : String)
  | noRows (path : String)
  | unsupported (property : String)
  | noSource (property : String)
  | nothingFound (property : String)
  | blankText (property : String)
  | componentAbsent (kind : String)
  | componentEmpty (kind : String)
  | parentNeeded
  | outsideTable (oid : String)
  | badSapIndex (text : String)
  | sapIndexTooLarge (trunk sub : String)
  | noInterface (index : Nat)
  | unreadableDefinitions
  | noReadsAllowed
  | missingFile (path : String)
  | unreadableSettings
  | noLog
  | badFilter (filter : String) (fault : FilterFault)
  | directory (fault : DirectoryFault)
  deriving Repr

namespace Cause

def category : Cause → Category
  | stated category _ => category
  | cutOff stop _ _ => stop.category
  | noObject _ | noInstance _ | unknownClass _ | noValue _ | noRows _ | nothingFound _
  | blankText _ => .notFound
  | typeMismatch _ _ => .typeMismatch
  | badInteger _ | unreadable _ | badIndex _ | rowNotFinite _ _ | rowUnreadable _ _
  | outsideTable _ | badSapIndex _ | sapIndexTooLarge _ _ | noInterface _ => .decode
  | notNumber _ | noMapping _ => .operator
  | emptyOid | malformedOid _ | unknownComponent _ | badLabel _ _ | wrongShape _ _
  | duplicateClass _ | unresolvedParents _ | unreadableDefinitions => .invalidClass
  | undeclared _ _ | unsupported _ | noSource _ | parentNeeded => .notImplemented
  | componentAbsent _ | componentEmpty _ => .componentNotFound
  | noReadsAllowed | missingFile _ | unreadableSettings | noLog | badFilter _ _ => .configuration
  | directory _ => .files

def detail : Cause → String
  | stated _ text => text
  | cutOff stop stage oid => stop.opening ++ " " ++ stage.wording ++ " " ++ oid
  | noObject oid => "no such object: " ++ oid
  | noInstance oid => "no such instance: " ++ oid
  | typeMismatch expected actual => "expected " ++ expected ++ ", got " ++ actual
  | badInteger fault => "Invalid integer: " ++ fault.text
  | unreadable mismatch => mismatch.text
  | emptyOid => "empty oid"
  | malformedOid text => "malformed oid '" ++ text ++ "'"
  | badIndex oid => "index isn't an integer: '" ++ oid ++ "'"
  | notNumber text => "'" ++ text ++ "' is not a number"
  | noMapping key => "no mapping for '" ++ key ++ "'"
  | rowNotFinite index path =>
    "row " ++ Decimal.natText index ++ " couldn't be decoded: '" ++ path ++
      "' is not a finite number"
  | rowUnreadable index mismatch =>
    "row " ++ Decimal.natText index ++ " couldn't be decoded: " ++ mismatch.text
  | unknownComponent text => "unknown component '" ++ text ++ "'"
  | badLabel label path => "invalid label '" ++ label ++ "' under '" ++ path ++ "'"
  | wrongShape path expected => "'" ++ path ++ "' is not a " ++ expected
  | duplicateClass name => "duplicate class '" ++ name ++ "'"
  | unresolvedParents names => "unresolvable parents for classes: " ++ ", ".intercalate names
  | unknownClass name => "device class '" ++ name ++ "'"
  | undeclared path className =>
    "'" ++ path ++ "' is not defined by class '" ++ className ++ "'"
  | noValue path => "no value for '" ++ path ++ "'"
  | noRows path => "no rows for '" ++ path ++ "'"
  | unsupported property => property ++ " is not implemented"
  | noSource property => "no source implements " ++ property
  | nothingFound property => "failed to get " ++ property ++ " through any device class"
  | blankText property => "empty string returned for " ++ property
  | componentAbsent kind => "no " ++ kind ++ " component available for this device"
  | componentEmpty kind => "no " ++ kind ++ " data available"
  | parentNeeded => "sap interfaces need a parent communicator"
  | outsideTable oid => "response '" ++ oid ++ "' is outside the sap table"
  | badSapIndex text => "unexpected sap index '" ++ text ++ "'"
  | sapIndexTooLarge trunk sub => "couldn't get index from '" ++ trunk ++ "' and '" ++ sub ++ "'"
  | noInterface index => "no interface with index " ++ Decimal.natText index ++ " found"
  | noReadsAllowed => "poll.max_concurrent_reads must be greater than 0"
  | unreadableDefinitions => "the definitions cannot be read"
  | missingFile path => "Config file not found: " ++ path
  | unreadableSettings => "Failed to load configuration"
  | noLog => "Logging not initialized"
  | badFilter filter fault => "Invalid log filter '" ++ filter ++ "': " ++ fault.text
  | directory fault => fault.text

def kind (cause : Cause) : Kind := cause.category.kind

def text (cause : Cause) : String := cause.category.opening ++ cause.detail

end Cause
end Failure

/-- A cause within scopes, the outermost scope first. -/
inductive Failure where
  | because (cause : Failure.Cause)
  | within (scope : String) (failure : Failure)
  deriving Repr

namespace Failure

/-- A failure with a text of the caller's own. -/
def stated (kind : Kind) (text : String) : Failure := because (.stated (.ofKind kind) text)

def kind : Failure → Kind
  | because cause => cause.kind
  | within _ failure => failure.kind

/-- The scopes from the outermost on, and then the cause. -/
def message : Failure → String
  | because cause => cause.text
  | within scope failure => scope ++ ": " ++ failure.message

def isNotFound (failure : Failure) : Bool := failure.kind == .notFound

/-- The search for a value goes on with the next source. -/
def yields (failure : Failure) : Bool := failure.kind.yields

@[simp] theorem kind_because (cause : Cause) : (because cause).kind = cause.kind := rfl

@[simp] theorem kind_within (scope : String) (failure : Failure) :
    (within scope failure).kind = failure.kind := rfl

@[simp] theorem kind_stated (kind : Kind) (text : String) : (stated kind text).kind = kind := by
  simp [stated, Cause.kind, Cause.category]

end Failure

/-- What a step of a poll comes to: a value or a failure. -/
abbrev Outcome (α : Type u) : Type u := Except Failure α

namespace Outcome

/-- The same outcome, with a scope around a failure. -/
def within {α : Type u} (scope : String) : Outcome α → Outcome α
  | .ok value => .ok value
  | .error failure => .error (.within scope failure)

def fails {α : Type u} (cause : Failure.Cause) : Outcome α := .error (.because cause)

end Outcome
end DevicePoll
