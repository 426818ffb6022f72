/-! Kinds of failures. They steer the search for a value: a source that does not implement a
property or found no value lets the next source try, and every other kind ends the search. -/
namespace DevicePoll.Failure

inductive Kind where
  | notImplemented
  | notFound
  | componentNotFound
  | transport
  | timeout
  | cancelled
  | decode
  | invalidClass
  | configuration
  | internal
  deriving DecidableEq, Repr

namespace Kind

/-- Every kind, in the order of their declaration. -/
def all : List Kind :=
  [notImplemented, notFound, componentNotFound, transport, timeout, cancelled, decode, invalidClass,
    configuration, internal]

/-- The name of a kind in data. -/
def label : Kind → String
  | notImplemented => "not_implemented"
  | notFound => "not_found"
  | componentNotFound => "component_not_found"
  | transport => "transport"
  | timeout => "timeout"
  | cancelled => "cancelled"
  | decode => "decode"
  | invalidClass => "invalid_class"
  | configuration => "configuration"
  | internal => "internal"

/-- The stable code of a kind for machines. -/
def code : Kind → String
  | notImplemented => "NOT_IMPLEMENTED"
  | notFound => "NOT_FOUND"
  | componentNotFound => "COMPONENT_NOT_FOUND"
  | transport => "TRANSPORT_ERROR"
  | timeout => "TIMEOUT"
  | cancelled => "CANCELLED"
  | decode => "DECODE_ERROR"
  | invalidClass => "INVALID_CLASS"
  | configuration => "CONFIGURATION_ERROR"
  | internal => "INTERNAL_ERROR"

def ofLabel? (name : String) : Option Kind :=
  all.find? fun kind => kind.label == name

/-- The source has no value to offer, and another source may have one. -/
def yields : Kind → Bool
  | notImplemented | notFound => true
  | _ => false

/-- Callers show the value as unavailable and go on. -/
def isUnavailable : Kind → Bool
  | notImplemented | notFound | componentNotFound => true
  | _ => false

/-- No weaker source may hide a failure of this kind. -/
def isHard (kind : Kind) : Bool := !kind.isUnavailable

/-- The same read may succeed when it is repeated. -/
def isRetryable : Kind → Bool
  | transport | timeout => true
  | _ => false

theorem isUnavailable_of_yields {kind : Kind} (h : kind.yields = true) :
    kind.isUnavailable = true := by
  cases kind <;> simp_all [yields, isUnavailable]

end Kind
end DevicePoll.Failure
