import DevicePoll.Query.Request
import DevicePoll.Text.Blank

/-! A device in memory. It answers from a list of entries in the order in which they were added, and
fails the reads at or below chosen identifiers. -/
namespace DevicePoll

/-- A failure for every read at or below an identifier. -/
structure Fault where
  root : List Char
  kind : Failure.Kind

structure Device where
  entries : List (List Char × Scalar)
  faults : List Fault
  delay : Nat

namespace Device

def empty : Device := ⟨[], [], 0⟩

/-- An identifier without blanks around it and without leading dots. -/
def normalize (oid : String) : List Char := Oid.dropDots (Text.trimmed oid.toList)

def withValue (device : Device) (oid : String) (value : Scalar) : Device :=
  { device with entries := device.entries ++ [(normalize oid, value)] }

/-- One entry per row below a column, in the order of the rows. -/
def withColumn (device : Device) (column : String) (rows : List (UInt64 × Scalar)) : Device :=
  { device with
    entries := device.entries ++ rows.map fun row =>
      (normalize column ++ '.' :: Decimal.digits row.1.toNat, row.2) }

def withFault (device : Device) (root : String) (kind : Failure.Kind) : Device :=
  { device with faults := device.faults ++ [⟨normalize root, kind⟩] }

/-- The kinds that a device can fail with; every other kind is a failure of the transport. -/
def Fault.reported : Failure.Kind → Failure.Kind
  | .notFound => .notFound
  | .notImplemented => .notImplemented
  | .timeout => .timeout
  | .cancelled => .cancelled
  | .decode => .decode
  | _ => .transport

/-- The failure of the first fault that applies to a read. -/
def fault? (device : Device) (oid : Oid) : Option Failure :=
  (device.faults.find? fun fault => Text.isUnder oid.core fault.root).map fun fault =>
    .stated (Fault.reported fault.kind) ("injected failure for " ++ oid.absolute)

/-- The entries at or below an identifier. -/
def below (device : Device) (root : Oid) : List Response :=
  (device.entries.filter fun e => Text.isUnder e.1 root.core).map fun e =>
    ⟨String.ofList ('.' :: e.1), e.2⟩

def walk (device : Device) (root : Oid) : Outcome (List Response) :=
  match device.fault? root with
  | some failure => .error failure
  | none =>
    match device.below root with
    | [] => Outcome.fails (.noObject root.absolute)
    | responses => .ok responses

def get (device : Device) (oid : Oid) : Outcome Scalar :=
  match device.fault? oid with
  | some failure => .error failure
  | none =>
    match device.entries.find? fun e => e.1 = oid.core with
    | some e => .ok e.2
    | none => Outcome.fails (.noInstance oid.absolute)

def answer (device : Device) : (request : Request) → Outcome request.Reply
  | .walk root => device.walk root
  | .get oid => device.get oid

def client (device : Device) : Client := ⟨device.answer, fun _ => device.delay⟩

/-- Whether a request is a walk of an identifier that is written in any form. -/
def isWalkOf (oid : String) : Request → Bool
  | .walk root => root.core = normalize oid
  | .get _ => false

/-- Whether a request gets an identifier that is written in any form. -/
def isGetOf (oid : String) : Request → Bool
  | .walk _ => false
  | .get o => o.core = normalize oid

end Device
end DevicePoll
