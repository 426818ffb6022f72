import DevicePoll.Failure
import DevicePoll.Document.Reader
import DevicePoll.Reading.Schedule

/-! Settings of a poll: the time that it may take, and how many reads may be in flight. -/
namespace DevicePoll

/-- Limits as they are configured. A time of zero sets no deadline. -/
structure PollSettings where
  timeoutMs : UInt64
  maxConcurrentReads : UInt64
  deriving DecidableEq, Repr

namespace PollSettings

def default : PollSettings := ⟨30000, 16⟩

instance : Inhabited PollSettings := ⟨default⟩

/-- At least one read must be allowed. -/
def validate (s : PollSettings) : Outcome Unit :=
  if s.maxConcurrentReads = 0 then Outcome.fails .noReadsAllowed else .ok ()

/-- The milliseconds until the deadline of a poll. -/
def timeout? (s : PollSettings) : Option Nat :=
  if s.timeoutMs = 0 then none else some s.timeoutMs.toNat

/-- The limits of a call under valid settings. -/
def limits (s : PollSettings) : Outcome Limits :=
  s.validate.map fun _ =>
    { Limits.unhurried s.maxConcurrentReads.toNat with deadline := s.timeout? }

/-- Reads one labelled part into the settings; unknown labels are ignored. -/
def readPart (s : PollSettings) (label : String) (value : Document) : Document.Read PollSettings :=
  if label = "timeout_ms" then
    (fun timeoutMs => { s with timeoutMs }) <$> Document.asUnsigned "u64" value
  else if label = "max_concurrent_reads" then
    (fun maxConcurrentReads => { s with maxConcurrentReads }) <$> Document.asUnsigned "usize" value
  else .ok s

def labels : List String := ["timeout_ms", "max_concurrent_reads"]

def readParts (entries : List (String × Document)) : Document.Read PollSettings :=
  entries.foldlM (fun s e => s.readPart e.1 e.2) default

/-- Settings by label or in order; what is missing is as by default. -/
def read : Document → Document.Read PollSettings
  | .object entries => readParts entries
  | .list items => do
    let s ← readParts (labels.zip items)
    if items.length ≤ labels.length then .ok s
    else .error (.wrongLength items.length "fewer elements in array")
  | other => .error (.wrongType other.found "struct PollSettings")

def write (s : PollSettings) : Document :=
  .object [("timeout_ms", .integer s.timeoutMs.toNat),
    ("max_concurrent_reads", .integer s.maxConcurrentReads.toNat)]

end PollSettings
end DevicePoll
