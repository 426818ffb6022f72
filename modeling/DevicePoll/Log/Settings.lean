import DevicePoll.Document.Reader
import DevicePoll.Host
import DevicePoll.Log.Filter

/-! Settings of the log, and what can be told of them before logging is set up: whether the filter
is one, and whether the directory of the log files can be made. -/
namespace DevicePoll

structure LogSettings where
  level : String
  json : Bool
  directory : Option String
  fileStem : String
  deriving DecidableEq, Repr

namespace LogSettings

def default : LogSettings := ⟨"info", false, none, "netprobe"⟩

instance : Inhabited LogSettings := ⟨default⟩

def asPath : Document → Document.Read String
  | .text path => .ok path
  | other => .error (.wrongType other.found "path string")

/-- Reads one labelled part into the settings; unknown labels are ignored. -/
def readPart (s : LogSettings) (label : String) (value : Document) : Document.Read LogSettings :=
  if label = "level" then (fun level => { s with level }) <$> value.asText
  else if label = "json" then (fun json => { s with json }) <$> value.asFlag
  else if label = "directory" then
    (fun directory => { s with directory }) <$> value.asOptional asPath
  else if label = "file_prefix" then (fun fileStem => { s with fileStem }) <$> value.asText
  else .ok s

def labels : List String := ["level", "json", "directory", "file_prefix"]

def readParts (entries : List (String × Document)) : Document.Read LogSettings :=
  entries.foldlM (fun s e => s.readPart e.1 e.2) default

/-- Settings by label or in order; what is missing is as by default. -/
def read : Document → Document.Read LogSettings
  | .object entries => readParts entries
  | .list items => do
    let s ← readParts (labels.zip items)
    if items.length ≤ labels.length then .ok s
    else .error (.wrongLength items.length "fewer elements in array")
  | other => .error (.wrongType other.found "struct LoggingConfig")

def write (s : LogSettings) : Document :=
  .object [("level", .text s.level), ("json", .boolean s.json),
    ("directory", .ofOption .text s.directory), ("file_prefix", .text s.fileStem)]

end LogSettings

namespace Log

/-- The log: the filter in force, once logging is set up. -/
abbrev State : Type := Option String

/-- Sets logging up, unless the filter or the directory forbids it. -/
def State.setUp (s : LogSettings) : Outcome State := do
  checkFilter s.level
  match s.directory.bind Host.directoryFault? with
  | some fault => Outcome.fails (.directory fault)
  | none => return some s.level

/-- Changes the filter of a log that is set up. -/
def State.setLevel : State → String → Outcome State
  | none, _ => Outcome.fails .noLog
  | some _, filter => (checkFilter filter).map fun _ => some filter

end Log
end DevicePoll
