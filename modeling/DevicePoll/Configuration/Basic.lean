import DevicePoll.Configuration.Environment
import DevicePoll.Log.Settings
import DevicePoll.Settings
import DevicePoll.Yaml.Reader

/-! The configuration in three layers: defaults, a YAML file over them, and environment variables
over both. Numbers stay numbers and texts stay texts; nothing is converted to fit a setting. -/
namespace DevicePoll

structure Configuration where
  poll : PollSettings
  log : LogSettings
  deriving Inhabited, DecidableEq, Repr

namespace Configuration

def write (c : Configuration) : Document :=
  .object [("poll", c.poll.write), ("logging", c.log.write)]

/-- Where the settings of a file are: nowhere, at a path of the host, or at hand as a text. -/
inductive File where
  | none
  | path (path : String)
  | content (text : String)

/-- The settings of a YAML file; a file where nothing is written sets nothing. -/
def ofFile? (s : String) : Option Document := do
  let yaml ← Yaml.parse? s
  let entries ← yaml.read? (Yaml.Node.entries Yaml.Node.text fun _ => Yaml.Node.setting)
  return (Document.object entries).canonical

/-- The first items of a list, and any other document as it is. -/
def atMost (n : Nat) : Document → Document
  | .list items => .list (items.take n)
  | other => other

/-- The configuration that a document describes; unknown labels are ignored. -/
def read? : Document → Option Configuration
  | .object entries => do
    let poll ← match Document.lookup? "poll" entries with
      | some d => (PollSettings.read (atMost 2 d)).toOption
      | none => some default
    let log ← match Document.lookup? "logging" entries with
      | some d => (LogSettings.read (atMost 4 d)).toOption
      | none => some default
    return ⟨poll, log⟩
  | _ => none

/-- The configuration of a file and the environment. What is no regular file sets nothing, and the
regular files at fixed places hold no settings. -/
def load (file : File) (environment : List (String × String)) : Outcome Configuration :=
  let defaults := (default : Configuration).write.canonical
  let layered (settings : Option Document) : Outcome Configuration :=
    match settings.bind fun d =>
        read? ((defaults.overlay d).overlay (ofEnvironment environment)) with
    | some c => c.poll.validate.map fun _ => c
    | none => Outcome.fails .unreadableSettings
  match file with
  | .path path =>
    match Host.find? path with
    | none => Outcome.fails (.missingFile path)
    | some .file => Outcome.fails .unreadableSettings
    | some _ => layered (some (.object []))
  | .none => layered (some (.object []))
  | .content text => layered (ofFile? text)

end Configuration
end DevicePoll
