import DevicePoll.Failure

/-! The files of a host, as far as they stand at fixed places: which places exist, and whether a
directory can be made. A path is walked name by name, and each name is looked up in a directory. -/
namespace DevicePoll.Host

/-- The names from the root on; a place below the directory of the program starts with the empty
name. -/
abbrev Place : Type := List String

inductive Kind where
  | directory
  | file
  | device
  deriving DecidableEq, Repr

def directories : List Place :=
  [[], [""], ["bin"], ["boot"], ["dev"], ["dev", "pts"], ["dev", "shm"], ["etc"], ["home"], ["lib"],
    ["media"], ["mnt"], ["opt"], ["proc"], ["proc", "1"], ["proc", "self"], ["proc", "sys"],
    ["root"], ["run"], ["sbin"], ["srv"], ["sys"], ["tmp"], ["usr"], ["usr", "bin"],
    ["usr", "lib"], ["usr", "local"], ["usr", "sbin"], ["usr", "share"], ["var"], ["var", "cache"],
    ["var", "lib"], ["var", "log"], ["var", "tmp"]]

def files : List Place :=
  [["bin", "sh"], ["usr", "bin", "env"], ["etc", "passwd"], ["etc", "group"], ["etc", "hosts"],
    ["etc", "hostname"], ["etc", "resolv.conf"], ["etc", "os-release"], ["etc", "shadow"],
    ["proc", "cmdline"], ["proc", "cpuinfo"], ["proc", "filesystems"], ["proc", "loadavg"],
    ["proc", "meminfo"], ["proc", "mounts"], ["proc", "stat"], ["proc", "uptime"],
    ["proc", "version"], ["proc", "self", "cmdline"], ["proc", "self", "environ"],
    ["proc", "self", "maps"], ["proc", "self", "stat"], ["proc", "self", "status"]]

def devices : List Place :=
  ["null", "zero", "full", "random", "urandom", "tty", "stdin", "stdout", "stderr"].map
    (["dev", ·])

/-- What stands at a place, when some directories were made. -/
def kindAt? (made : List Place) (place : Place) : Option Kind :=
  if directories.contains place || made.contains place then some .directory
  else if files.contains place then some .file
  else if devices.contains place then some .device
  else none

/-- A path of this many bytes is refused before it is walked. -/
def longestPath : Nat := 4096

/-- A longer name is refused where it is looked up. -/
def longestName : Nat := 255

def startOf (path : String) : Place := if path.startsWith "/" then [] else [""]

def namesOf (path : String) : List String := (path.toList.splitOn '/').map String.ofList

/-- The place that some names lead to. There are more names only below a directory, and a name that
is empty or a dot stays there. -/
def walk (made : List Place) (place : Place) : List String → Except Failure.DirectoryFault Place
  | [] => .ok place
  | name :: names =>
    if kindAt? made place ≠ some .directory then .error .belowFile
    else if name = "" ∨ name = "." then walk made place names
    else if name = ".." then walk made (if place = [""] then place else place.dropLast) names
    else if longestName < name.utf8ByteSize then .error .longName
    else if (kindAt? made (place ++ [name])).isNone then .error .noPlace
    else walk made (place ++ [name]) names

/-- What stands at the end of a path. -/
def find? (path : String) : Option Kind :=
  if path.isEmpty || path.toList.contains '\x00' || longestPath ≤ path.utf8ByteSize then none
  else match walk [] (startOf path) (namesOf path) with
    | .ok place => kindAt? [] place
    | .error _ => none

/-- Why nothing new can be made in a directory that the system keeps. -/
def keptFault? : Place → Option Failure.DirectoryFault
  | "proc" :: _ => some .noPlace
  | "sys" :: _ => some .readOnly
  | _ => none

/-- One more directory at the end of some names, unless something stands there. -/
def make (made : List Place) (start : Place) (names : List String) :
    Except Failure.DirectoryFault (List Place) :=
  let names := (names.reverse.dropWhile (·.isEmpty)).reverse
  match names.getLast? with
  | none => .ok made
  | some last => do
    let place ← walk made start names.dropLast
    if kindAt? made place ≠ some .directory then .error .belowFile
    else if last = "." ∨ last = ".." then .ok made
    else if longestName < last.utf8ByteSize then .error .longName
    else match kindAt? made (place ++ [last]), keptFault? place with
      | some .directory, _ => .ok made
      | some _, _ => .error .isFile
      | none, some fault => .error fault
      | none, none => .ok ((place ++ [last]) :: made)

/-- The directory at the end of the first names. Where a directory is missing on the way to it,
those at the other names are made before. -/
def makeAll (made : List Place) (start : Place) :
    List (List String) → Except Failure.DirectoryFault (List Place)
  | [] => .ok made
  | names :: shorter =>
    match make made start names with
    | .error .noPlace => do make (← makeAll made start shorter) start names
    | result => result

/-- The names of a path as they are written, and then without the last name, without the last two,
and so on, where empty names and dots do not count. -/
def ancestors (path : String) : List (List String) :=
  let names := (namesOf path).filter fun name => name ≠ "" ∧ name ≠ "."
  namesOf path :: (((List.range names.length).drop 1).reverse.map fun n => names.take n)

/-- Why a directory cannot be made at a path, with all directories on the way to it. -/
def directoryFault? (path : String) : Option Failure.DirectoryFault :=
  if path.toList.contains '\x00' then some .badName
  else if longestPath ≤ path.utf8ByteSize then some .longName
  else match makeAll [] (startOf path) (ancestors path) with
    | .ok _ => none
    | .error fault => some fault

end DevicePoll.Host
