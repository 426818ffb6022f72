import DevicePoll.Failure

/-! Kinds of components that a device class can advertise: the subsystems whose properties are read
together. -/
namespace DevicePoll

/-- A subsystem of a device. -/
inductive Component where
  | interfaces
  | cpu
  | memory
  | ups
  | sbc
  | server
  | disk
  | hardwareHealth
  deriving DecidableEq, Repr

namespace Component

/-- Every component, in order. -/
def all : List Component := [interfaces, cpu, memory, ups, sbc, server, disk, hardwareHealth]

/-- The name of a component in class definitions. -/
def label : Component → String
  | interfaces => "interfaces"
  | cpu => "cpu"
  | memory => "memory"
  | ups => "ups"
  | sbc => "sbc"
  | server => "server"
  | disk => "disk"
  | hardwareHealth => "hardware_health"

def position (component : Component) : Nat := all.findIdx (· = component)

/-- The component of exactly this name. -/
def ofLabel? (name : String) : Option Component :=
  all.find? fun component => component.label == name

/-- The component of a name whose letters may be in either case. -/
def ofText (s : String) : Outcome Component :=
  match all.find? fun component => component.label.toList == s.toList.map Char.toLower with
  | some component => .ok component
  | none => Outcome.fails (.unknownComponent s)

theorem mem_all (component : Component) : component ∈ all := by cases component <;> decide

end Component
end DevicePoll
