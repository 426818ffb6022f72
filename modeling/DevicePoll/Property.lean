import DevicePoll.Component
import DevicePoll.Text.Dotted
import DevicePoll.Record.Interface
import DevicePoll.Record.Table

/-! Properties that are read from a device: what each is called, where class definitions hold it,
what type its value has, and to which component it belongs. -/
namespace DevicePoll

/-- What identifies a device. -/
inductive IdentityField where
  | vendor
  | model
  | modelSeries
  | serialNumber
  | osVersion
  deriving DecidableEq, Repr

namespace IdentityField

/-- Every field, in the order in which they are resolved. -/
def all : List IdentityField := [vendor, model, modelSeries, serialNumber, osVersion]

def label : IdentityField → String
  | vendor => "vendor"
  | model => "model"
  | modelSeries => "model_series"
  | serialNumber => "serial_number"
  | osVersion => "os_version"

/-- The records of identities. -/
@[reducible] def schema : Schema where
  name := "Properties"
  Field := IdentityField
  decEq := inferInstance
  fields := all
  complete field := by cases field <;> decide
  label := label
  format _ := .scalar .text
  isShown _ := false

end IdentityField

/-- What is known of the identity of a device. -/
abbrev Identity : Type := IdentityField.schema.Record

namespace Identity

def isEmpty (identity : Identity) : Bool :=
  IdentityField.all.all fun field => (identity field).isNone

end Identity

/-- The shapes that values of properties have. -/
inductive Form where
  | scalar (type : ScalarType)
  | reals
  | interfaces
  | table (schema : Schema)

namespace Form

@[reducible] def format : Form → Format
  | scalar type => .scalar type
  | reals => .list (.scalar .real)
  | interfaces => .list InterfaceField.schema.toFormat
  | table schema => .list schema.toFormat

@[reducible] def Value (form : Form) : Type := form.format.Value

end Form

/-- A property of a device. -/
inductive Property where
  | identity (field : IdentityField)
  | interfaces
  | interfaceTable
  | interfaceCount
  | cpuLoad
  | cpuTemperature
  | memoryUsage
  | upsAlarmLowVoltageDisconnect
  | upsBatteryAmperage
  | upsBatteryCapacity
  | upsBatteryCurrent
  | upsBatteryRemainingTime
  | upsBatteryTemperature
  | upsBatteryVoltage
  | upsCurrentLoad
  | upsMainsVoltageApplied
  | upsRectifierCurrent
  | upsSystemVoltage
  | sbcAgents
  | sbcRealms
  | sbcGlobalCallPerSecond
  | sbcGlobalConcurrentSessions
  | sbcActiveLocalContacts
  | sbcTranscodingCapacity
  | sbcLicenseCapacity
  | sbcSystemRedundancy
  | sbcSystemHealthScore
  | serverProcs
  | serverUsers
  | diskStorages
  | hardwareHealthEnvironmentMonitorState
  | hardwareHealthFans
  | hardwareHealthPowerSupply
  deriving DecidableEq, Repr

namespace Property

/-- Every property. -/
def all : List Property :=
  IdentityField.all.map identity ++
    [interfaces, interfaceTable, interfaceCount, cpuLoad, cpuTemperature, memoryUsage,
      upsAlarmLowVoltageDisconnect, upsBatteryAmperage, upsBatteryCapacity, upsBatteryCurrent,
      upsBatteryRemainingTime, upsBatteryTemperature, upsBatteryVoltage, upsCurrentLoad,
      upsMainsVoltageApplied, upsRectifierCurrent, upsSystemVoltage, sbcAgents, sbcRealms,
      sbcGlobalCallPerSecond, sbcGlobalConcurrentSessions, sbcActiveLocalContacts,
      sbcTranscodingCapacity, sbcLicenseCapacity, sbcSystemRedundancy, sbcSystemHealthScore,
      serverProcs, serverUsers, diskStorages, hardwareHealthEnvironmentMonitorState,
      hardwareHealthFans, hardwareHealthPowerSupply]

/-- The labels on the way to a property in the tree of a class. -/
def labels : Property → List String
  | identity field => ["identify", field.label]
  | interfaces => ["interfaces"]
  | interfaceTable => ["interfaces"]
  | interfaceCount => ["interface_count"]
  | cpuLoad => ["cpu", "load"]
  | cpuTemperature => ["cpu", "temperature"]
  | memoryUsage => ["memory", "usage"]
  | upsAlarmLowVoltageDisconnect => ["ups", "alarm_low_voltage_disconnect"]
  | upsBatteryAmperage => ["ups", "battery_amperage"]
  | upsBatteryCapacity => ["ups", "battery_capacity"]
  | upsBatteryCurrent => ["ups", "battery_current"]
  | upsBatteryRemainingTime => ["ups", "battery_remaining_time"]
  | upsBatteryTemperature => ["ups", "battery_temperature"]
  | upsBatteryVoltage => ["ups", "battery_voltage"]
  | upsCurrentLoad => ["ups", "current_load"]
  | upsMainsVoltageApplied => ["ups", "mains_voltage_applied"]
  | upsRectifierCurrent => ["ups", "rectifier_current"]
  | upsSystemVoltage => ["ups", "system_voltage"]
  | sbcAgents => ["sbc", "agents"]
  | sbcRealms => ["sbc", "realms"]
  | sbcGlobalCallPerSecond => ["sbc", "global_call_per_second"]
  | sbcGlobalConcurrentSessions => ["sbc", "global_concurrent_sessions"]
  | sbcActiveLocalContacts => ["sbc", "active_local_contacts"]
  | sbcTranscodingCapacity => ["sbc", "transcoding_capacity"]
  | sbcLicenseCapacity => ["sbc", "license_capacity"]
  | sbcSystemRedundancy => ["sbc", "system_redundancy"]
  | sbcSystemHealthScore => ["sbc", "system_health_score"]
  | serverProcs => ["server", "procs"]
  | serverUsers => ["server", "users"]
  | diskStorages => ["disk", "storages"]
  | hardwareHealthEnvironmentMonitorState => ["hardware_health", "environment_monitor_state"]
  | hardwareHealthFans => ["hardware_health", "fans"]
  | hardwareHealthPowerSupply => ["hardware_health", "power_supply"]

/-- The dotted path of a property in the tree of a class. -/
def path (p : Property) : String := Text.dotted p.labels

/-- The last label on the way to a property, which names it within its component. -/
def label (p : Property) : String := p.labels.getLast?.getD ""

/-- What a property is called in messages. -/
def wording : Property → String
  | identity .vendor => "vendor"
  | identity .model => "model"
  | identity .modelSeries => "model series"
  | identity .serialNumber => "serial number"
  | identity .osVersion => "os version"
  | interfaces => "interfaces"
  | interfaceTable => "interface table"
  | interfaceCount => "interface count"
  | cpuLoad => "cpu load"
  | cpuTemperature => "cpu temperature"
  | memoryUsage => "memory usage"
  | upsAlarmLowVoltageDisconnect => "ups alarm low voltage disconnect"
  | upsBatteryAmperage => "ups battery amperage"
  | upsBatteryCapacity => "ups battery capacity"
  | upsBatteryCurrent => "ups battery current"
  | upsBatteryRemainingTime => "ups battery remaining time"
  | upsBatteryTemperature => "ups battery temperature"
  | upsBatteryVoltage => "ups battery voltage"
  | upsCurrentLoad => "ups current load"
  | upsMainsVoltageApplied => "ups mains voltage applied"
  | upsRectifierCurrent => "ups rectifier current"
  | upsSystemVoltage => "ups system voltage"
  | sbcAgents => "sbc agents"
  | sbcRealms => "sbc realms"
  | sbcGlobalCallPerSecond => "sbc global call per second"
  | sbcGlobalConcurrentSessions => "sbc global concurrent sessions"
  | sbcActiveLocalContacts => "sbc active local contacts"
  | sbcTranscodingCapacity => "sbc transcoding capacity"
  | sbcLicenseCapacity => "sbc license capacity"
  | sbcSystemRedundancy => "sbc system redundancy"
  | sbcSystemHealthScore => "sbc system health score"
  | serverProcs => "server procs"
  | serverUsers => "server users"
  | diskStorages => "disk storages"
  | hardwareHealthEnvironmentMonitorState => "hardware health environment monitor state"
  | hardwareHealthFans => "hardware health fans"
  | hardwareHealthPowerSupply => "hardware health power supply"

/-- What a property is called in requests. -/
def name : Property → String
  | interfaceTable => "if_table"
  | p => String.ofList (p.wording.toList.map fun c => if c = ' ' then '_' else c)

def ofName? (name : String) : Option Property := all.find? fun p => p.name == name

@[reducible] def form : Property → Form
  | identity _ => .scalar .text
  | interfaces | interfaceTable => .interfaces
  | interfaceCount => .scalar .unsigned
  | cpuLoad | cpuTemperature => .reals
  | memoryUsage | upsBatteryAmperage | upsBatteryCapacity | upsBatteryCurrent |
  upsBatteryRemainingTime | upsBatteryTemperature | upsBatteryVoltage | upsCurrentLoad |
  upsRectifierCurrent | upsSystemVoltage => .scalar .real
  | upsAlarmLowVoltageDisconnect | sbcGlobalCallPerSecond | sbcGlobalConcurrentSessions |
  sbcActiveLocalContacts | sbcTranscodingCapacity | sbcLicenseCapacity | sbcSystemRedundancy
  | sbcSystemHealthScore | serverProcs | serverUsers | hardwareHealthEnvironmentMonitorState =>
    .scalar .integer
  | upsMainsVoltageApplied => .scalar .flag
  | sbcAgents => .table SbcAgentField.schema
  | sbcRealms => .table SbcRealmField.schema
  | diskStorages => .table DiskStorageField.schema
  | hardwareHealthFans => .table FanField.schema
  | hardwareHealthPowerSupply => .table PowerSupplyField.schema

@[reducible] def Value (p : Property) : Type := p.form.Value

/-- The component that a device must advertise for the property to be read. -/
def component? : Property → Option Component
  | identity _ | interfaceCount => none
  | interfaces | interfaceTable => some .interfaces
  | cpuLoad | cpuTemperature => some .cpu
  | memoryUsage => some .memory
  | upsAlarmLowVoltageDisconnect | upsBatteryAmperage | upsBatteryCapacity | upsBatteryCurrent
  | upsBatteryRemainingTime | upsBatteryTemperature | upsBatteryVoltage | upsCurrentLoad |
  upsMainsVoltageApplied | upsRectifierCurrent | upsSystemVoltage => some .ups
  | sbcAgents | sbcRealms | sbcGlobalCallPerSecond | sbcGlobalConcurrentSessions |
  sbcActiveLocalContacts | sbcTranscodingCapacity | sbcLicenseCapacity | sbcSystemRedundancy
  | sbcSystemHealthScore => some .sbc
  | serverProcs | serverUsers => some .server
  | diskStorages => some .disk
  | hardwareHealthEnvironmentMonitorState | hardwareHealthFans | hardwareHealthPowerSupply =>
    some .hardwareHealth

theorem mem_all (p : Property) : p ∈ all := by
  cases p with
  | identity field => cases field <;> simp [all, IdentityField.all]
  | _ => simp [all, IdentityField.all]

end Property
end DevicePoll
