import DevicePoll.Record.Schema

/-! Rows of the tables of a device other than its interfaces. Unset fields are written. -/
namespace DevicePoll

/-- Fields of the session agents of a session border controller. -/
inductive SbcAgentField where
  | hostname
  | currentActiveSessionsInbound
  | currentSessionRateInbound
  | currentActiveSessionsOutbound
  | currentSessionRateOutbound
  | periodAsr
  | status
  deriving DecidableEq, Repr

namespace SbcAgentField

def label : SbcAgentField → String
  | hostname => "hostname"
  | currentActiveSessionsInbound => "current_active_sessions_inbound"
  | currentSessionRateInbound => "current_session_rate_inbound"
  | currentActiveSessionsOutbound => "current_active_sessions_outbound"
  | currentSessionRateOutbound => "current_session_rate_outbound"
  | periodAsr => "period_asr"
  | status => "status"

@[reducible] def scalarType : SbcAgentField → ScalarType
  | hostname => .text
  | _ => .integer

@[reducible] def schema : Schema where
  name := "SbcAgent"
  Field := SbcAgentField
  decEq := inferInstance
  fields :=
    [hostname, currentActiveSessionsInbound, currentSessionRateInbound,
      currentActiveSessionsOutbound, currentSessionRateOutbound, periodAsr, status]
  complete field := by cases field <;> simp
  label := label
  format field := .scalar field.scalarType
  isShown _ := true

end SbcAgentField

abbrev SbcAgent : Type := SbcAgentField.schema.Record

/-- Fields of the realms of a session border controller. -/
inductive SbcRealmField where
  | name
  | currentActiveSessionsInbound
  | currentSessionRateInbound
  | currentActiveSessionsOutbound
  | currentSessionRateOutbound
  | periodAsr
  | activeLocalContacts
  | status
  deriving DecidableEq, Repr

namespace SbcRealmField

def label : SbcRealmField → String
  | name => "name"
  | currentActiveSessionsInbound => "current_active_sessions_inbound"
  | currentSessionRateInbound => "current_session_rate_inbound"
  | currentActiveSessionsOutbound => "current_active_sessions_outbound"
  | currentSessionRateOutbound => "current_session_rate_outbound"
  | periodAsr => "period_asr"
  | activeLocalContacts => "active_local_contacts"
  | status => "status"

@[reducible] def scalarType : SbcRealmField → ScalarType
  | name => .text
  | _ => .integer

@[reducible] def schema : Schema where
  name := "SbcRealm"
  Field := SbcRealmField
  decEq := inferInstance
  fields :=
    [name, currentActiveSessionsInbound, currentSessionRateInbound,
      currentActiveSessionsOutbound, currentSessionRateOutbound, periodAsr,
      activeLocalContacts, status]
  complete field := by cases field <;> simp
  label := label
  format field := .scalar field.scalarType
  isShown _ := true

end SbcRealmField

abbrev SbcRealm : Type := SbcRealmField.schema.Record

/-- Fields of the storages of a server. -/
inductive DiskStorageField where
  | type
  | description
  | available
  | used
  deriving DecidableEq, Repr

namespace DiskStorageField

def label : DiskStorageField → String
  | type => "type"
  | description => "description"
  | available => "available"
  | used => "used"

@[reducible] def scalarType : DiskStorageField → ScalarType
  | type | description => .text
  | _ => .unsigned

@[reducible] def schema : Schema where
  name := "DiskStorage"
  Field := DiskStorageField
  decEq := inferInstance
  fields := [type, description, available, used]
  complete field := by cases field <;> simp
  label := label
  format field := .scalar field.scalarType
  isShown _ := true

end DiskStorageField

abbrev DiskStorage : Type := DiskStorageField.schema.Record

/-- Fields of the fans. -/
inductive FanField where
  | description
  | state
  deriving DecidableEq, Repr

namespace FanField

def label : FanField → String
  | description => "description"
  | state => "state"

@[reducible] def schema : Schema where
  name := "Fan"
  Field := FanField
  decEq := inferInstance
  fields := [description, state]
  complete field := by cases field <;> simp
  label := label
  format _ := .scalar .text
  isShown _ := true

end FanField

abbrev Fan : Type := FanField.schema.Record

/-- Fields of the power supplies. -/
inductive PowerSupplyField where
  | description
  | state
  deriving DecidableEq, Repr

namespace PowerSupplyField

def label : PowerSupplyField → String
  | description => "description"
  | state => "state"

@[reducible] def schema : Schema where
  name := "PowerSupply"
  Field := PowerSupplyField
  decEq := inferInstance
  fields := [description, state]
  complete field := by cases field <;> simp
  label := label
  format _ := .scalar .text
  isShown _ := true

end PowerSupplyField

abbrev PowerSupply : Type := PowerSupplyField.schema.Record

end DevicePoll
