import DevicePoll.Record.Schema

/-! Interfaces of a device and the counters of their service access points. -/
namespace DevicePoll

/-- Octets that pass a service access point. -/
inductive SapField where
  | inbound
  | outbound
  deriving DecidableEq, Repr

namespace SapField

def label : SapField → String
  | inbound => "inbound"
  | outbound => "outbound"

/-- The records of service access points. -/
@[reducible] def schema : Schema where
  name := "SapInterface"
  Field := SapField
  decEq := inferInstance
  fields := [inbound, outbound]
  complete field := by cases field <;> simp
  label := label
  format _ := .scalar .unsigned
  isShown _ := false

end SapField

abbrev SapCounters : Type := SapField.schema.Record

/-- The columns of the interface table, and the service access point of a row. -/
inductive InterfaceField where
  | index
  | descr
  | type
  | mtu
  | speed
  | physAddress
  | adminStatus
  | operStatus
  | lastChange
  | inOctets
  | inUcastPkts
  | inNUcastPkts
  | inDiscards
  | inErrors
  | inUnknownProtos
  | outOctets
  | outUcastPkts
  | outNUcastPkts
  | outDiscards
  | outErrors
  | outQLen
  | specific
  | name
  | inMulticastPkts
  | inBroadcastPkts
  | outMulticastPkts
  | outBroadcastPkts
  | hcInOctets
  | hcInUcastPkts
  | hcInMulticastPkts
  | hcInBroadcastPkts
  | hcOutOctets
  | hcOutUcastPkts
  | hcOutMulticastPkts
  | hcOutBroadcastPkts
  | highSpeed
  | promiscuousMode
  | connectorPresent
  | aliasName
  | sap
  deriving DecidableEq, Repr

namespace InterfaceField

/-- Every field, in order. -/
def all : List InterfaceField :=
  [index, descr, type, mtu, speed, physAddress, adminStatus, operStatus, lastChange, inOctets,
    inUcastPkts, inNUcastPkts, inDiscards, inErrors, inUnknownProtos, outOctets, outUcastPkts,
    outNUcastPkts, outDiscards, outErrors, outQLen, specific, name, inMulticastPkts,
    inBroadcastPkts, outMulticastPkts, outBroadcastPkts, hcInOctets, hcInUcastPkts,
    hcInMulticastPkts, hcInBroadcastPkts, hcOutOctets, hcOutUcastPkts, hcOutMulticastPkts,
    hcOutBroadcastPkts, highSpeed, promiscuousMode, connectorPresent, aliasName, sap]

def label : InterfaceField → String
  | index => "ifIndex"
  | descr => "ifDescr"
  | type => "ifType"
  | mtu => "ifMtu"
  | speed => "ifSpeed"
  | physAddress => "ifPhysAddress"
  | adminStatus => "ifAdminStatus"
  | operStatus => "ifOperStatus"
  | lastChange => "ifLastChange"
  | inOctets => "ifInOctets"
  | inUcastPkts => "ifInUcastPkts"
  | inNUcastPkts => "ifInNUcastPkts"
  | inDiscards => "ifInDiscards"
  | inErrors => "ifInErrors"
  | inUnknownProtos => "ifInUnknownProtos"
  | outOctets => "ifOutOctets"
  | outUcastPkts => "ifOutUcastPkts"
  | outNUcastPkts => "ifOutNUcastPkts"
  | outDiscards => "ifOutDiscards"
  | outErrors => "ifOutErrors"
  | outQLen => "ifOutQLen"
  | specific => "ifSpecific"
  | name => "ifName"
  | inMulticastPkts => "ifInMulticastPkts"
  | inBroadcastPkts => "ifInBroadcastPkts"
  | outMulticastPkts => "ifOutMulticastPkts"
  | outBroadcastPkts => "ifOutBroadcastPkts"
  | hcInOctets => "ifHCInOctets"
  | hcInUcastPkts => "ifHCInUcastPkts"
  | hcInMulticastPkts => "ifHCInMulticastPkts"
  | hcInBroadcastPkts => "ifHCInBroadcastPkts"
  | hcOutOctets => "ifHCOutOctets"
  | hcOutUcastPkts => "ifHCOutUcastPkts"
  | hcOutMulticastPkts => "ifHCOutMulticastPkts"
  | hcOutBroadcastPkts => "ifHCOutBroadcastPkts"
  | highSpeed => "ifHighSpeed"
  | promiscuousMode => "ifPromiscuousMode"
  | connectorPresent => "ifConnectorPresent"
  | aliasName => "ifAlias"
  | sap => "sap"

@[reducible] def format : InterfaceField → Format
  | descr | type | physAddress | adminStatus | operStatus | specific | name | aliasName =>
    .scalar .text
  | promiscuousMode | connectorPresent => .scalar .flag
  | sap => SapField.schema.toFormat
  | _ => .scalar .unsigned

/-- The records of interfaces. Only the service access point is left out when it is unset. -/
@[reducible] def schema : Schema where
  name := "Interface"
  Field := InterfaceField
  decEq := inferInstance
  fields := all
  complete field := by cases field <;> decide
  label := label
  format := format
  isShown field := field != sap

end InterfaceField

/-- One row of the interface table. -/
abbrev Interface : Type := InterfaceField.schema.Record

namespace Interface

/-- The speed that stands for "too fast to count, see the high speed". -/
def speedSentinel : UInt64 := 0xFFFFFFFF

/-- A high speed, which counts millions, as a plain speed that stays within its word. -/
def scaleSpeed (high : UInt64) : UInt64 :=
  UInt64.ofNat (min (high.toNat * 1000000) Decimal.maxUnsigned)

/-- The interface with its speed in place of the sentinel. -/
def normalize (i : Interface) : Interface :=
  match i .speed, i .highSpeed with
  | some speed, some high =>
    if speed = speedSentinel then Schema.set i InterfaceField.speed (some (scaleSpeed high)) else i
  | _, _ => i

end Interface
end DevicePoll
