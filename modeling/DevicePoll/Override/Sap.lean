import DevicePoll.Source.Node

/-! Service access points of interfaces. The parent's interfaces are extended by the counters of the
access points that the device lists; an access point belongs to the interface whose index is written
by the digits of its trunk followed by those of its own number. -/
namespace DevicePoll.Sap

/-- The table of access points. -/
def tableOid : Oid :=
  ⟨["1", "3", "6", "1", "4", "1", "6527", "3", "1", "2", "4", "3", "2", "1", "5"].map String.toList,
    by simp, by decide⟩

/-- The counters of octets that come in. -/
def inboundOid : Oid :=
  ⟨["1", "3", "6", "1", "4", "1", "6527", "6", "2", "2", "2", "8", "1", "1", "1", "4"].map
    String.toList, by simp, by decide⟩

/-- The counters of octets that go out. -/
def outboundOid : Oid :=
  ⟨["1", "3", "6", "1", "4", "1", "6527", "6", "2", "2", "2", "8", "1", "1", "1", "6"].map
    String.toList, by simp, by decide⟩

/-- An access point by the numbers that index it. -/
structure Index where
  service : String
  trunk : String
  sub : String

namespace Index

def ofParts (parts : List String) : Outcome Index :=
  match parts with
  | [service, trunk, sub] =>
    if [service, trunk, sub].all fun part => isNumeral part.toList then .ok ⟨service, trunk, sub⟩
    else Outcome.fails (.badSapIndex (".".intercalate parts))
  | _ => Outcome.fails (.badSapIndex (".".intercalate parts))

/-- The index of the interface that the access point belongs to. -/
def interfaceIndex (i : Index) : Outcome UInt64 :=
  match Decimal.readNat (i.trunk.toList ++ i.sub.toList) with
  | .ok n => .ok (UInt64.ofNat n)
  | .error _ => Outcome.fails (.sapIndexTooLarge i.trunk i.sub)

def suffix (i : Index) : String := i.service ++ "." ++ i.trunk ++ "." ++ i.sub

/-- The index that a row of the table is for. -/
def ofResponse (oid : String) : Outcome Index :=
  match tableOid.suffixOf oid with
  | none => Outcome.fails (.outsideTable oid)
  | some parts => ofParts parts

end Index

/-- A counter of an access point; one that the device does not have is unset. -/
def counterOutcome : Outcome Scalar → Outcome (Option UInt64)
  | .ok value => value.toUnsigned.map some
  | .error failure => if failure.isNotFound then .ok none else .error failure

def counter (column : Oid) (i : Index) : Poll (Option UInt64) := do
  let oid ← Poll.ofOutcome (column.child i.suffix)
  (Poll.request (.get oid)).mapOutcome counterOutcome

def countersOutcome (inbound outbound : Outcome (Option UInt64)) : Outcome SapCounters := do
  let inbound ← Outcome.within "failed to retrieve inbound counter" inbound
  let outbound ← Outcome.within "failed to retrieve outbound counter" outbound
  return fun
    | .inbound => inbound
    | .outbound => outbound

def counters (i : Index) : Poll SapCounters :=
  ExceptT.mk do
    let pair ← Reading.alternate (counter inboundOid i).run (counter outboundOid i).run
    .done (countersOutcome pair.1 pair.2)

/-- The interfaces with a change of the first one that has an index. -/
def changeFirst (index : UInt64) (change : Interface → Interface) :
    List Interface → Option (List Interface)
  | [] => none
  | i :: rest =>
    if i .index = some index then some (change i :: rest)
    else (changeFirst index change rest).map (i :: ·)

/-- Attaches the counters of one access point after another. -/
def attachAll : List Response → List Interface → Poll (List Interface)
  | [], interfaces => pure interfaces
  | response :: rest, interfaces => do
    let sap ← Poll.ofOutcome (Index.ofResponse response.oid)
    let index ← Poll.ofOutcome sap.interfaceIndex
    if interfaces.any fun i => i .index = some index then
      let found ← counters sap
      attachAll rest ((changeFirst index
        (fun i => Schema.set i InterfaceField.sap (some found)) interfaces).getD interfaces)
    else Poll.fails (.noInterface index.toNat)

/-- The access points of the device; a device without the table has none. -/
def listing (outcome : Outcome (List Response)) : Outcome (List Response) :=
  match outcome with
  | .ok responses => .ok responses
  | .error failure =>
    if failure.isNotFound then .ok [] else .error (.within "sap walk failed" failure)

def attach (interfaces : List Interface) : Poll (List Interface) := do
  let responses ← (Poll.request (.walk tableOid)).mapOutcome listing
  attachAll responses interfaces

/-- The class that has access points. -/
def className : String := "timos/sas"

/-- The override of the classes with access points. It changes the listing of interfaces alone. -/
def override : Override := fun parent p identity =>
  match p with
  | .interfaces =>
    match parent with
    | none => Poll.fails .parentNeeded
    | some source => do attach (← source .interfaces identity)
  | other => Source.unsupported other identity

/-- The overrides that come with the library. -/
def defaults : Registry := Registry.empty.insert className override

end DevicePoll.Sap
