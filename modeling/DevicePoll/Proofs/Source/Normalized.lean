import DevicePoll.Communicator
import DevicePoll.Device
import DevicePoll.Proofs.Query.Unhurried
import DevicePoll.Proofs.Source.Scan
import Mathlib.Data.List.Forall2

/-! Speeds of interfaces. A speed that stands for "too fast to count" is replaced once on the way of a
listing, at the head of its chain. The nodes below the head hand the listing on as the source that
decides gave it, and replacing a second time would change nothing. -/
namespace DevicePoll

namespace Interface

theorem toNat_speedSentinel : speedSentinel.toNat = 2 ^ 32 - 1 := rfl

theorem toNat_scaleSpeed (high : UInt64) :
    (scaleSpeed high).toNat = min (high.toNat * 10 ^ 6) (2 ^ 64 - 1) := by
  have hword : min (high.toNat * 1000000) Decimal.maxUnsigned < 2 ^ 64 := by
    unfold Decimal.maxUnsigned
    omega
  exact UInt64.toNat_ofNat_of_lt' hword

/-- A scaled speed is a multiple of a million or the largest number, and the sentinel is neither. -/
theorem scaleSpeed_ne_sentinel (high : UInt64) : scaleSpeed high ≠ speedSentinel := by
  intro h
  have hnat := congrArg UInt64.toNat h
  rw [toNat_scaleSpeed, toNat_speedSentinel] at hnat
  omega

variable {i : Interface}

theorem normalize_of_fast {high : UInt64} (hspeed : i .speed = some speedSentinel)
    (hhigh : i .highSpeed = some high) :
    i.normalize = Schema.set i InterfaceField.speed (some (scaleSpeed high)) := by
  simp only [normalize, hspeed, hhigh, ↓reduceIte]

theorem normalize_of_slow (h : i .speed ≠ some speedSentinel ∨ i .highSpeed = none) :
    i.normalize = i := by
  rw [normalize]
  split
  · next speed high hspeed hhigh =>
    refine if_neg fun heq => ?_
    subst heq
    exact h.elim (fun hslow => hslow hspeed) fun hnone => by simp [hhigh] at hnone
  · rfl

/-- The speed of an interface is replaced, or it is left as it is. -/
theorem fast_or_slow (i : Interface) :
    (i .speed = some speedSentinel ∧ ∃ high, i .highSpeed = some high) ∨
      (i .speed ≠ some speedSentinel ∨ i .highSpeed = none) := by
  cases hhigh : i .highSpeed with
  | none => exact .inr (.inr rfl)
  | some high =>
    by_cases hspeed : i .speed = some speedSentinel
    · exact .inl ⟨hspeed, high, rfl⟩
    · exact .inr (.inl hspeed)

theorem normalize_of_ne_speed (i : Interface) {field : InterfaceField} (h : field ≠ .speed) :
    i.normalize field = i field := by
  rcases i.fast_or_slow with ⟨hspeed, high, hhigh⟩ | hslow
  · rw [normalize_of_fast hspeed hhigh]
    exact Schema.set_other i _ h
  · rw [normalize_of_slow hslow]

theorem normalize_idem (i : Interface) : i.normalize.normalize = i.normalize := by
  rcases i.fast_or_slow with ⟨hspeed, high, hhigh⟩ | hslow
  · apply normalize_of_slow
    left
    rw [normalize_of_fast hspeed hhigh, Schema.set_same]
    exact fun h => scaleSpeed_ne_sentinel high (Option.some.inj h)
  · rw [normalize_of_slow hslow]
    exact normalize_of_slow hslow

/-- What becomes of an interface when its speed is replaced. -/
structure Normalized (i j : Interface) : Prop where
  others : ∀ field, field ≠ .speed → j field = i field
  fast : ∀ speed high : UInt64, i .speed = some speed → speed.toNat = 2 ^ 32 - 1 →
    i .highSpeed = some high →
    ∃ scaled : UInt64, j .speed = some scaled ∧ scaled.toNat = min (high.toNat * 10 ^ 6) (2 ^ 64 - 1)
  slow : (∀ speed : UInt64, i .speed = some speed → speed.toNat ≠ 2 ^ 32 - 1) ∨ i .highSpeed = none →
    j .speed = i .speed

theorem normalized_normalize (i : Interface) : i.Normalized i.normalize where
  others _ h := i.normalize_of_ne_speed h
  fast speed high hspeed hsentinel hhigh := by
    obtain rfl : speed = speedSentinel := UInt64.toNat_inj.mp hsentinel
    refine ⟨scaleSpeed high, ?_, toNat_scaleSpeed high⟩
    rw [normalize_of_fast hspeed hhigh, Schema.set_same]
  slow h := by
    rw [normalize_of_slow (h.imp_left fun hslow hspeed => hslow _ hspeed rfl)]

end Interface

/-- What a scan comes to when nothing is made of its value. -/
def Verdict.plain {α : Type} (property : String) : Verdict α → Outcome α
  | decided _ outcome _ => outcome
  | exhausted found => .error (undecided property found)

/-- A node hands on what decides, if the property cannot be blank. -/
theorem Property.conclude_eq_plain {p : Property} (h : ∀ value, p.isBlank value = false)
    (isHead : Bool) (v : Verdict p.Value) :
    p.conclude isHead v = (v.plain p.wording).map (p.shown isHead) := by
  cases v with
  | exhausted found => rfl
  | decided level outcome ends =>
    cases outcome with
    | error failure => rfl
    | ok value =>
      rw [conclude, settle, h value]
      rfl

/-- A property of the node of the first of some tiers, below the head, is a scan of its lineage. -/
theorem run_of_chainSource {registry : Registry} {tiers : List Tier} {source : Source}
    (h : chainSource registry tiers = some source) (p : Property) (identity : Identity) :
    (source p identity).run =
      scan (candidates registry p identity tiers) >>= fun v => .done (p.conclude false v) := by
  rw [← chainSource_run, h]
  rfl

/-- A property as the sources of a lineage give it. -/
def plainScan (registry : Registry) (p : Property) (identity : Identity) (tiers : List Tier) :
    Reading (Outcome p.Value) :=
  scan (candidates registry p identity tiers) >>= fun v => .done (v.plain p.wording)

/-- A node below the head gives a property as its sources give it, if the property cannot be blank. -/
theorem run_eq_plainScan {registry : Registry} {p : Property}
    (hp : ∀ value, p.isBlank value = false) {tiers : List Tier} {source : Source}
    (h : chainSource registry tiers = some source) (identity : Identity) :
    (source p identity).run = plainScan registry p identity tiers := by
  rw [run_of_chainSource h, plainScan]
  congr 1
  funext v
  rw [Property.conclude_eq_plain hp, funext p.shown_false]
  exact congrArg Reading.done (by cases v.plain p.wording <;> rfl)

namespace Communicator

/-- The head gives a property as its sources give it, with its value as the head shows it. -/
theorem head_run_of_advertised {c : Communicator} (h : c.advertises .interfaces = true) {p : Property}
    (hp : p.component? = some .interfaces) (hplain : ∀ value, p.isBlank value = false)
    (identity : Identity) :
    (c.head p identity).run = plainScan c.registry p identity c.deviceClass.tiers >>= fun outcome =>
      .done (outcome.map (p.shown true)) := by
  have hgate : p.gate c.deviceClass.hasComponent = .ok () := by
    rw [Property.gate, hp]
    exact if_pos h
  rw [head, headSource_run _ _ _ _ hgate, plainScan, bind_assoc]
  congr 1
  funext v
  rw [Property.conclude_eq_plain hplain]
  rfl

/-- A listing of a chain is normalized once, at its head. It is the listing that the same chain has
when its first node is no head, with every interface normalized; the nodes below the head give listings
and tables, and the head gives tables, as the source that decides gave them. Normalizing keeps the
interfaces in their places, changes nothing but speeds that stand for being too fast to count, and if it
is done once more, changes nothing at all. -/
theorem listing_is_normalized_once (c : Communicator) (identity : Identity)
    (hadvertised : c.advertises .interfaces = true) :
    (∃ plain, chainSource c.registry c.deviceClass.tiers = some plain ∧
      c.interfaces identity =
        (plain .interfaces identity).mapOutcome (Except.map (List.map Interface.normalize))) ∧
    (c.interfaces identity).mapOutcome (Except.map (List.map Interface.normalize)) =
      c.interfaces identity ∧
    (∀ n source, c.nodeBelow (n + 1) = some source →
      (source .interfaces identity).run =
          plainScan c.registry .interfaces identity (c.deviceClass.ancestors.drop n) ∧
        (source .interfaceTable identity).run =
          plainScan c.registry .interfaceTable identity (c.deviceClass.ancestors.drop n)) ∧
    (c.head .interfaceTable identity).run =
      plainScan c.registry .interfaceTable identity c.deviceClass.tiers ∧
    ∀ listing : List Interface,
      List.Forall₂ Interface.Normalized listing (listing.map Interface.normalize) ∧
        (listing.map Interface.normalize).map Interface.normalize =
          listing.map Interface.normalize := by
  have hidem : ∀ listing : List Interface, (listing.map Interface.normalize).map Interface.normalize =
      listing.map Interface.normalize := by
    intro listing
    rw [List.map_map]
    exact List.map_congr_left fun i _ => i.normalize_idem
  have hhead : (c.interfaces identity).run =
      plainScan c.registry .interfaces identity c.deviceClass.tiers >>= fun outcome =>
        .done (outcome.map (List.map Interface.normalize)) :=
    head_run_of_advertised hadvertised rfl (fun _ => rfl) identity
  refine ⟨?_, ?_, fun n source hsource => ⟨?_, ?_⟩, ?_, fun listing => ⟨?_, hidem listing⟩⟩
  · refine ⟨_, rfl, ExceptT.ext ?_⟩
    have hplain := run_eq_plainScan (p := .interfaces) (fun _ => rfl)
      (show chainSource c.registry c.deviceClass.tiers = some _ from rfl) identity
    rw [hhead, Poll.mapOutcome, ExceptT.run_mk, hplain]
  · refine ExceptT.ext ?_
    rw [Poll.mapOutcome, ExceptT.run_mk, hhead, bind_assoc]
    congr 1
    funext outcome
    cases outcome with
    | error failure => rfl
    | ok listing =>
      rw [Reading.done_bind]
      exact congrArg (fun found => Reading.done (Except.ok found : Outcome (List Interface)))
        (hidem listing)
  · exact run_eq_plainScan (fun _ => rfl) hsource identity
  · exact run_eq_plainScan (fun _ => rfl) hsource identity
  · rw [head_run_of_advertised hadvertised rfl (fun _ => rfl) identity]
    have hshown : ∀ outcome : Outcome Property.interfaceTable.Value,
        outcome.map (Property.interfaceTable.shown true) = outcome := by
      intro outcome
      cases outcome <;> rfl
    simp only [hshown]
    exact bind_pure _
  · rw [List.forall₂_map_right_iff]
    exact List.forall₂_same.mpr fun i _ => i.normalized_normalize

end Communicator

/-- A class that lists the speeds of interfaces, and two classes below it that declare nothing. -/
def countedHeir : DeviceClass :=
  let speed : Oid := ⟨[['2'], ['5']], by simp, by decide⟩
  let highSpeed : Oid := ⟨[['2'], ['7']], by simp, by decide⟩
  let labels : QueryTree := (LabelTree.empty.insert "ifSpeed" (.leaf ⟨speed, []⟩)).insert
    "ifHighSpeed" (.leaf ⟨highSpeed, []⟩)
  let generic := DeviceClass.root "generic" (LabelTree.empty.insert "interfaces" labels.toNode)
    fun _ => some true
  (generic.derive "acme" LabelTree.empty fun _ => none).derive "acme/x" LabelTree.empty
    fun _ => none

/-- A device with an interface that is too fast to count. -/
def fastPort : Device :=
  (Device.empty.withColumn "2.5" [(7, .unsigned 0xFFFFFFFF)]).withColumn "2.7" [(7, .unsigned 10)]

namespace Communicator

/-- Two nodes hand on the speed that the root gives, and the head replaces it. -/
theorem fast_port_is_normalized_once :
    let c : Communicator := ⟨countedHeir, Registry.empty⟩
    let speeds (listing : Poll (List Interface)) : Option (List (Option UInt64)) :=
      (listing.outcome fastPort.answer).toOption.map (List.map fun i => i .speed)
    c.advertises .interfaces = true ∧
      (∃ parent, c.nodeBelow 1 = some parent ∧
        speeds (parent .interfaces IdentityField.schema.blank) = some [some 0xFFFFFFFF]) ∧
      speeds (c.interfaces IdentityField.schema.blank) = some [some 10000000] := by
  intro c speeds
  have hadvertised : c.advertises .interfaces = true := by decide +kernel
  obtain ⟨⟨plain, hplain, hhead⟩, -⟩ :=
    listing_is_normalized_once c IdentityField.schema.blank hadvertised
  obtain rfl := Option.some.inj hplain
  refine ⟨hadvertised, ⟨_, rfl, by decide +kernel⟩, ?_⟩
  simp only [speeds, hhead, Poll.outcome_mapOutcome]
  decide +kernel

end Communicator
end DevicePoll
