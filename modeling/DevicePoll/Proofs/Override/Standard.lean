import DevicePoll.Device
import DevicePoll.Override.Sap
import DevicePoll.Override.Script
import DevicePoll.Proofs.Source.Standard

/-! Overrides and standards. Fixed answers meet the standard that they meet themselves. Interfaces
with service access points read two counters side by side and keep the first failure alone, so it
matters which failures are good enough beside whatever the other counter came to. -/
namespace DevicePoll

/-- A failure of this kind is good enough beside anything that was read with it. -/
def Standard.Keeps (S : Standard) (kind : Failure.Kind) : Prop :=
  ∀ kind? a b, S.holds (some kind) a → S.holds kind? b → S.holds (some kind) (a || b)

theorem Standard.candid_keeps {kind : Failure.Kind} (hhard : kind.isHard = true) :
    candid.Keeps kind := fun _ _ _ h _ => ⟨h.1, fun _ => ⟨kind, rfl, hhard⟩⟩

section Meets
variable {replies : Replies} {S : Standard}

theorem Registry.meets_empty : Registry.empty.Meets replies S := by
  intro name override h
  rw [Registry.empty, SortedMap.get?_empty] at h
  cases h

theorem Registry.Meets.insert {registry : Registry} (h : registry.Meets replies S) {name : String}
    {override : Override} (hoverride : override.Meets replies S) :
    Registry.Meets replies S (registry.insert name override) := by
  intro other found hfound
  rw [SortedMap.get?_insert] at hfound
  split at hfound
  · cases hfound
    exact hoverride
  · exact h other found hfound

theorem Source.meets_unsupported : Source.Meets replies S Source.unsupported :=
  fun _ _ => .fails nofun

/-- A script meets every standard if none of its answers tells of a component that is missing. -/
theorem Script.meets_override {script : Script}
    (h : ∀ p failure, script p = some (.failure failure) → failure.kind ≠ .componentNotFound) :
    script.override.Meets replies S := by
  intro parent hparent p identity
  unfold Script.override
  split
  · exact Source.meets_unsupported p identity
  · exact .ofOutcome (.ok _)
  · rename_i failure hfailure
    exact .ofOutcome (.error (h p failure hfailure))
  · cases parent with
    | none => exact .ofOutcome (.error nofun)
    | some source => exact hparent source rfl p identity

namespace Sap

theorem Index.decodes_ofResponse (oid : String) : (Index.ofResponse oid).Decodes := by
  rw [ofResponse]
  split
  · exact .fails rfl
  · unfold ofParts
    split
    · split
      · exact .ok _
      · exact .fails rfl
    · exact .fails rfl

theorem Index.decodes_interfaceIndex (i : Index) : i.interfaceIndex.Decodes := by
  rw [interfaceIndex]
  split
  · exact .ok _
  · exact .fails rfl

/-- A counter that meets the standard, and that fails with kinds that are good enough beside
anything. -/
def Counted (S : Standard) (outcome : Outcome (Option UInt64)) (cut : Bool) : Prop :=
  S.met outcome cut ∧ outcome.FailsOnly S.Keeps

/-- Two counters that are read side by side; only the failure of the first one is kept. -/
theorem met_countersOutcome {inbound outbound : Outcome (Option UInt64)} {a b : Bool}
    (hin : Counted S inbound a) (hout : Counted S outbound b) :
    S.met (countersOutcome inbound outbound) (a || b) := by
  cases inbound with
  | error failure => exact hin.2 failure rfl _ _ _ hin.1 hout.1
  | ok value =>
    cases outbound with
    | error failure => exact S.join _ _ _ hin.1 hout.1
    | ok value => exact S.join _ _ _ hin.1 hout.1

section Override
variable (hreplies : replies.Meet S)
  (hkeeps : ∀ request failure cut, replies request (.error failure) cut →
    failure.kind = .notFound ∨ S.Keeps failure.kind)
  (hdecode : S.Keeps .decode) (hinvalid : S.Keeps .invalidClass)
include hreplies hkeeps hdecode hinvalid

theorem counter_ensures (column : Oid) (i : Index) :
    (counter column i).run.Ensures replies (Counted S) := by
  have hrequest : ∀ oid, ((Poll.request (.get oid)).mapOutcome counterOutcome).run.Ensures replies
      (Counted S) := by
    refine fun oid => .read fun reply cut hreply => .done ?_
    rw [Reading.after, Bool.or_false]
    have hmet := hreplies _ reply cut hreply
    cases reply with
    | ok value =>
      have hdecodes : Outcome.Decodes (value.toUnsigned.map some) := value.decodes_toUnsigned.map
      exact ⟨Standard.met_of_none hmet hdecodes.plain, hdecodes.mono fun _ h => h ▸ hdecode⟩
    | error failure =>
      rw [counterOutcome]
      split
      · rename_i hnotFound
        have hyields := Failure.yields_of_isNotFound hnotFound
        exact ⟨Standard.holds_none_of_yields hyields hmet, .ok _⟩
      · rename_i hother
        refine ⟨hmet, .error ((hkeeps _ failure cut hreply).resolve_left fun hkind => hother ?_)⟩
        rw [Failure.isNotFound, hkind]
        rfl
  rw [counter]
  cases hchild : column.child i.suffix with
  | ok oid => exact hrequest oid
  | error failure =>
    have hkind := Oid.kind_of_ofText_error hchild
    refine .done ⟨S.plain _ ?_, .error (hkind ▸ hinvalid)⟩
    rw [Outcome.kind?_error, hkind]
    decide

theorem meets_counters (i : Index) : (counters i).Meets replies S := by
  refine (Reading.Ensures.alternate
    (counter_ensures hreplies hkeeps hdecode hinvalid inboundOid i)
    (counter_ensures hreplies hkeeps hdecode hinvalid outboundOid i)).bind
      fun pair cut hpair => .done ?_
  rw [Reading.after, Bool.or_false]
  cases hpair with
  | mk hin hout => exact met_countersOutcome hin hout

theorem meets_attachAll (responses : List Response) (interfaces : List Interface) :
    (attachAll responses interfaces).Meets replies S := by
  induction responses generalizing interfaces with
  | nil => exact .pure interfaces
  | cons response rest ih =>
    refine (Poll.Meets.ofOutcome (Index.decodes_ofResponse _).plain).bind fun sap => ?_
    refine (Poll.Meets.ofOutcome sap.decodes_interfaceIndex.plain).bind fun index => ?_
    split
    · exact (meets_counters hreplies hkeeps hdecode hinvalid sap).bind fun found => ih _
    · exact .fails nofun

theorem meets_attach (interfaces : List Interface) : (attach interfaces).Meets replies S := by
  refine ((Poll.Meets.request hreplies _).mapOutcome fun outcome cut hmet => ?_).bind
    fun responses => meets_attachAll hreplies hkeeps hdecode hinvalid responses interfaces
  cases outcome with
  | ok responses => exact hmet
  | error failure =>
    rw [listing]
    split
    · rename_i hnotFound
      exact Standard.holds_none_of_yields (Failure.yields_of_isNotFound hnotFound) hmet
    · exact hmet

/-- The override for service access points meets every standard for which the failures of the device
are good enough beside anything. -/
theorem meets_override : Sap.override.Meets replies S := by
  intro parent hparent p identity
  cases p with
  | interfaces =>
    cases parent with
    | none => exact .fails nofun
    | some source =>
      exact (hparent source rfl .interfaces identity).bind
        (meets_attach hreplies hkeeps hdecode hinvalid)
  | _ => exact Source.meets_unsupported _ identity

end Override
end Sap
end Meets

section Client
variable {client : Client} {stop : Failure.Stop}

/-- The counters hide nothing that was cut off from a device that implements all its requests. -/
theorem Sap.override_meets_candid (hclient : client.NeverFails .componentNotFound)
    (himplements : client.NeverFails .notImplemented) :
    Sap.override.Meets (.during client stop) .candid := by
  have hdecode : Standard.candid.Keeps .decode := Standard.candid_keeps rfl
  have hinvalid : Standard.candid.Keeps .invalidClass := Standard.candid_keeps rfl
  refine meets_override (Replies.during_meet_candid hclient) (fun request failure cut hreply => ?_)
    hdecode hinvalid
  generalize heq : (.error failure : Outcome request.Reply) = reply at hreply
  cases hreply with
  | answered =>
    have habsent := hclient request failure heq.symm
    have hlacks := himplements request failure heq.symm
    by_cases hnotFound : failure.kind = .notFound
    · exact .inl hnotFound
    · refine .inr (Standard.candid_keeps ?_)
      cases hkind : failure.kind <;> first | rfl | contradiction
  | cutOff stage =>
    cases heq
    exact .inr (Standard.candid_keeps (Replies.isHard_stop stop))

/-- A device in memory fails with the kinds of its faults, and where nothing is found. -/
theorem Device.neverFails_of_faults (device : Device) {kind : Failure.Kind} (hkind : .notFound ≠ kind)
    (hfaults : ∀ fault ∈ device.faults, Fault.reported fault.kind ≠ kind) :
    device.client.NeverFails kind := by
  have hfault : ∀ oid failure, device.fault? oid = some failure → failure.kind ≠ kind := by
    intro oid failure h
    obtain ⟨fault, hfound, rfl⟩ := Option.map_eq_some_iff.1 h
    rw [Failure.kind_stated]
    exact hfaults fault (List.mem_of_find?_eq_some hfound)
  intro request
  cases request with
  | walk root =>
    show (device.walk root).FailsOnly _
    rw [walk]
    split
    · exact .error (hfault root _ ‹_›)
    · split
      · exact .fails hkind
      · exact .ok _
  | get oid =>
    show (device.get oid).FailsOnly _
    rw [get]
    split
    · exact .error (hfault oid _ ‹_›)
    · split
      · exact .ok _
      · exact .fails hkind

/-- A device in memory never tells of a component that is missing. -/
theorem Device.neverFails_client (device : Device) :
    device.client.NeverFails .componentNotFound := by
  refine device.neverFails_of_faults nofun fun fault _ => ?_
  cases fault.kind <;> exact nofun

end Client
end DevicePoll
