import DevicePoll.Device
import DevicePoll.Override.Script
import DevicePoll.Proofs.Poll.Judgement
import DevicePoll.Proofs.Reading.Progress

/-! Hard failures of fields, whatever the overrides answer. A poll fails if the first field of a
component that does not yield fails hard. A field that tells of a missing component hides the fields
after it: the component is then left out, even if one of them failed hard. -/
namespace DevicePoll

open Reading

namespace Communicator

/-- A poll comes to the kind that decides its survey. So if a field of an advertised component fails
hard, and no field before it tells of a missing component, the poll fails. Poll and survey come to their
ends once there are rounds enough. -/
theorem first_hard_field_fails_poll (c : Communicator) (initial : Identity) (client : Client)
    (limits : Limits) (rounds : Nat) (meter : Meter) :
    let outcome : Outcome Snapshot :=
      (runWithin client limits rounds (c.poll initial).run meter).1
    let s := (runWithin client limits rounds (c.survey initial) meter).1
    (∃ enough, ∀ more, enough ≤ more → HasEnded client limits (c.poll initial).run meter more ∧
        HasEnded client limits (c.survey initial) meter more) ∧
      outcome.kind? = s.decisive? ∧
      (∀ identity, Reports.identity s.reached = .ok identity → s.Complete c) ∧
      ∀ e ∈ s.components, ∀ before r after failure, e.2 = before ++ r :: after →
        r.2.outcome = .error failure → failure.kind.isHard = true →
        (∀ b ∈ before, b.2.outcome.kind? ≠ some .componentNotFound) →
        ∃ failure, outcome = .error failure := by
  intro outcome s
  have hreplies : (repliesOf client limits).Meet .any := Replies.meet_any
  obtain ⟨_, cut, rfl, houtcome, hsurveyed, -⟩ :=
    poll_run hreplies c.registry.meets_any initial rounds meter
  have hkind : outcome.kind? = s.decisive? := by
    rw [← c.kind?_judge s]
    exact congrArg Outcome.kind? houtcome
  refine ⟨exists_both_ended client limits _ _ meter, hkind,
    fun identity hknown => hsurveyed.complete hknown, ?_⟩
  intro e he before r after failure hsplit hr hhard hbefore
  obtain ⟨first, hfirst, hfirstHard⟩ := Reports.first_final_isHard hr hhard hbefore
  have hdecided := Survey.decisive?_ne_none he (hsplit ▸ hfirst) hfirstHard
  obtain ⟨kind, hdecisive⟩ := Option.ne_none_iff_exists'.1 hdecided
  obtain ⟨decider, hfails, -⟩ := Outcome.kind?_eq_some.1 (hkind.trans hdecisive)
  exact ⟨decider, hfails⟩

end Communicator

/-- A class that advertises its processors and reads one thing of them. -/
def processorHost (label : String) : DeviceClass :=
  let oid : Oid := ⟨[['1'], ['1']], by simp, by decide⟩
  let cpu : QueryTree := LabelTree.empty.insert label (.leaf ⟨oid, []⟩)
  DeviceClass.root "c" (LabelTree.empty.insert "cpu" cpu.toNode) fun component =>
    if component = .cpu then some true else none

/-- A class that reads how warm its processors are. -/
def warmHost : DeviceClass := processorHost "temperature"

/-- A device that does not answer where the temperature is read. -/
def mute : Device := Device.empty.withFault "1.1" .transport

/-- Answers that tell of a missing component when they are asked for the load of processors. -/
def absentLoad : Script := fun p =>
  match p with
  | .cpuLoad => some (.failure (.stated .componentNotFound "x"))
  | _ => none

namespace Communicator

/-- The load is not implemented, so the failure of the temperature after it counts. -/
theorem failing_temperature_fails_poll :
    ∃ failure, (runWithin mute.client (Limits.unhurried 16) 8
      (Communicator.poll ⟨warmHost, Registry.empty⟩ IdentityField.schema.blank).run
        Meter.zero).1 = .error failure := by
  obtain ⟨-, -, -, hfails⟩ := first_hard_field_fails_poll ⟨warmHost, Registry.empty⟩
    IdentityField.schema.blank mute.client (Limits.unhurried 16) 8 Meter.zero
  have hreports : ((runWithin mute.client (Limits.unhurried 16) 8
      (Communicator.survey ⟨warmHost, Registry.empty⟩ IdentityField.schema.blank)
        Meter.zero).1.components.any fun e => e.2.map (fun r => r.2.outcome.kind?) =
          [some .notImplemented, some .transport]) = true := by decide +kernel
  obtain ⟨e, he, hkinds⟩ := List.any_eq_true.1 hreports
  obtain ⟨load, rest, hfields, hload, hrest⟩ := List.map_eq_cons_iff.1 (of_decide_eq_true hkinds)
  obtain ⟨temperature, later, rfl, htemperature, -⟩ := List.map_eq_cons_iff.1 hrest
  obtain ⟨failure, herror, hkind⟩ := Outcome.kind?_eq_some.1 htemperature
  refine hfails e he [load] temperature later failure hfields herror ?_ fun b hb => ?_
  · rw [hkind]
    rfl
  · rw [List.mem_singleton.1 hb, hload]
    simp

/-- The override tells of a missing component before the temperature is looked at: the temperature
fails hard, and the poll ends in a snapshot without the processors. -/
theorem absent_load_hides_failing_temperature :
    let c : Communicator := ⟨warmHost, Registry.empty.insert "c" absentLoad.override⟩
    let program := (c.poll IdentityField.schema.blank).run
    let temperature := (c.head .cpuTemperature IdentityField.schema.blank).run
    c.advertises .cpu = true ∧ .cpuTemperature ∈ Component.cpu.fields ∧
      Outcome.kind? (run mute.client (Limits.unhurried 16) temperature Meter.zero).1 =
        some .transport ∧
      (match (run mute.client (Limits.unhurried 16) program Meter.zero).1 with
        | .ok snapshot => (snapshot.components .cpu).isNone
        | .error _ => false) = true := by
  decide +kernel

end Communicator
end DevicePoll
