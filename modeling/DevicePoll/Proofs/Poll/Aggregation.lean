import DevicePoll.Proofs.Poll.Composition
import DevicePoll.Proofs.Poll.Sequential
import DevicePoll.Proofs.Source.Gate

/-! Components other than the interfaces. A component is put together from the outcomes of the
properties that its record names, in the order of the record: the first outcome that no other source
could make up for fails it, no value at all leaves it out, and otherwise every field has exactly the
value of the property of its own name. Which of the outcomes was known first plays no part in that. -/
namespace DevicePoll

open Reading

namespace Outcome
variable {α : Type}

/-- A value, or a failure to find or to implement one. -/
def Soft (outcome : Outcome α) : Prop :=
  ∀ failure, outcome = .error failure → failure.kind = .notFound ∨ failure.kind = .notImplemented

theorem soft_error_iff {failure : Failure} :
    Soft (.error failure : Outcome α) ↔ failure.yields = true := by
  simp [Soft, Failure.yields_iff]

theorem soft_iff {outcome : Outcome α} : outcome.Soft ↔ outcome.final? = none := by
  cases outcome with
  | ok value => simp [Soft, final?]
  | error failure => simp [soft_error_iff, final?]

end Outcome

namespace Answers
variable {answers before after : Answers} {p : Property} {failure : Failure}

theorem final?_eq_none_iff : answers.final? = none ↔ ∀ answer ∈ answers, answer.2.Soft := by
  simp only [final?, List.findSome?_eq_none_iff, Outcome.soft_iff]

/-- The first outcome that is not soft is final. -/
theorem final?_of_first (hbefore : ∀ answer ∈ before, answer.2.Soft)
    (hfailure : ¬failure.yields = true) :
    final? (before ++ ⟨p, .error failure⟩ :: after) = some failure := by
  have hnone : before.findSome? (fun answer => answer.2.final?) = none :=
    final?_eq_none_iff.mpr hbefore
  have hfinal : Outcome.final? (.error failure : Outcome p.Value) = some failure := if_neg hfailure
  rw [final?, List.findSome?_append, hnone, Option.none_or, List.findSome?_cons, hfinal]

end Answers

/-- What a component comes to, by the outcomes of its properties in the order of its record. -/
structure Aggregates (component : Component) (answers : Answers) (outcome : Outcome ComponentRecord) :
    Prop where
  /-- The first outcome that is not soft fails the component with its kind. -/
  hard : ∀ (before after : Answers) (p : Property) (failure : Failure),
    answers = before ++ ⟨p, .error failure⟩ :: after → (∀ answer ∈ before, answer.2.Soft) →
    failure.kind ≠ .notFound → failure.kind ≠ .notImplemented →
    ∃ first : Failure, outcome = .error first ∧ first.kind = failure.kind
  /-- Without a value there is no component. -/
  empty : (∀ answer ∈ answers, ∃ failure : Failure, answer.2 = .error failure ∧
      (failure.kind = .notFound ∨ failure.kind = .notImplemented)) →
    ∃ failure : Failure, outcome = .error failure ∧ failure.kind = .componentNotFound
  /-- Values make a record of exactly them. -/
  record : (∀ answer ∈ answers, answer.2.Soft) →
    (∃ answer ∈ answers, ∃ value, answer.2 = .ok value) →
    ∃ record, outcome = .ok (.fields component record) ∧
      ∀ (field : component.schema.Field) value,
        record field = some value ↔ ⟨field.1, .ok value⟩ ∈ answers

namespace Communicator

/-! ### Putting outcomes together -/

theorem assemble_of_final (component : Component) {answers : Answers} {failure : Failure}
    (h : answers.final? = some failure) :
    ∃ first, assemble component answers = .error first ∧ first.kind = failure.kind := by
  have hkind := answers.values_eq.1
  rw [h, Option.map_some, Outcome.kind?_eq_some] at hkind
  obtain ⟨first, hfirst, hkind⟩ := hkind
  exact ⟨first, by rw [assemble, hfirst], hkind⟩

theorem assemble_of_soft (component : Component) {answers : Answers} (h : answers.final? = none) :
    assemble component answers = if answers.found = [] then
      Outcome.fails (.componentEmpty component.label)
      else .ok fun field : component.schema.Field => Values.get? answers.found field.1 := by
  obtain ⟨hkind, hvalues⟩ := answers.values_eq
  rw [h, Option.map_none] at hkind
  cases hgathered : answers.values with
  | error failure =>
    rw [hgathered] at hkind
    cases hkind
  | ok values =>
    rw [assemble, hgathered, ← hvalues values hgathered]
    cases values <;> rfl

/-- Outcomes of distinct properties are put together as they should be. -/
theorem aggregates_assemble (component : Component) {answers : Answers}
    (hkeys : (answers.map Sigma.fst).Nodup) :
    Aggregates component answers ((assemble component answers).map (.fields component)) where
  hard before after p failure hsplit hbefore hfound himplemented := by
    have hfinal : answers.final? = some failure := by
      rw [hsplit]
      apply Answers.final?_of_first hbefore
      intro hyields
      exact (Failure.yields_iff.mp hyields).elim hfound himplemented
    obtain ⟨first, hassembled, hkind⟩ := assemble_of_final component hfinal
    exact ⟨first, by rw [hassembled]; rfl, hkind⟩
  empty hnone := by
    have hsoft : answers.final? = none := by
      apply Answers.final?_eq_none_iff.mpr
      intro answer hanswer other hother
      obtain ⟨failure, hfailure, hkind⟩ := hnone answer hanswer
      rw [hfailure] at hother
      exact Except.error.inj hother ▸ hkind
    have hfound : answers.found = [] := by
      apply List.eq_nil_iff_forall_not_mem.mpr
      rintro ⟨p, value⟩ hvalue
      obtain ⟨failure, hfailure, -⟩ := hnone _ (Answers.mem_found_iff.mp hvalue)
      cases hfailure
    rw [assemble_of_soft component hsoft, if_pos hfound]
    exact ⟨_, rfl, rfl⟩
  record hsoft hvalue := by
    obtain ⟨answer, hanswer, value, hvalue⟩ := hvalue
    have hmem : ⟨answer.1, .ok value⟩ ∈ answers := by
      rw [← hvalue]
      exact hanswer
    have hfound : answers.found ≠ [] := List.ne_nil_of_mem (Answers.mem_found_iff.mpr hmem)
    rw [assemble_of_soft component (Answers.final?_eq_none_iff.mpr hsoft), if_neg hfound]
    refine ⟨_, rfl, fun field value => ?_⟩
    rw [Values.get?_eq_some_iff (hkeys.sublist answers.keys_found_sublist), Answers.mem_found_iff]

/-! ### Reading a component -/

variable (c : Communicator) (identity : Identity)

/-- An advertised component is put together from the outcomes of its properties. -/
theorem component_run {component : Component} (hcomponent : component ≠ .interfaces)
    (h : c.advertises component = true) :
    (c.component identity component).run = c.answers identity component.fields >>= fun answers =>
      .done ((assemble component answers).map (.fields component)) := by
  rw [Communicator.component, if_neg hcomponent, map_run, fields, if_pos h, ExceptT.run_mk,
    bind_assoc]
  rfl

/-- Properties that are read side by side are answered in their order, whichever came first. -/
theorem keys_of_run (client : Client) (limits : Limits) (rounds : Nat) (meter : Meter)
    (properties : List Property) :
    (runWithin client limits rounds (c.answers identity properties) meter).1.map Sigma.fst =
      properties := by
  have hanswers : (c.answers identity properties).Ensures (repliesOf client limits)
      (Each (fun p (answer : (p : Property) × Outcome p.Value) _ => answer.1 = p) properties) := by
    refine Ensures.inTurns properties fun p _ => ?_
    have hhead : (c.head p identity).run.Ensures (repliesOf client limits) fun _ _ => True :=
      .of_forall _ fun _ _ => trivial
    exact hhead.bind fun outcome _ _ => .done rfl
  obtain ⟨cut, heach, -⟩ := hanswers.runWithin rounds meter
  exact heach.map_eq fun p answer cut h => h

end Communicator

/-- A field of a component is named as the property that it has its value from. -/
theorem Component.name_field (component : Component) (field : component.schema.Field) :
    field.1.name = component.label ++ "_" ++ component.schema.label field := by
  have hall : ∀ component ∈ Component.all, ∀ p ∈ component.fields,
      p.name = component.label ++ "_" ++ p.label := by decide +kernel
  exact hall component component.mem_all field.1 field.2

namespace Communicator

/-- A component that is not advertised is missing, and nothing is read for it. An advertised one comes
in every run to what the outcomes of its properties in that run are put together to, in the order of
its record: the first outcome that is neither a value nor a failure to find or to implement one fails
it, without a value it is missing, and otherwise its record has the values of the properties that its
fields are named as. These runs come to their ends once there are rounds enough. -/
theorem component_is_aggregated (c : Communicator) (identity : Identity) (component : Component)
    (hcomponent : component ≠ .interfaces) :
    (component.schema.fields.map Subtype.val = component.fields ∧
      ∀ field : component.schema.Field,
        field.1.name = component.label ++ "_" ++ component.schema.label field) ∧
    (c.advertises component = false →
      ∀ (client : Client) (limits : Limits) (rounds : Nat) (meter : Meter), ∃ failure : Failure,
        runWithin client limits rounds (c.component identity component).run meter =
          (.error failure, meter) ∧ failure.kind = .componentNotFound) ∧
    (c.advertises component = true →
      (∀ (client : Client) (limits : Limits) (rounds : Nat) (meter : Meter),
        let ran := runWithin client limits rounds (c.component identity component).run meter
        let told := runWithin client limits rounds (c.answers identity component.fields) meter
        (∃ enough, ∀ more, enough ≤ more →
          HasEnded client limits (c.component identity component).run meter more ∧
            HasEnded client limits (c.answers identity component.fields) meter more) ∧
          ran.2 = told.2 ∧ told.1.map Sigma.fst = component.fields ∧
          Aggregates component told.1 ran.1) ∧
      ∀ answer : (request : Request) → Outcome request.Reply,
        Aggregates component
          (component.fields.map fun p => ⟨p, (c.head p identity).outcome answer⟩)
          ((c.component identity component).outcome answer)) := by
  refine ⟨⟨List.attach_map_subtype_val _, component.name_field⟩, fun habsent => ?_,
    fun hadvertised => ⟨?_, ?_⟩⟩
  · intro client limits rounds meter
    rw [component_run_of_absent habsent identity, runWithin_done]
    exact ⟨_, rfl, rfl⟩
  · intro client limits rounds meter ran told
    have hsimilar : (c.component identity component).run.Similar .exact
        (fun outcome answers => outcome = (assemble component answers).map (.fields component))
        (c.answers identity component.fields) := by
      rw [c.component_run identity hcomponent hadvertised]
      exact (Reading.Similar.refl _).map fun answers _ h => by rw [h]
    obtain ⟨hran, hmeter⟩ := hsimilar.runWithin (.exact client) limits rounds meter
    have hkeys : told.1.map Sigma.fst = component.fields :=
      c.keys_of_run identity client limits rounds meter component.fields
    refine ⟨exists_both_ended client limits _ _ meter, hmeter, hkeys, ?_⟩
    rw [show ran.1 = _ from hran]
    exact aggregates_assemble component (hkeys ▸ component.nodup_fields)
  · intro answer
    rw [Poll.outcome, c.component_run identity hcomponent hadvertised, eval_bind, eval_answers]
    apply aggregates_assemble
    rw [List.map_map]
    exact (List.map_id' component.fields).symm ▸ component.nodup_fields

end Communicator

/-- A class that reads how many processes there are on a server. -/
def servedHost : DeviceClass :=
  let oid : Oid := ⟨[['2'], ['1']], by simp, by decide⟩
  let server : QueryTree := LabelTree.empty.insert "procs" (.leaf ⟨oid, []⟩)
  DeviceClass.root "s" (LabelTree.empty.insert "server" server.toNode) fun component =>
    if component = .server then some true else none

namespace Communicator

/-- The users are not implemented and yield, and the processes alone make the component. -/
theorem processes_alone_make_server :
    let c : Communicator := ⟨servedHost, Registry.empty⟩
    let device : Device := Device.empty.withValue "2.1.1" (.integer 7)
    Component.server ≠ .interfaces ∧ c.advertises .server = true ∧
      ∃ record, (runWithin device.client (Limits.unhurried 16) 8
          (c.component IdentityField.schema.blank .server).run Meter.zero).1 =
            .ok (.fields .server record) ∧
        (record ⟨.serverProcs, by decide⟩).isSome = true ∧
        record ⟨.serverUsers, by decide⟩ = none := by
  intro c device
  obtain ⟨-, -, hadvertised⟩ :=
    component_is_aggregated c IdentityField.schema.blank .server (by decide)
  obtain ⟨hruns, -⟩ := hadvertised rfl
  obtain ⟨-, -, hkeys, haggregates⟩ := hruns device.client (Limits.unhurried 16) 8 Meter.zero
  have hkinds : (runWithin device.client (Limits.unhurried 16) 8
      (c.answers IdentityField.schema.blank Component.server.fields) Meter.zero).1.map
        (fun answer => Outcome.kind? answer.2) = [none, some .notImplemented] := by decide +kernel
  obtain ⟨⟨p, procs⟩, rest, htold, hprocs, hrest⟩ := List.map_eq_cons_iff.1 hkinds
  obtain ⟨⟨q, users⟩, last, rfl, husers, hlast⟩ := List.map_eq_cons_iff.1 hrest
  obtain rfl := List.map_eq_nil_iff.1 hlast
  rw [htold] at hkeys haggregates
  obtain ⟨rfl, rfl⟩ : p = .serverProcs ∧ q = .serverUsers := by
    simpa [show Component.server.fields = [.serverProcs, .serverUsers] by decide] using hkeys
  dsimp only at hprocs husers
  obtain ⟨failure, rfl, hfailure⟩ := Outcome.kind?_eq_some.1 husers
  cases procs with
  | error failure => cases hprocs
  | ok value =>
    have hsoft : ∀ answer ∈ ([⟨.serverProcs, .ok value⟩, ⟨.serverUsers, .error failure⟩] : Answers),
        answer.2.Soft := by
      simp [Outcome.Soft, hfailure]
    obtain ⟨record, hrecord, hvalues⟩ := haggregates.record hsoft ⟨_, List.mem_cons_self, value, rfl⟩
    refine ⟨by decide, rfl, record, hrecord, ?_, ?_⟩
    · rw [(hvalues ⟨.serverProcs, by decide⟩ value).mpr List.mem_cons_self]
      rfl
    · apply Option.eq_none_iff_forall_ne_some.mpr
      intro users husers
      simpa using (hvalues ⟨.serverUsers, by decide⟩ users).mp husers

end Communicator
end DevicePoll
