import DevicePoll.Proofs.Override.Standard
import DevicePoll.Proofs.Poll.Judgement
import DevicePoll.Proofs.Reading.Progress

/-! Calls that are stopped. Once a call is cancelled or its deadline has passed it issues no more
reads; and if one of its reads was cut off, the call ends in a hard failure, whatever it is made of,
as long as the overrides let what was cut off through. -/
namespace DevicePoll

open Reading

/-- What can be asked of a device at once. -/
inductive Call where
  | property (p : Property)
  | identify
  | interfaces
  | component (component : Component)
  | poll
  | rows (tree : QueryTree)

namespace Call

@[reducible] def Value : Call → Type
  | property p => p.Value
  | identify => Identity
  | interfaces => List Interface
  | component _ => ComponentRecord
  | poll => Snapshot
  | rows _ => Rows

/-- What a call tells of the sources that it asked. -/
@[reducible] def Tale : Call → Type
  | property p => Account p.Value
  | identify => List Report
  | interfaces => Account (List Interface)
  | component _ => Account (List Interface) ⊕ List Report
  | poll => Survey
  | rows _ => Outcome Rows

end Call

def Reports.failures (reports : List Report) : List Failure := reports.flatMap fun r => r.2.failures

def Survey.failures (s : Survey) : List Failure :=
  Reports.failures s.reached ++ (s.listing?.map Account.failures).getD [] ++
    s.components.flatMap fun e => Reports.failures e.2

/-- The failures of the sources that a call asked. Rows are read without sources. -/
def Call.failures : (call : Call) → call.Tale → List Failure
  | property _, account => account.failures
  | identify, reports => Reports.failures reports
  | interfaces, account => account.failures
  | component _, .inl account => account.failures
  | component _, .inr reports => Reports.failures reports
  | poll, survey => survey.failures
  | rows _, _ => []

namespace Outcome
variable {α β : Type}

theorem eq_error_of_map {f : α → β} {outcome : Outcome α} {failure : Failure}
    (h : outcome.map f = .error failure) : outcome = .error failure := by
  cases outcome with
  | ok value => cases h
  | error other => exact congrArg _ (Except.error.inj h)

end Outcome

namespace Communicator
variable (c : Communicator) (known : Identity)

def call : (call : Call) → Poll call.Value
  | .property p => c.head p known
  | .identify => c.identify known
  | .interfaces => c.interfaces known
  | .component component => c.component known component
  | .poll => c.poll known
  | .rows tree => tree.readAll

/-- A call that tells of its sources. -/
def tale : (call : Call) → Reading call.Tale
  | .property p => c.account p known
  | .identify => c.identityReports known IdentityField.all IdentityField.schema.blank
  | .interfaces => c.account .interfaces known
  | .component component =>
    if component = .interfaces then
      c.account .interfaces known >>= fun account => .done (.inl account)
    else if c.advertises component then
      c.reports known component.fields >>= fun reports => .done (.inr reports)
    else .done (.inr [])
  | .poll => c.survey known
  | .rows tree => tree.readAll.run

/-- What a call comes to by its tale. -/
def settle : (call : Call) → call.Tale → Outcome call.Value
  | .property _, account => account.outcome
  | .identify, reports => Reports.identity reports
  | .interfaces, account => account.outcome
  | .component _, .inl account => account.outcome.map .interfaces
  | .component component, .inr reports =>
    if c.advertises component then
      (assemble component (Reports.answers reports)).map (.fields component)
    else Outcome.fails (.componentAbsent component.label)
  | .poll, survey => c.judge survey
  | .rows _, rows => rows

theorem map_run {α β : Type} (f : α → β) (p : Poll α) :
    (f <$> p).run = p.run >>= fun outcome => .done (outcome.map f) := by
  rw [ExceptT.run_map]
  rfl

theorem component_similar (component : Component) :
    (c.component known component).run.Similar .exact
      (fun outcome tale => outcome = c.settle (.component component) tale)
      (c.tale known (.component component)) := by
  rw [Communicator.component, tale]
  by_cases hlisting : component = .interfaces
  · simp only [hlisting, ↓reduceIte, map_run]
    refine ((c.head_similar .interfaces known).bind fun outcome account h => ?_)
    rw [h]
    exact .done rfl
  · by_cases hadvertised : c.advertises component = true
    · simp only [hlisting, hadvertised, ↓reduceIte, map_run]
      refine (c.fields_similar known hadvertised).bind fun outcome reports h => .done ?_
      rw [h, settle, if_pos hadvertised]
    · simp only [hlisting, hadvertised, ↓reduceIte, map_run, fields]
      refine .done ?_
      rw [settle, if_neg hadvertised]
      rfl

/-- A call asks what its tale asks, and comes to what the tale settles. -/
theorem call_similar (call : Call) :
    (c.call known call).run.Similar .exact (fun outcome tale => outcome = c.settle call tale)
      (c.tale known call) := by
  cases call with
  | property p => exact c.head_similar p known
  | identify =>
    rw [call, identify, identifyFrom_run]
    exact (Reading.Similar.refl _).map fun reports _ h => by rw [h]; rfl
  | interfaces => exact c.head_similar .interfaces known
  | component component => exact c.component_similar known component
  | poll => exact c.poll_similar known
  | rows tree => exact .refl _

/-- The outcome is a hard failure if a read was cut off. -/
def Honest {α : Type} (outcome : Outcome α) (cut : Bool) : Prop :=
  cut = true → ∃ failure, outcome = .error failure ∧ failure.kind.isHard = true

theorem honest_of_uncut {α : Type} (outcome : Outcome α) : Honest outcome false :=
  fun hcut => absurd hcut Bool.false_ne_true

variable {c}

theorem honest_of_met {α : Type} {outcome : Outcome α} {cut : Bool}
    (h : Standard.candid.met outcome cut) : Honest outcome cut := by
  intro hcut
  obtain ⟨kind, hkind, hhard⟩ := h.2 hcut
  obtain ⟨failure, hfailure, rfl⟩ := Outcome.kind?_eq_some.1 hkind
  exact ⟨failure, hfailure, hhard⟩

theorem Accounted.honest {p : Property} {account : Account p.Value} {cut : Bool}
    (h : c.Accounted .candid p account cut) : Honest account.outcome cut := by
  cases h with
  | asked _ hmet => exact honest_of_met hmet
  | absent _ _ => exact honest_of_uncut _

theorem Honest.map {α β : Type} {outcome : Outcome α} {cut : Bool} (h : Honest outcome cut)
    (f : α → β) : Honest (outcome.map f) cut := by
  intro hcut
  obtain ⟨failure, rfl, hhard⟩ := h hcut
  exact ⟨failure, rfl, hhard⟩

/-- If a field of an advertised component was cut off, the first final field is hard. -/
theorem first_final_of_cut {component : Component} (hadvertised : c.advertises component = true)
    {reports : List Report} (h : Reading.Each (c.Reported .candid) component.fields reports true) :
    ∃ first, reports.findSome? Report.final? = some first ∧ first.kind.isHard = true := by
  obtain ⟨p, hp, r, hr, hreported⟩ := h.exists_of_cut
  obtain ⟨failure, hfailure, hhard⟩ := honest_of_met (hreported.met hadvertised hp) rfl
  obtain ⟨before, after, rfl⟩ := List.append_of_mem hr
  refine Reports.first_final_isHard hfailure hhard fun b hb => ?_
  obtain ⟨q, hq, own, hother⟩ := h.of_mem (List.mem_append_left _ hb)
  exact (hother.met hadvertised hq).1

theorem honest_assemble {component : Component} (hadvertised : c.advertises component = true)
    {reports : List Report} {cut : Bool}
    (h : Reading.Each (c.Reported .candid) component.fields reports cut) :
    Honest (assemble component (Reports.answers reports)) cut := by
  rintro rfl
  obtain ⟨first, hfirst, hhard⟩ := first_final_of_cut hadvertised h
  have hkind := (assemble_eq component reports).1
  rw [hfirst, Option.map_some, Option.filter_some_pos hhard] at hkind
  obtain ⟨failure, hfailure, -⟩ := Option.map_eq_some_iff.1 hkind
  exact ⟨failure, Outcome.hard?_eq_some.1 hfailure⟩

/-- If the listing or a field of a component was cut off, it decides the poll unless something before
it does; and once the identity is known, only what is hard decides. -/
theorem Surveyed.honest {s : Survey} {cut : Bool} (h : c.Surveyed .candid s cut) :
    Honest (c.judge s) cut := by
  cases h with
  | unknown judged hmet =>
    rw [judged] at hmet
    exact honest_of_met hmet
  | @known reached identity listing components first second third judged hmet hlisting
      hcomponents =>
    intro hcut
    -- the identity has a value, so none of its own reads was cut off
    have hfirst : first = false := by
      by_contra hfirst
      obtain ⟨failure, hfailure, -⟩ := honest_of_met hmet (Bool.of_not_eq_false hfirst)
      rw [judged] at hfailure
      cases hfailure
    rw [hfirst, Bool.false_or, Bool.or_eq_true] at hcut
    have hdecided : (Survey.known reached identity judged listing components).decisive? ≠ none := by
      obtain rfl | rfl := hcut
      · obtain ⟨failure, hfailure⟩ := hlisting.honest rfl
        intro hnone
        rw [Survey.decisive?, Option.or_eq_none_iff, Option.or_eq_none_iff] at hnone
        simp [Survey.listing?, Outcome.hard?_eq_some.2 hfailure] at hnone
      · obtain ⟨component, hpolled, e, he, rfl, hfields⟩ := hcomponents.exists_of_cut
        obtain ⟨failure, hfinal, hhard⟩ := first_final_of_cut (mem_polled.1 hpolled).1 hfields
        exact Survey.decisive?_ne_none he hfinal hhard
    obtain ⟨kind, hkind⟩ := Option.ne_none_iff_exists'.1 hdecided
    obtain ⟨failure, hfailure, rfl⟩ :=
      Outcome.kind?_eq_some.1 ((c.kind?_judge _).trans hkind)
    refine ⟨failure, hfailure, ?_⟩
    obtain hreached | ⟨_, cause, -, hhard, heq⟩ | ⟨_, -, -, hhard⟩ := Survey.decisive?_cases hkind
    · rw [Survey.reached, ← Reports.kind?_identity, judged] at hreached
      cases hreached
    · exact heq ▸ (Outcome.hard?_eq_some.1 hhard).2
    · exact hhard

section Ensures
variable {replies : Replies} (hreplies : replies.Meet .candid)
  (hregistry : c.registry.Meets replies .candid)
include hreplies hregistry

theorem account_honest (p : Property) :
    (c.account p known).Ensures replies fun account cut => Honest account.outcome cut :=
  (account_ensures hreplies hregistry p known).mono fun _ _ h => h.honest

/-- What a tale settles is hard if a read was cut off. -/
theorem tale_ensures (call : Call) :
    (c.tale known call).Ensures replies fun tale cut => Honest (c.settle call tale) cut := by
  cases call with
  | property p => exact account_honest known hreplies hregistry p
  | identify =>
    exact (identityReports_ensures hreplies hregistry known _ _).mono fun _ _ h => honest_of_met h
  | interfaces => exact account_honest known hreplies hregistry .interfaces
  | component component =>
    rw [tale]
    split
    · refine (account_honest known hreplies hregistry .interfaces).bind fun account cut h => .done ?_
      rw [Reading.after, Bool.or_false]
      exact h.map _
    · split
      · rename_i hadvertised
        refine (reports_ensures hreplies hregistry known component.fields).bind
          fun reports cut h => .done ?_
        rw [Reading.after, Bool.or_false, settle, if_pos hadvertised]
        exact (honest_assemble hadvertised h).map _
      · exact .done (honest_of_uncut _)
  | poll => exact (survey_ensures hreplies hregistry known).mono fun _ _ h => h.honest
  | rows tree => exact (tree.meets_readAll hreplies).mono fun _ _ h => honest_of_met h

end Ensures

/-- The kind of the first final report is that of a source, if it is hard. -/
theorem founded_of_first_final {reports : List Report} {kind : Failure.Kind}
    (h : (reports.findSome? Report.final?).map Failure.kind = some kind)
    (hhard : kind.isHard = true) : ∃ cause ∈ Reports.failures reports, cause.kind = kind := by
  obtain ⟨failure, hfirst, rfl⟩ := Option.map_eq_some_iff.1 h
  obtain ⟨r, hr, hfinal⟩ := List.exists_of_findSome?_eq_some hfirst
  obtain ⟨cause, hcause, hkind⟩ := r.2.founded failure (Outcome.eq_error_of_final hfinal) hhard
  exact ⟨cause, List.mem_flatMap.2 ⟨r, hr, hcause⟩, hkind⟩

theorem judge_founded {s : Survey} {failure : Failure} (h : c.judge s = .error failure)
    (hhard : failure.kind.isHard = true) : ∃ cause ∈ s.failures, cause.kind = failure.kind := by
  have hkind := c.kind?_judge s
  rw [h, Outcome.kind?_error] at hkind
  obtain hreached | ⟨account, first, haccount, hfirst, heq⟩ | ⟨e, he, hfields, -⟩ :=
    Survey.decisive?_cases hkind.symm
  · obtain ⟨cause, hcause, hkind⟩ := founded_of_first_final hreached hhard
    exact ⟨cause, List.mem_append_left _ (List.mem_append_left _ hcause), hkind⟩
  · obtain ⟨herror, hfirstHard⟩ := Outcome.hard?_eq_some.1 hfirst
    obtain ⟨cause, hcause, hkind⟩ := account.founded first herror hfirstHard
    refine ⟨cause, List.mem_append_left _ (List.mem_append_right _ ?_), hkind.trans heq⟩
    rwa [haccount]
  · obtain ⟨cause, hcause, hkind⟩ := founded_of_first_final hfields hhard
    exact ⟨cause, List.mem_append_right _ (List.mem_flatMap.2 ⟨e, he, hcause⟩), hkind⟩

/-- The kind of a hard failure is that of a source, if sources were asked. -/
theorem settle_founded {call : Call} (hsources : ∀ tree, call ≠ .rows tree) {tale : call.Tale}
    {failure : Failure} (hfailure : c.settle call tale = .error failure)
    (hhard : failure.kind.isHard = true) :
    ∃ cause ∈ call.failures tale, cause.kind = failure.kind := by
  cases call with
  | property p => exact tale.founded failure hfailure hhard
  | identify =>
    have hkind := Reports.kind?_identity tale
    rw [show Reports.identity tale = .error failure from hfailure, Outcome.kind?_error] at hkind
    exact founded_of_first_final hkind.symm hhard
  | interfaces => exact tale.founded failure hfailure hhard
  | component component =>
    cases tale with
    | inl account => exact account.founded failure (Outcome.eq_error_of_map hfailure) hhard
    | inr reports =>
      rw [settle] at hfailure
      split at hfailure
      · have hassembled := Outcome.hard?_eq_some.2 ⟨Outcome.eq_error_of_map hfailure, hhard⟩
        have hkind := (assemble_eq component reports).1
        rw [hassembled, Option.map_some] at hkind
        exact founded_of_first_final (Option.filter_eq_some_iff.1 hkind.symm).1 hhard
      · cases hfailure
        cases hhard
  | poll => exact judge_founded hfailure hhard
  | rows tree => exact absurd rfl (hsources tree)

/-- Rows that were cut off fail by what stopped the reads: a read that fails for another reason drops
all others before. -/
theorem kind_of_stopped_rows {client : Client} {limits : Limits} {rounds : Nat} {meter : Meter}
    {tree : QueryTree} {failure : Failure}
    (hcutOff : (runWithin client limits rounds tree.readAll.run meter).2.cutOff ≠ meter.cutOff)
    (hfailure : (runWithin client limits rounds tree.readAll.run meter).1 = .error failure) :
    failure.kind = limits.stopper.category.kind := by
  have hreplies : (repliesOf client limits).Meet (.stoppedBy limits.stopper) :=
    Replies.during_meet_stoppedBy
  obtain ⟨cut, hmet, hgrows⟩ :=
    Reading.Ensures.runWithin (tree.meets_readAll hreplies) rounds meter
  have hkind := hmet (Bool.of_not_eq_false fun hno => hcutOff (hgrows.cutOff hno))
  rw [hfailure] at hkind
  exact Option.some.inj hkind

/-- A call issues no read from the instant on at which reads are stopped. If one of its reads was cut
off it fails hard, and if no source failed hard for another reason, by what stopped the reads. It is
enough that each override lets what was cut off through: fixed answers do, and so do the counters of
service access points if the device implements all its requests. Call and tale come to their ends once there
are rounds enough. -/
theorem stopped_call_fails_hard (c : Communicator) (known : Identity) (call : Call)
    (client : Client) (limits : Limits) (rounds : Nat) (meter : Meter)
    {instant : Nat} {stop : Failure.Stop} (hinstant : limits.stopAt? = some instant)
    (hstop : limits.stop? instant = some stop)
    (hregistry : c.registry.Meets (repliesOf client limits) .candid)
    (hclient : client.NeverFails .componentNotFound) :
    let ran := runWithin client limits rounds (c.call known call).run meter
    let told := runWithin client limits rounds (c.tale known call) meter
    (∃ enough, ∀ more, enough ≤ more → HasEnded client limits (c.call known call).run meter more ∧
        HasEnded client limits (c.tale known call) meter more) ∧
      (∃ new, ran.2.issued = new ++ meter.issued ∧ (∀ e ∈ new, e.1 < instant) ∧
        (instant = 0 → new = [])) ∧
      (ran.2.cutOff ≠ meter.cutOff → ∃ failure : Failure, ran.1 = .error failure ∧
        failure.kind.isHard = true ∧
        ((∀ cause ∈ call.failures told.1, cause.kind.isHard = true →
            cause.kind = stop.category.kind) → failure.kind = stop.category.kind)) := by
  intro ran told
  have hreplies : (repliesOf client limits).Meet .candid := Replies.during_meet_candid hclient
  obtain rfl : stop = limits.stopper := by
    rw [Limits.stop?_stopAt hinstant] at hstop
    exact (Option.some.inj hstop).symm
  obtain ⟨hvalue, hmeter⟩ := (c.call_similar known call).runWithin (.exact client) limits rounds meter
  have hran : ran.1 = c.settle call told.1 := hvalue
  obtain ⟨cut, hhonest, hgrows⟩ :=
    (tale_ensures known hreplies hregistry call).runWithin rounds meter
  rw [← hmeter] at hgrows
  refine ⟨exists_both_ended client limits _ _ meter, ?_, fun hcutOff => ?_⟩
  · obtain ⟨new, hnew, hopen⟩ := hgrows.issued
    have hearly : ∀ e ∈ new, e.1 < instant := fun e he =>
      Limits.stop?_eq_none_iff.1 (hopen e he) instant hinstant
    refine ⟨new, hnew, hearly, fun hzero => List.eq_nil_iff_forall_not_mem.2 fun e he => ?_⟩
    exact Nat.not_lt_zero _ (hzero ▸ hearly e he)
  · have hcut : cut = true := Bool.of_not_eq_false fun hno => hcutOff (hgrows.cutOff hno)
    obtain ⟨failure, hfailure, hhard⟩ := hhonest hcut
    refine ⟨failure, hran.trans hfailure, hhard, fun hcauses => ?_⟩
    -- rows have no sources: there every failure of a cut-off run comes of the reads themselves
    by_cases hrows : ∃ tree, call = .rows tree
    · obtain ⟨tree, rfl⟩ := hrows
      exact kind_of_stopped_rows hcutOff (hran.trans hfailure)
    · obtain ⟨cause, hcause, hkind⟩ :=
        settle_founded (fun tree heq => hrows ⟨tree, heq⟩) hfailure hhard
      rw [← hkind] at hhard ⊢
      exact hcauses cause hcause hhard

end Communicator

/-- One read at a time, until the reads are cancelled. -/
def Limits.cancelledAt (instant : Nat) : Limits := ⟨1, by decide, some instant, none⟩

/-- A class with access points, below one that advertises interfaces. -/
def accessRouter : DeviceClass :=
  let base := DeviceClass.root "timos" LabelTree.empty fun component =>
    if component = .interfaces then some true else none
  base.derive Sap.className LabelTree.empty fun _ => none

/-- A listing of one interface. -/
def oneInterface : Script := fun p =>
  match p with
  | .interfaces => some (.value [Schema.set InterfaceField.schema.blank InterfaceField.index (some 73)])
  | _ => none

/-- A device with one access point, without its counters. -/
def slowRouter : Device :=
  let listed := Device.empty.withValue "1.3.6.1.4.1.6527.3.1.2.4.3.2.1.5.12.7.3" (.text "x")
  { listed with delay := 10 }

namespace Communicator

def access : Communicator := ⟨accessRouter, Sap.defaults.insert "timos" oneInterface.override⟩

theorem access_meets_candid {client : Client} {limits : Limits}
    (hclient : client.NeverFails .componentNotFound) (himplements : client.NeverFails .notImplemented) :
    access.registry.Meets (repliesOf client limits) .candid := by
  have hscript : ∀ p failure, oneInterface p = some (.failure failure) →
      failure.kind ≠ .componentNotFound := by
    intro p failure h
    cases p <;> cases h
  exact (Registry.meets_empty.insert (Sap.override_meets_candid hclient himplements)).insert
    (Script.meets_override hscript)

/-- The table of access points and the first counter are read, and the second counter is cut off. -/
theorem cancelled_counter_fails_listing :
    let limits := Limits.cancelledAt 25
    let ran := runWithin slowRouter.client limits 8
      (access.call IdentityField.schema.blank .interfaces).run Meter.zero
    (∀ e ∈ ran.2.issued, e.1 < 25) ∧ ran.2.cutOff ≠ 0 ∧
      ∃ failure : Failure, ran.1 = .error failure ∧ failure.kind = .cancelled := by
  intro limits ran
  have hclient := slowRouter.neverFails_client
  have himplements : slowRouter.client.NeverFails .notImplemented :=
    slowRouter.neverFails_of_faults nofun nofun
  obtain ⟨-, ⟨new, hnew, hearly, -⟩, hstopped⟩ := stopped_call_fails_hard access
    IdentityField.schema.blank .interfaces slowRouter.client limits 8 Meter.zero rfl rfl
    (access_meets_candid hclient himplements) hclient
  have hcutOff : ran.2.cutOff ≠ 0 := by decide +kernel
  have hcauses : ∀ cause ∈ Call.failures .interfaces (runWithin slowRouter.client limits 8
      (access.tale IdentityField.schema.blank .interfaces) Meter.zero).1,
      cause.kind.isHard = true → cause.kind = Failure.Stop.cancelled.category.kind := by
    decide +kernel
  obtain ⟨failure, hfailure, -, hkind⟩ := hstopped hcutOff
  refine ⟨fun e he => hearly e ?_, hcutOff, failure, hfailure, hkind hcauses⟩
  rwa [show ran.2.issued = new ++ [] from hnew, List.append_nil] at he

/-- The first counter is not implemented. That failure alone is kept of the two counters, and since it
yields, the listing without counters takes its place though the second counter was cut off. -/
theorem unimplemented_counter_hides_cancelled_one :
    let device := slowRouter.withFault "1.3.6.1.4.1.6527.6.2.2.2.8.1.1.1.4" .notImplemented
    let ran := run device.client (Limits.cancelledAt 25)
      (access.call IdentityField.schema.blank .interfaces).run Meter.zero
    device.client.NeverFails .componentNotFound ∧ ran.2.cutOff = 1 ∧
      Outcome.kind? ran.1 = none := by
  intro device ran
  have hran : ran.2.cutOff = 1 ∧ Outcome.kind? ran.1 = none := by decide +kernel
  exact ⟨device.neverFails_client, hran⟩

end Communicator
end DevicePoll
