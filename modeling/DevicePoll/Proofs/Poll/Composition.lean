import DevicePoll.Proofs.Override.Standard
import DevicePoll.Proofs.Poll.HardFailure

/-! What a poll is made of, if no override tells of a missing component. It fails exactly if its
survey has a fatal failure, and otherwise its snapshot shows what was reported and nothing else. -/
namespace DevicePoll

open Reading

namespace Property

theorem nodup_all : all.Nodup := by decide

end Property

namespace Component

theorem nodup_all : all.Nodup := by decide

theorem nodup_fields (component : Component) : component.fields.Nodup := by
  unfold fields
  split
  · exact List.nodup_nil
  · exact Property.nodup_all.filter _

end Component

theorem Communicator.nodup_polled (c : Communicator) : c.polled.Nodup :=
  (Component.nodup_all.filter _).filter _

namespace Values

theorem get?_eq_some_iff {values : Values} (h : (values.map Sigma.fst).Nodup) {p : Property}
    {value : p.Value} : values.get? p = some value ↔ ⟨p, value⟩ ∈ values := by
  induction values with
  | nil => simp [get?]
  | cons e rest ih =>
    obtain ⟨q, found⟩ := e
    rw [List.map_cons, List.nodup_cons] at h
    rw [get?, List.mem_cons]
    split
    · rename_i heq
      subst heq
      have hrest : (⟨q, value⟩ : (p : Property) × p.Value) ∉ rest := fun hmem =>
        h.1 (List.mem_map.2 ⟨_, hmem, rfl⟩)
      simp only [Option.some.injEq, Sigma.mk.injEq, heq_eq_eq, true_and, hrest, or_false]
      exact eq_comm
    · rename_i hne
      rw [ih h.2]
      exact ⟨.inr, fun hmem => hmem.resolve_left fun heq => hne (congrArg Sigma.fst heq).symm⟩

end Values

namespace Reports

/-- The values of some reports stand in the order of the reports. -/
theorem keys_sublist (reports : List Report) :
    ((reports.filterMap Report.value?).map Sigma.fst).Sublist (reports.map Sigma.fst) := by
  have hkeys : (answers reports).map Sigma.fst = reports.map Sigma.fst := by
    rw [answers, List.map_map]
    rfl
  rw [← found_answers, ← hkeys]
  exact (answers reports).keys_found_sublist

end Reports

theorem findSome?_congr {α β : Type} {f g : α → Option β} {l : List α}
    (h : ∀ a ∈ l, f a = g a) : l.findSome? f = l.findSome? g := by
  induction l with
  | nil => rfl
  | cons a rest ih =>
    obtain ⟨hhead, htail⟩ := List.forall_mem_cons.1 h
    rw [List.findSome?_cons, List.findSome?_cons, hhead, ih htail]

namespace Survey

/-- The first failure that fails a poll: of an identity field that does not yield, of a hard listing,
or of a hard field of a component. -/
def fatal? (s : Survey) : Option Failure :=
  (s.reached.findSome? Report.final?).or
    ((s.listing?.bind fun account => account.outcome.hard?).or
      (s.components.findSome? fun e => e.2.findSome? Report.hard?))

/-- No field of a component tells of a missing component. -/
def Present (s : Survey) : Prop :=
  ∀ e ∈ s.components, ∀ r ∈ e.2, r.2.outcome.kind? ≠ some .componentNotFound

variable {s : Survey}

theorem Present.findSome?_final? (h : s.Present) {e : Component × List Report}
    (he : e ∈ s.components) : e.2.findSome? Report.final? = e.2.findSome? Report.hard? :=
  findSome?_congr fun r hr => (Outcome.hard?_eq_final? (h e he r hr)).symm

/-- Without a missing component among its fields, a component is decided by its first hard field. -/
theorem Present.decisive?_eq (h : s.Present) : s.decisive? = s.fatal?.map Failure.kind := by
  have hcomponents : (s.components.findSome? fun e =>
      ((e.2.findSome? Report.final?).map Failure.kind).filter Failure.Kind.isHard) =
        (s.components.findSome? fun e => e.2.findSome? Report.hard?).map Failure.kind := by
    rw [List.map_findSome?]
    refine findSome?_congr fun e he => ?_
    rw [h.findSome?_final? he, Function.comp_apply]
    cases hfirst : e.2.findSome? Report.hard? with
    | none => rfl
    | some failure =>
      obtain ⟨r, -, hhard⟩ := List.exists_of_findSome?_eq_some hfirst
      simp [Option.filter, (Outcome.hard?_eq_some.1 hhard).2]
  rw [decisive?, fatal?, Option.map_or, Option.map_or, hcomponents]

end Survey

namespace Communicator
variable {c : Communicator}

theorem Surveyed.present {s : Survey} {cut : Bool} (h : c.Surveyed .present s cut) :
    s.Present := by
  intro e he r hr
  cases h with
  | unknown judged _ => cases he
  | known judged _ _ hcomponents =>
    obtain ⟨component, hpolled, own, rfl, hfields⟩ := hcomponents.of_mem he
    obtain ⟨p, hp, own, hreported⟩ := hfields.of_mem hr
    exact hreported.met (mem_polled.1 hpolled).1 hp

/-- The snapshot shows what the survey reports: the identity, the listing if it was resolved, and
every component with a value, with exactly the values of its fields. -/
structure Shows (c : Communicator) (s : Survey) (snapshot : Snapshot) : Prop where
  className : snapshot.className = c.deviceClass.name
  identity : Reports.identity s.reached = .ok snapshot.identity
  interfaces : ∀ rows, snapshot.interfaces = some rows ↔ c.advertises .interfaces = true ∧
    ∃ account, s.listing? = some account ∧ account.outcome = .ok rows
  components : ∀ component, (snapshot.components component).isSome = true ↔
    c.advertises component = true ∧ component ≠ .interfaces ∧
      ∃ e ∈ s.components, e.1 = component ∧ ∃ r ∈ e.2, r.value?.isSome = true
  values : ∀ e ∈ s.components, ∀ record, snapshot.components e.1 = some record →
    ∀ (field : e.1.schema.Field) value,
      record field = some value ↔ ⟨field.1, value⟩ ∈ e.2.filterMap Report.value?

/-- A component of a snapshot is put together from the values that were reported. -/
theorem shown_eq_some_iff {components : List (Component × List Report)}
    (hnodup : (components.map Prod.fst).Nodup)
    (hpresent : ∀ e ∈ components, ∀ r ∈ e.2, r.2.outcome.kind? ≠ some .componentNotFound)
    {shown : (component : Component) → Option component.schema.Record}
    (hrecords : (componentOutcomes components).records = .ok shown)
    {e : Component × List Report} (he : e ∈ components) (record : e.1.schema.Record) :
    shown e.1 = some record ↔ e.2.filterMap Report.value? ≠ [] ∧
      record = fun field : e.1.schema.Field =>
        Values.get? (e.2.filterMap Report.value?) field.1 := by
  obtain ⟨hkind, hshown⟩ := ComponentOutcomes.records_eq (componentOutcomes components)
  have hkeys : (componentOutcomes components).map Sigma.fst = components.map Prod.fst := by
    rw [componentOutcomes, List.map_map]
    rfl
  have houtcome : ⟨e.1, assemble e.1 (Reports.answers e.2)⟩ ∈ componentOutcomes components :=
    List.mem_map.2 ⟨e, he, rfl⟩
  have hvalue := (hshown shown hrecords).2 (hkeys ▸ hnodup) _ houtcome
  obtain ⟨hhard, hassembled⟩ := assemble_eq e.1 e.2
  have hsoft : (assemble e.1 (Reports.answers e.2)).hard? = none := by
    rw [hrecords, Outcome.kind?_ok, eq_comm, Option.map_eq_none_iff, List.findSome?_eq_none_iff]
      at hkind
    exact hkind _ houtcome
  have hfinal : e.2.findSome? Report.final? = none := by
    cases hfirst : e.2.findSome? Report.final? with
    | none => rfl
    | some failure =>
      obtain ⟨r, hr, hfinal⟩ := List.exists_of_findSome?_eq_some hfirst
      have hkind := Outcome.isHard_of_final hfinal (hpresent e he r hr)
      rw [hsoft, hfirst] at hhard
      simp [Option.filter, hkind] at hhard
  have hok := hassembled record
  rw [hfinal, eq_self_iff_true, true_and] at hok
  rw [← hok, hvalue]
  cases assemble e.1 (Reports.answers e.2) <;> simp [Except.toOption]

theorem absent_of_not_mem {components : List (Component × List Report)}
    {shown : (component : Component) → Option component.schema.Record}
    (hrecords : (componentOutcomes components).records = .ok shown) {component : Component}
    (h : component ∉ components.map Prod.fst) : shown component = none := by
  refine ((ComponentOutcomes.records_eq _).2 shown hrecords).1 component ?_
  rwa [componentOutcomes, List.map_map]

/-- A listing has rows only if interfaces are advertised. -/
theorem Accounted.toOption_eq_some_iff {account : Account (List Interface)} {cut : Bool}
    (h : c.Accounted .present Property.interfaces account cut) (rows : List Interface) :
    account.outcome.toOption = some rows ↔ c.advertises .interfaces = true ∧
      ∃ other, some account = some other ∧ other.outcome = .ok rows := by
  have hvalue : account.outcome.toOption = some rows ↔ account.outcome = .ok rows := by
    cases account.outcome <;> simp [Except.toOption]
  rw [hvalue]
  constructor
  · intro hok
    exact ⟨h.answersFor hok .interfaces rfl, account, rfl, hok⟩
  · rintro ⟨-, other, heq, hok⟩
    rw [Option.some.inj heq]
    exact hok

theorem shows_of_known {reached : List Report} {identity : Identity}
    {judged : Reports.identity reached = .ok identity} {listing : Account (List Interface)}
    {components : List (Component × List Report)} {cut : Bool} {snapshot : Snapshot}
    (hsurveyed : c.Surveyed .present (.known reached identity judged listing components) cut)
    (hjudged : c.judge (.known reached identity judged listing components) = .ok snapshot) :
    c.Shows (.known reached identity judged listing components) snapshot := by
  obtain ⟨shown, hrecords, rfl⟩ := judge_known_eq_ok hjudged
  have hcomplete := hsurveyed.complete judged
  have hpresent := hsurveyed.present
  have hkeys : components.map Prod.fst = c.polled := hcomplete.1
  have hnodup : (components.map Prod.fst).Nodup := hkeys ▸ c.nodup_polled
  have hshown : ∀ e ∈ components, ∀ record, shown e.1 = some record ↔ _ := fun e he record =>
    shown_eq_some_iff hnodup hpresent hrecords he record
  refine ⟨rfl, judged, ?_, fun component => ?_, fun e he record hrecord => ?_⟩
  · cases hsurveyed with
    | known _ _ hlisting _ => exact hlisting.toOption_eq_some_iff
  · constructor
    · intro hsome
      obtain ⟨record, (hrecord : shown component = some record)⟩ :=
        Option.isSome_iff_exists.1 hsome
      have hmem : component ∈ components.map Prod.fst := by
        by_contra habsent
        have hnone := absent_of_not_mem hrecords habsent
        rw [hnone] at hrecord
        cases hrecord
      obtain ⟨e, he, rfl⟩ := List.mem_map.1 hmem
      obtain ⟨hadvertised, hother⟩ := mem_polled.1 (hkeys ▸ hmem)
      obtain ⟨hvalues, -⟩ := (hshown e he record).1 hrecord
      refine ⟨hadvertised, hother, e, he, rfl, ?_⟩
      obtain ⟨v, hv⟩ := List.exists_mem_of_ne_nil _ hvalues
      obtain ⟨r, hr, hvalue⟩ := List.mem_filterMap.1 hv
      exact ⟨r, hr, Option.isSome_iff_exists.2 ⟨v, hvalue⟩⟩
    · rintro ⟨-, -, e, he, rfl, r, hr, hvalue⟩
      obtain ⟨v, hv⟩ := Option.isSome_iff_exists.1 hvalue
      have hvalues := List.ne_nil_of_mem (List.mem_filterMap.2 ⟨r, hr, hv⟩)
      exact Option.isSome_iff_exists.2 ⟨_, (hshown e he _).2 ⟨hvalues, rfl⟩⟩
  · intro field value
    obtain ⟨-, rfl⟩ := (hshown e he record).1 hrecord
    refine Values.get?_eq_some_iff ((Reports.keys_sublist e.2).nodup ?_)
    rw [hcomplete.2 e he]
    exact e.1.nodup_fields

/-- A poll fails exactly if its survey has a fatal failure, and then with the kind of the first one:
identity fields come first, then the listing of interfaces, then the components with their fields in
the order of their records. Otherwise its snapshot shows what was reported. The survey asks what the
poll asks at the same instants, and no order in which its reads completed enters the judgement. Both come
to their ends once there are rounds enough. -/
theorem poll_is_composed_of_reports (c : Communicator) (initial : Identity) (client : Client)
    (limits : Limits) (rounds : Nat) (meter : Meter)
    (hregistry : c.registry.Meets (repliesOf client limits) .present)
    (hclient : client.NeverFails .componentNotFound) :
    let poll := runWithin client limits rounds (c.poll initial).run meter
    let survey := runWithin client limits rounds (c.survey initial) meter
    (∃ enough, ∀ more, enough ≤ more → HasEnded client limits (c.poll initial).run meter more ∧
        HasEnded client limits (c.survey initial) meter more) ∧
      (c.identify initial).run =
        c.identityReports initial IdentityField.all IdentityField.schema.blank >>=
          (fun reached => .done (Reports.identity reached)) ∧
      poll.2 = survey.2 ∧
      (∀ identity, Reports.identity survey.1.reached = .ok identity → survey.1.Complete c) ∧
      Outcome.kind? poll.1 = survey.1.fatal?.map Failure.kind ∧
      ∀ snapshot, poll.1 = .ok snapshot → c.Shows survey.1 snapshot := by
  intro poll survey
  have hmeter : poll.2 = survey.2 :=
    ((c.poll_similar initial).runWithin (.exact client) limits rounds meter).2
  have hreplies : (repliesOf client limits).Meet .present := Replies.during_meet_present hclient
  obtain ⟨s, cut, hs, hpoll, hsurveyed, -⟩ := poll_run hreplies hregistry initial rounds meter
  have hsurvey : survey.1 = s := hs
  have hjudged : poll.1 = c.judge s := hpoll
  refine ⟨exists_both_ended client limits _ _ meter, c.identify_run initial, hmeter, ?_, ?_,
    fun snapshot hsnapshot => ?_⟩
  · rw [hsurvey]
    exact fun identity => hsurveyed.complete
  · rw [hjudged, hsurvey, c.kind?_judge s, hsurveyed.present.decisive?_eq]
  · rw [hsurvey]
    rw [hjudged] at hsnapshot
    cases s with
    | unknown reached failure judged => cases hsnapshot
    | known => exact shows_of_known hsurveyed hsnapshot

end Communicator

/-- A class that reads the load of its processors. -/
def loadedHost : DeviceClass := processorHost "load"

/-- A device with one processor. -/
def uniprocessor : Device := Device.empty.withValue "1.1.1" (.integer 7)

/-- Answers that find no temperature. -/
def unknownTemperature : Script := fun p =>
  match p with
  | .cpuTemperature => some (.failure (.stated .notFound "x"))
  | _ => none

namespace Communicator

/-- The temperature is not found and yields, and the load alone makes the component. -/
theorem load_alone_is_shown :
    let c : Communicator := ⟨loadedHost, Registry.empty.insert "c" unknownTemperature.override⟩
    c.registry.Meets (repliesOf uniprocessor.client (Limits.unhurried 16)) .present ∧
      uniprocessor.client.NeverFails .componentNotFound ∧
      ∃ snapshot, (runWithin uniprocessor.client (Limits.unhurried 16) 8
          (c.poll IdentityField.schema.blank).run Meter.zero).1 = .ok snapshot ∧
        (snapshot.components .cpu).isSome = true := by
  intro c
  have hscript : ∀ p failure, unknownTemperature p = some (.failure failure) →
      failure.kind ≠ .componentNotFound := by
    intro p failure h
    cases p <;> cases h
    exact nofun
  have hregistry : c.registry.Meets (repliesOf uniprocessor.client (Limits.unhurried 16))
      .present := Registry.meets_empty.insert (Script.meets_override hscript)
  have hclient := uniprocessor.neverFails_client
  obtain ⟨-, -, -, -, hkind, hshows⟩ := poll_is_composed_of_reports c IdentityField.schema.blank
    uniprocessor.client (Limits.unhurried 16) 8 Meter.zero hregistry hclient
  have hreports : (runWithin uniprocessor.client (Limits.unhurried 16) 8
      (c.survey IdentityField.schema.blank) Meter.zero).1.fatal?.isNone = true ∧
      ((runWithin uniprocessor.client (Limits.unhurried 16) 8
        (c.survey IdentityField.schema.blank) Meter.zero).1.components.any fun e =>
          e.1 = .cpu ∧ e.2.any fun r => r.value?.isSome) = true := by decide +kernel
  obtain ⟨hfatal, hload⟩ := hreports
  rw [Option.isNone_iff_eq_none.1 hfatal] at hkind
  refine ⟨hregistry, hclient, ?_⟩
  cases hpoll : (runWithin uniprocessor.client (Limits.unhurried 16) 8
      (c.poll IdentityField.schema.blank).run Meter.zero).1 with
  | error failure =>
    rw [hpoll] at hkind
    cases hkind
  | ok snapshot =>
    obtain ⟨e, he, hvalue⟩ := List.any_eq_true.1 hload
    obtain ⟨hcpu, hvalue⟩ := of_decide_eq_true hvalue
    exact ⟨snapshot, rfl, ((hshows snapshot hpoll).components .cpu).2
      ⟨by decide, by decide, e, he, hcpu, List.any_eq_true.1 hvalue⟩⟩

end Communicator
end DevicePoll
