import DevicePoll.Proofs.Poll.Standard

/-! The judgement on a survey. Values are gathered up to the first failure that does not yield. A
component whose gathering ends in a failure, or in no value at all, is left out if that outcome is
unavailable, and fails the poll if it is hard. -/
namespace DevicePoll

namespace Outcome
variable {α : Type}

/-- The failure that ends a gathering of values: one that does not yield. -/
def final? : Outcome α → Option Failure
  | .ok _ => none
  | .error failure => if failure.yields then none else some failure

/-- The failure, if it is hard. -/
def hard? : Outcome α → Option Failure
  | .ok _ => none
  | .error failure => if failure.kind.isHard then some failure else none

/-- A hard failure does not yield, and one that does not yield is hard unless it tells of a component
that is missing. -/
theorem hard?_eq_final? {outcome : Outcome α} (h : outcome.kind? ≠ some .componentNotFound) :
    outcome.hard? = outcome.final? := by
  cases outcome with
  | ok value => rfl
  | error failure =>
    have hkind : failure.kind ≠ .componentNotFound := fun heq => h (congrArg some heq)
    rw [hard?, final?, Failure.yields]
    cases hcase : failure.kind <;> first | rfl | exact absurd hcase hkind

theorem hard?_eq_some {outcome : Outcome α} {failure : Failure} :
    outcome.hard? = some failure ↔ outcome = .error failure ∧ failure.kind.isHard = true := by
  cases outcome with
  | ok value => simp [hard?]
  | error other =>
    rw [hard?]
    split
    · rename_i hhard
      simp only [Option.some.injEq, Except.error.injEq]
      exact ⟨fun heq => ⟨heq, heq ▸ hhard⟩, fun h => h.1⟩
    · rename_i hsoft
      simp only [reduceCtorEq, Except.error.injEq, false_iff]
      rintro ⟨rfl, hhard⟩
      exact hsoft hhard

theorem eq_error_of_final {outcome : Outcome α} {failure : Failure}
    (h : outcome.final? = some failure) : outcome = .error failure := by
  cases outcome with
  | ok value => cases h
  | error other =>
    rw [final?] at h
    split at h
    · cases h
    · exact congrArg _ (Option.some.inj h)

/-- A hard failure is final. -/
theorem final?_of_hard {outcome : Outcome α} {failure : Failure}
    (h : outcome.hard? = some failure) : outcome.final? = some failure := by
  rwa [← hard?_eq_final?]
  obtain ⟨rfl, hhard⟩ := hard?_eq_some.1 h
  intro habsent
  rw [Option.some.inj habsent] at hhard
  cases hhard

theorem isHard_of_final {outcome : Outcome α} {failure : Failure}
    (h : outcome.final? = some failure) (hpresent : outcome.kind? ≠ some .componentNotFound) :
    failure.kind.isHard = true := by
  rw [← hard?_eq_final? hpresent] at h
  exact (hard?_eq_some.1 h).2

theorem available_of_hard {outcome : Outcome α} {failure : Failure}
    (h : outcome.hard? = some failure) : available outcome = .error failure := by
  obtain ⟨rfl, hhard⟩ := hard?_eq_some.1 h
  have hsoft : failure.kind.isUnavailable = false := by simpa [Failure.Kind.isHard] using hhard
  simp [available, hsoft]

theorem available_of_not_hard {outcome : Outcome α} (h : outcome.hard? = none) :
    available outcome = .ok outcome.toOption := by
  cases outcome with
  | ok value => rfl
  | error failure =>
    rw [hard?] at h
    split at h
    · cases h
    · rename_i hsoft
      have hsoft : failure.kind.isUnavailable = true := by simpa [Failure.Kind.isHard] using hsoft
      simp [available, hsoft, Except.toOption]

end Outcome

namespace Report

def final? (r : Report) : Option Failure := r.2.outcome.final?

def hard? (r : Report) : Option Failure := r.2.outcome.hard?

/-- The value that was resolved, with its property. -/
def value? (r : Report) : Option ((p : Property) × p.Value) :=
  r.2.outcome.toOption.map fun value => ⟨r.1, value⟩

end Report

namespace Answers

/-- The first failure among some outcomes that does not yield. -/
def final? (answers : Answers) : Option Failure := answers.findSome? fun answer => answer.2.final?

/-- The values among some outcomes. -/
def found (answers : Answers) : Values :=
  answers.filterMap fun answer => answer.2.toOption.map fun value => ⟨answer.1, value⟩

/-- Values are gathered if no outcome is final, and otherwise the first final one decides the kind. -/
theorem values_eq (answers : Answers) :
    answers.values.kind? = answers.final?.map Failure.kind ∧
      ∀ values, answers.values = .ok values → values = answers.found := by
  induction answers with
  | nil => exact ⟨rfl, fun values h => by cases h; rfl⟩
  | cons answer rest ih =>
    obtain ⟨p, outcome⟩ := answer
    obtain ⟨hkind, hvalues⟩ := ih
    rw [final?, found, List.findSome?_cons, List.filterMap_cons, values]
    cases outcome with
    | ok value =>
      simp only [Outcome.final?, optional, Except.toOption, Option.map_some]
      cases hrest : Answers.values rest with
      | ok gathered =>
        rw [hrest] at hkind
        refine ⟨hkind, fun values h => ?_⟩
        cases h
        rw [hvalues gathered hrest]
        rfl
      | error failure =>
        rw [hrest] at hkind
        exact ⟨hkind, fun values h => by cases h⟩
    | error failure =>
      by_cases hyields : failure.yields = true
      · simp only [Outcome.final?, optional, Except.toOption, Option.map_none, hyields, ↓reduceIte]
        exact ⟨hkind, hvalues⟩
      · simp only [Outcome.final?, optional, hyields]
        exact ⟨rfl, fun values h => by cases h⟩

/-- The values stand in the order of the outcomes. -/
theorem keys_found_sublist (answers : Answers) :
    (answers.found.map Sigma.fst).Sublist (answers.map Sigma.fst) := by
  induction answers with
  | nil => exact .slnil
  | cons answer rest ih =>
    obtain ⟨p, outcome⟩ := answer
    rw [found, List.filterMap_cons, List.map_cons]
    cases outcome with
    | ok value => exact .cons_cons _ ih
    | error failure => exact .cons _ ih

theorem mem_found_iff {answers : Answers} {p : Property} {value : p.Value} :
    ⟨p, value⟩ ∈ answers.found ↔ ⟨p, .ok value⟩ ∈ answers := by
  rw [found, List.mem_filterMap]
  constructor
  · rintro ⟨⟨q, outcome⟩, hmem, hvalue⟩
    cases outcome with
    | error failure => cases hvalue
    | ok found =>
      cases hvalue
      exact hmem
  · exact fun hmem => ⟨_, hmem, rfl⟩

end Answers

namespace Reports

theorem final?_answers (reports : List Report) :
    (answers reports).final? = reports.findSome? Report.final? := by
  rw [Answers.final?, answers, List.findSome?_map]
  rfl

theorem found_answers (reports : List Report) :
    (answers reports).found = reports.filterMap Report.value? := by
  rw [Answers.found, answers, List.filterMap_map]
  rfl

/-- Values are gathered if no report is final, and otherwise the first one decides the kind. -/
theorem values_eq (reports : List Report) :
    (answers reports).values.kind? = (reports.findSome? Report.final?).map Failure.kind ∧
      ∀ values, (answers reports).values = .ok values → values = reports.filterMap Report.value? := by
  rw [← final?_answers, ← found_answers]
  exact (answers reports).values_eq

theorem kind?_identity (reports : List Report) :
    (identity reports).kind? = (reports.findSome? Report.final?).map Failure.kind := by
  rw [← (values_eq reports).1, identity, identityFrom]
  cases (answers reports).values <;> rfl

/-- If no report before a hard one tells of a missing component, the first final one is hard. -/
theorem first_final_isHard {before after : List Report} {r : Report} {failure : Failure}
    (hr : r.2.outcome = .error failure) (hhard : failure.kind.isHard = true)
    (hbefore : ∀ b ∈ before, b.2.outcome.kind? ≠ some .componentNotFound) :
    ∃ first, (before ++ r :: after).findSome? Report.final? = some first ∧
      first.kind.isHard = true := by
  rw [List.findSome?_append]
  cases hfirst : before.findSome? Report.final? with
  | some first =>
    obtain ⟨b, hb, hfinal⟩ := List.exists_of_findSome?_eq_some hfirst
    exact ⟨first, rfl, Outcome.isHard_of_final hfinal (hbefore b hb)⟩
  | none =>
    have hfinal : r.final? = some failure :=
      Outcome.final?_of_hard (Outcome.hard?_eq_some.2 ⟨hr, hhard⟩)
    rw [Option.none_or, List.findSome?_cons, hfinal]
    exact ⟨failure, rfl, hhard⟩

end Reports

namespace Outcome
variable {α : Type}

/-- Whether an outcome is hard depends on its kind alone. -/
theorem map_kind_hard? (outcome : Outcome α) :
    outcome.hard?.map Failure.kind = outcome.kind?.filter Failure.Kind.isHard := by
  cases outcome with
  | ok value => rfl
  | error failure => by_cases h : failure.kind.isHard = true <;> simp [hard?, h, Option.filter]

end Outcome

namespace Communicator

/-- The first final report of a component decides it; without one, its values are put together. -/
theorem assemble_eq (component : Component) (reports : List Report) :
    (assemble component (Reports.answers reports)).hard?.map Failure.kind =
        ((reports.findSome? Report.final?).map Failure.kind).filter Failure.Kind.isHard ∧
      ∀ record, assemble component (Reports.answers reports) = .ok record ↔
        reports.findSome? Report.final? = none ∧ reports.filterMap Report.value? ≠ [] ∧
          record = fun field : component.schema.Field =>
            Values.get? (reports.filterMap Report.value?) field.1 := by
  obtain ⟨hkind, hvalues⟩ := Reports.values_eq reports
  rw [← hkind]
  unfold assemble
  cases hgathered : (Reports.answers reports).values with
  | error failure =>
    rw [hgathered] at hkind
    refine ⟨Outcome.map_kind_hard? _, fun record => ?_⟩
    have hsome : reports.findSome? Report.final? ≠ none := by
      intro hnone
      rw [hnone] at hkind
      cases hkind
    simp [hsome]
  | ok values =>
    rw [hgathered] at hkind
    have hnone : reports.findSome? Report.final? = none := by
      simpa using hkind.symm
    rw [← hvalues values hgathered]
    cases values with
    | nil => exact ⟨rfl, fun record => by simp [Outcome.fails]⟩
    | cons value rest =>
      refine ⟨rfl, fun record => ?_⟩
      simp only [Except.ok.injEq, hnone, true_and]
      exact ⟨fun h => ⟨nofun, h.symm⟩, fun h => h.2.symm⟩

end Communicator

namespace ComponentOutcomes

/-- The records are those of the outcomes that are values, unless one of the outcomes is hard. -/
theorem records_eq (outcomes : ComponentOutcomes) :
    (records outcomes).kind? = (outcomes.findSome? fun e => e.2.hard?).map Failure.kind ∧
      ∀ shown, records outcomes = .ok shown →
        (∀ component, component ∉ outcomes.map Sigma.fst → shown component = none) ∧
        ((outcomes.map Sigma.fst).Nodup → ∀ e ∈ outcomes, shown e.1 = e.2.toOption) := by
  induction outcomes with
  | nil => exact ⟨rfl, fun shown h => by cases h; exact ⟨fun _ _ => rfl, nofun⟩⟩
  | cons e rest ih =>
    obtain ⟨component, outcome⟩ := e
    obtain ⟨hkind, hshown⟩ := ih
    rw [records, List.findSome?_cons]
    cases hhard : outcome.hard? with
    | some failure =>
      rw [Outcome.available_of_hard hhard]
      exact ⟨rfl, nofun⟩
    | none =>
      rw [Outcome.available_of_not_hard hhard]
      cases hrest : records rest with
      | error failure =>
        rw [hrest] at hkind
        exact ⟨hkind, nofun⟩
      | ok others =>
        rw [hrest] at hkind
        refine ⟨hkind, fun shown h => ?_⟩
        cases h
        obtain ⟨habsent, hpresent⟩ := hshown others hrest
        constructor
        · intro other hother
          rw [List.map_cons, List.mem_cons, not_or] at hother
          exact (dif_neg fun h : component = other => hother.1 h.symm).trans
            (habsent other hother.2)
        · intro hnodup e he
          rw [List.map_cons, List.nodup_cons] at hnodup
          obtain rfl | he := List.mem_cons.1 he
          · exact dif_pos rfl
          · have hother : component ≠ e.1 := fun h =>
              hnodup.1 (List.mem_map.2 ⟨e, he, h.symm⟩)
            exact (dif_neg hother).trans (hpresent hnodup.2 e he)

end ComponentOutcomes

namespace Survey

/-- The kind that decides what a poll comes to: that of the first final report of the identity, or of
a hard listing, or of the first component whose first final report is hard. -/
def decisive? (s : Survey) : Option Failure.Kind :=
  ((s.reached.findSome? Report.final?).map Failure.kind).or
    (((s.listing?.bind fun account => account.outcome.hard?).map Failure.kind).or
      (s.components.findSome? fun e =>
        ((e.2.findSome? Report.final?).map Failure.kind).filter Failure.Kind.isHard))

variable {s : Survey}

/-- A component whose first final report is hard decides a poll, unless something before it does. -/
theorem decisive?_ne_none {e : Component × List Report} (he : e ∈ s.components) {first : Failure}
    (hfirst : e.2.findSome? Report.final? = some first) (hhard : first.kind.isHard = true) :
    s.decisive? ≠ none := by
  intro hnone
  rw [decisive?, Option.or_eq_none_iff, Option.or_eq_none_iff, List.findSome?_eq_none_iff] at hnone
  have hsoft := hnone.2.2 e he
  rw [hfirst] at hsoft
  simp [Option.filter, hhard] at hsoft

/-- The kind that decides is that of some report. -/
theorem decisive?_cases {kind : Failure.Kind} (h : s.decisive? = some kind) :
    (s.reached.findSome? Report.final?).map Failure.kind = some kind ∨
      (∃ account failure, s.listing? = some account ∧ account.outcome.hard? = some failure ∧
        failure.kind = kind) ∨
      ∃ e ∈ s.components, (e.2.findSome? Report.final?).map Failure.kind = some kind ∧
        kind.isHard = true := by
  rw [decisive?, Option.or_eq_some_iff, Option.or_eq_some_iff] at h
  obtain hreached | ⟨-, hlisting | ⟨-, hcomponents⟩⟩ := h
  · exact .inl hreached
  · obtain ⟨failure, hfailure, hkind⟩ := Option.map_eq_some_iff.1 hlisting
    obtain ⟨account, haccount, hhard⟩ := Option.bind_eq_some_iff.1 hfailure
    exact .inr (.inl ⟨account, failure, haccount, hhard, hkind⟩)
  · obtain ⟨e, he, hdecides⟩ := List.exists_of_findSome?_eq_some hcomponents
    exact .inr (.inr ⟨e, he, Option.filter_eq_some_iff.1 hdecides⟩)

end Survey

namespace Communicator
variable (c : Communicator)

/-- Whatever the overrides answer, a poll fails exactly if its survey has a decisive kind, and then
with that kind. -/
theorem kind?_judge (s : Survey) : (c.judge s).kind? = s.decisive? := by
  unfold Survey.decisive?
  rw [← Reports.kind?_identity]
  cases s with
  | unknown reached failure judged =>
    simp only [Survey.reached, judged]
    rfl
  | known reached identity judged listing components =>
    simp only [Survey.reached, Survey.listing?, Survey.components, judged, Outcome.kind?_ok,
      Option.none_or, Option.bind_some, judge, snapshot]
    cases hlisting : listing.outcome.hard? with
    | some failure =>
      rw [Outcome.available_of_hard hlisting]
      rfl
    | none =>
      rw [Outcome.available_of_not_hard hlisting]
      have hkind := (ComponentOutcomes.records_eq (componentOutcomes components)).1
      have hassembled : (components.findSome? fun e =>
          ((e.2.findSome? Report.final?).map Failure.kind).filter Failure.Kind.isHard) =
            ((componentOutcomes components).findSome? fun e => e.2.hard?).map Failure.kind := by
        rw [componentOutcomes, List.findSome?_map, List.map_findSome?]
        congr 1
        funext e
        exact (assemble_eq e.1 e.2).1.symm
      rw [hassembled, ← hkind]
      cases (componentOutcomes components).records <;> rfl

/-- A poll whose identity is known ends in a snapshot if neither the listing nor a component is
hard. -/
theorem judge_known_eq_ok {c : Communicator} {reached : List Report} {identity : Identity}
    {judged : Reports.identity reached = .ok identity} {listing : Account (List Interface)}
    {components : List (Component × List Report)} {snapshot : Snapshot}
    (h : c.judge (.known reached identity judged listing components) = .ok snapshot) :
    ∃ shown, (componentOutcomes components).records = .ok shown ∧
      snapshot = ⟨c.deviceClass.name, identity, listing.outcome.toOption, shown⟩ := by
  rw [judge, Communicator.snapshot] at h
  cases hlisting : listing.outcome.hard? with
  | some failure =>
    rw [Outcome.available_of_hard hlisting] at h
    cases h
  | none =>
    rw [Outcome.available_of_not_hard hlisting] at h
    cases hrecords : (componentOutcomes components).records with
    | error failure =>
      rw [hrecords] at h
      cases h
    | ok shown =>
      rw [hrecords] at h
      cases h
      exact ⟨shown, rfl, rfl⟩

end Communicator
end DevicePoll
