import DevicePoll.Proofs.Poll.Survey
import DevicePoll.Proofs.Reading.Stopped
import DevicePoll.Proofs.Source.Standard

/-! Surveys and standards. In every run each property that was reached is reported once, in its
place, and its outcome meets every standard that the replies of the device and the registered
overrides meet. -/
namespace DevicePoll

theorem Component.component?_of_mem_fields {component : Component} {p : Property}
    (h : p ∈ component.fields) : p.component? = some component := by
  unfold fields at h
  split at h
  · cases h
  · exact of_decide_eq_true (List.mem_filter.1 h).2

namespace Communicator
variable (c : Communicator) (S : Standard)

/-- The account of a property whose sources were asked, or whose component is not advertised. -/
inductive Accounted (p : Property) : Account p.Value → Bool → Prop
  | asked {account : Account p.Value} {cut : Bool} : c.answersFor p → S.met account.outcome cut →
      Accounted p account cut
  | absent {component : Component} : p.component? = some component →
      ¬c.advertises component = true → Accounted p (.absent component) false

variable {c S} in
theorem Accounted.met {p : Property} {account : Account p.Value} {cut : Bool}
    (h : c.Accounted S p account cut) (hp : c.answersFor p) : S.met account.outcome cut := by
  cases h with
  | asked _ hmet => exact hmet
  | absent hcomponent hmissing => exact absurd (hp _ hcomponent) hmissing

variable {c S} in
/-- A property has a value only if its sources were asked. -/
theorem Accounted.answersFor {p : Property} {account : Account p.Value} {cut : Bool}
    {value : p.Value} (h : c.Accounted S p account cut) (hvalue : account.outcome = .ok value) :
    c.answersFor p := by
  cases h with
  | asked hasked _ => exact hasked
  | absent _ _ => cases hvalue

/-- The report of this property. -/
def Reported (p : Property) (r : Report) (cut : Bool) : Prop :=
  r.1 = p ∧ c.Accounted S r.1 r.2 cut

variable {c S} in
/-- The fields of an advertised component are asked for. -/
theorem Reported.met {component : Component} {p : Property} {r : Report} {cut : Bool}
    (h : c.Reported S p r cut) (hadvertised : c.advertises component = true)
    (hp : p ∈ component.fields) : S.met r.2.outcome cut := by
  obtain ⟨rfl, haccounted⟩ := h
  refine haccounted.met fun other hother => ?_
  rw [Component.component?_of_mem_fields hp] at hother
  exact Option.some.inj hother ▸ hadvertised

/-- The component with a report of each of its fields. -/
def ComponentReported (component : Component) (e : Component × List Report) (cut : Bool) : Prop :=
  e.1 = component ∧ Reading.Each (c.Reported S) component.fields e.2 cut

/-- What every run of a survey comes to. -/
inductive Surveyed : Survey → Bool → Prop
  | unknown {reached : List Report} {failure : Failure} {cut : Bool}
      (judged : Reports.identity reached = .error failure) :
      S.met (Reports.identity reached) cut → Surveyed (.unknown reached failure judged) cut
  | known {reached : List Report} {identity : Identity} {listing : Account (List Interface)}
      {components : List (Component × List Report)} {first second third : Bool}
      (judged : Reports.identity reached = .ok identity) :
      S.met (Reports.identity reached) first → c.Accounted S .interfaces listing second →
      Reading.Each (c.ComponentReported S) c.polled components third →
      Surveyed (.known reached identity judged listing components) (first || (second || third))

section Ensures
variable {S} {replies : Replies} (hreplies : replies.Meet S) {c}
  (hregistry : c.registry.Meets replies S)
include hreplies hregistry

theorem account_ensures (p : Property) (identity : Identity) :
    (c.account p identity).Ensures replies (c.Accounted S p) := by
  by_cases h : c.answersFor p
  · rw [account_of_answersFor identity h]
    exact (heard_ensures hreplies hregistry p identity).mono fun _ _ hmet => .asked h hmet
  · unfold account
    cases hcomponent : p.component? with
    | none =>
      have hfree : c.answersFor p := fun component hsome => by rw [hcomponent] at hsome; cases hsome
      exact absurd hfree h
    | some component =>
      dsimp only
      split
      · rename_i hadvertised
        refine absurd (fun other hother => ?_) h
        rw [hcomponent] at hother
        cases hother
        exact hadvertised
      · rename_i hmissing
        exact .done (.absent hcomponent hmissing)

theorem reports_ensures (identity : Identity) (properties : List Property) :
    (c.reports identity properties).Ensures replies (Reading.Each (c.Reported S) properties) := by
  refine Reading.Ensures.inTurns properties fun p _ => ?_
  refine (account_ensures hreplies hregistry p identity).bind fun account cut h => .done ?_
  rw [Reading.after, Bool.or_false]
  exact ⟨rfl, h⟩

theorem componentReports_ensures (identity : Identity) :
    (c.componentReports identity).Ensures replies
      (Reading.Each (c.ComponentReported S) c.polled) := by
  refine Reading.Ensures.all c.polled fun component _ => ?_
  refine (reports_ensures hreplies hregistry identity component.fields).bind
    fun reports cut h => .done ?_
  rw [Reading.after, Bool.or_false]
  exact ⟨rfl, h⟩

/-- Identity fields are never refused, so what is known of the identity meets the standard. -/
theorem identityReports_ensures (initial : Identity) (fields : List IdentityField)
    (known : Identity) :
    (c.identityReports initial fields known).Ensures replies
      fun reports cut => S.met (Reports.identityFrom known reports) cut := by
  induction fields generalizing known with
  | nil => exact .done (S.plain _ nofun)
  | cons field rest ih =>
    rw [identityReports]
    refine (account_ensures hreplies hregistry _ _).bind fun account cut haccount => ?_
    -- no component stands behind an identity field, so its sources were asked
    cases haccount with
    | absent hcomponent _ => cases hcomponent
    | asked _ hmet =>
      have hoptional := Standard.met_optional (Property.identity field).wording hmet
      cases hfound : optional (Property.identity field).wording account.outcome with
      | error failure =>
        refine .done ?_
        rw [hfound] at hoptional
        rw [Reading.after, Bool.or_false, Reports.identityFrom_of_error hfound]
        exact hoptional
      | ok found =>
        have hnone : S.holds none cut := by
          rw [hfound] at hoptional
          exact hoptional
        cases found with
        | none =>
          refine (ih known).bind fun reports later hrest => .done ?_
          rw [Reading.after, Reading.after, Bool.or_false, Reports.identityFrom_of_none hfound]
          exact S.join _ _ _ hnone hrest
        | some value =>
          refine (ih _).bind fun reports later hrest => .done ?_
          rw [Reading.after, Reading.after, Bool.or_false, Reports.identityFrom_of_some hfound]
          exact S.join _ _ _ hnone hrest

theorem survey_ensures (initial : Identity) :
    (c.survey initial).Ensures replies (c.Surveyed S) := by
  refine (identityReports_ensures hreplies hregistry initial _ _).bind fun reached cut hmet => ?_
  have hrest : ∀ outcome (judged : Reports.identity reached = outcome),
      (c.surveyFrom reached outcome judged).Ensures replies (Reading.after cut (c.Surveyed S))
    | .error failure, judged => by
      refine .done ?_
      rw [Reading.after, Bool.or_false]
      exact .unknown judged hmet
    | .ok identity, judged => by
      refine ((account_ensures hreplies hregistry .interfaces identity).alternate
        (componentReports_ensures hreplies hregistry identity)).bind fun pair later hpair => .done ?_
      cases hpair with
      | mk hlisting hcomponents =>
        simp only [Reading.after, Bool.or_false]
        exact .known judged hmet hlisting hcomponents
  exact hrest _ rfl

end Ensures
end Communicator

namespace Survey

/-- The components that are polled are reported on in order, and the fields of each in the order of
its record. -/
def Complete (c : Communicator) (s : Survey) : Prop :=
  s.components.map Prod.fst = c.polled ∧ ∀ e ∈ s.components, e.2.map Sigma.fst = e.1.fields

end Survey

namespace Communicator
variable {c : Communicator} {S : Standard}

theorem Surveyed.complete {s : Survey} {cut : Bool} (h : c.Surveyed S s cut)
    {identity : Identity} (hknown : Reports.identity s.reached = .ok identity) : s.Complete c := by
  cases h with
  | unknown judged _ =>
    rw [Survey.reached, judged] at hknown
    cases hknown
  | known judged _ _ hcomponents =>
    refine ⟨hcomponents.map_eq fun component e cut he => he.1, fun e he => ?_⟩
    obtain ⟨component, -, own, rfl, hfields⟩ := hcomponents.of_mem he
    exact hfields.map_eq fun p r cut hr => hr.1

/-- In every run a poll comes to the judgement on its survey, which meets the standards that its
sources meet, and the client sees the same of both. -/
theorem poll_run {client : Client} {limits : Limits}
    (hreplies : (Reading.repliesOf client limits).Meet S)
    (hregistry : c.registry.Meets (Reading.repliesOf client limits) S) (initial : Identity)
    (rounds : Nat) (meter : Meter) :
    ∃ s cut, (Reading.runWithin client limits rounds (c.survey initial) meter).1 = s ∧
      (Reading.runWithin client limits rounds (c.poll initial).run meter).1 = c.judge s ∧
      c.Surveyed S s cut ∧
      meter.Grows limits cut
        (Reading.runWithin client limits rounds (c.poll initial).run meter).2 := by
  obtain ⟨hvalue, hmeter⟩ := (c.poll_similar initial).runWithin (.exact client) limits rounds meter
  obtain ⟨cut, hsurveyed, hgrows⟩ :=
    (survey_ensures hreplies hregistry initial).runWithin rounds meter
  refine ⟨_, cut, rfl, hvalue, hsurveyed, ?_⟩
  rw [hmeter]
  exact hgrows

end Communicator
end DevicePoll
