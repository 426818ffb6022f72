import DevicePoll.Proofs.Reading.Similar
import DevicePoll.Proofs.Source.Account
import DevicePoll.Snapshot

/-! Surveys of a poll: an account of every property that the poll reaches. A poll is similar to its
survey, so that in every run the two ask the same at the same instants, and the poll ends in the
judgement on the survey. Which read completed first plays no part in that judgement. -/
namespace DevicePoll

/-- A property with an account of it. -/
abbrev Report : Type := (p : Property) × Account p.Value

namespace Report

def answer (r : Report) : (p : Property) × Outcome p.Value := ⟨r.1, r.2.outcome⟩

end Report

/-- The identity with one more value, if it belongs to the identity. -/
def Identity.learn (known : Identity) : (p : Property) × p.Value → Identity
  | ⟨.identity field, value⟩ => Schema.set known field (some value)
  | _ => known

namespace Reports

def answers (reports : List Report) : Answers := reports.map Report.answer

/-- What is known of the identity after some reports, beside what was known before. -/
def identityFrom (known : Identity) (reports : List Report) : Outcome Identity :=
  (answers reports).values.map fun values => values.foldl Identity.learn known

/-- What is known of the identity after the reports of its fields. -/
def identity (reports : List Report) : Outcome Identity :=
  identityFrom IdentityField.schema.blank reports

section Cons
variable {known : Identity} {p : Property} {account : Account p.Value} {rest : List Report}

theorem identityFrom_of_error {failure : Failure}
    (h : optional p.wording account.outcome = .error failure) :
    identityFrom known (⟨p, account⟩ :: rest) = .error failure := by
  simp only [identityFrom, answers, List.map_cons, Report.answer, Answers.values, h]
  rfl

theorem identityFrom_of_none (h : optional p.wording account.outcome = .ok none) :
    identityFrom known (⟨p, account⟩ :: rest) = identityFrom known rest := by
  simp only [identityFrom, answers, List.map_cons, Report.answer, Answers.values, h]

theorem identityFrom_of_some {value : p.Value}
    (h : optional p.wording account.outcome = .ok (some value)) :
    identityFrom known (⟨p, account⟩ :: rest) = identityFrom (known.learn ⟨p, value⟩) rest := by
  simp only [identityFrom, answers, List.map_cons, Report.answer, Answers.values, h]
  cases Answers.values (rest.map Report.answer) <;> rfl

end Cons
end Reports

/-- The reports of a poll. If the identity is not known, nothing else was reached. -/
inductive Survey where
  | unknown (reached : List Report) (failure : Failure)
      (judged : Reports.identity reached = .error failure)
  | known (reached : List Report) (identity : Identity)
      (judged : Reports.identity reached = .ok identity) (listing : Account (List Interface))
      (components : List (Component × List Report))

namespace Survey

def reached : Survey → List Report
  | unknown reached _ _ => reached
  | known reached _ _ _ _ => reached

def listing? : Survey → Option (Account (List Interface))
  | unknown _ _ _ => none
  | known _ _ _ listing _ => some listing

def components : Survey → List (Component × List Report)
  | unknown _ _ _ => []
  | known _ _ _ _ components => components

end Survey

namespace Communicator
variable (c : Communicator)

/-- The reports of identity fields, as far as they are reached. -/
def identityReports (initial : Identity) : List IdentityField → Identity → Reading (List Report)
  | [], _ => .done []
  | field :: rest, known => do
    let light := if known.isEmpty then initial else known
    let account ← c.account (.identity field) light
    match optional (Property.identity field).wording account.outcome with
    | .error _ => .done [⟨.identity field, account⟩]
    | .ok none =>
      identityReports initial rest known >>= fun reports => .done (⟨.identity field, account⟩ :: reports)
    | .ok (some value) =>
      identityReports initial rest (Schema.set known field (some value)) >>= fun reports =>
        .done (⟨.identity field, account⟩ :: reports)

/-- The reports of some properties, read side by side. -/
def reports (identity : Identity) (properties : List Property) : Reading (List Report) :=
  Reading.inTurns (properties.map fun p =>
    c.account p identity >>= fun account => .done ⟨p, account⟩)

/-- The reports of the components that are polled. -/
def componentReports (identity : Identity) : Reading (List (Component × List Report)) :=
  Reading.all (c.polled.map fun component =>
    c.reports identity component.fields >>= fun reports => .done (component, reports))

/-- The survey that goes on once the identity was judged by some reports. -/
def surveyFrom (reached : List Report) :
    (outcome : Outcome Identity) → Reports.identity reached = outcome → Reading Survey
  | .error failure, judged => .done (.unknown reached failure judged)
  | .ok identity, judged =>
    Reading.alternate (c.account .interfaces identity) (c.componentReports identity) >>=
      fun pair => .done (.known reached identity judged pair.1 pair.2)

/-- A poll that reports instead of making a snapshot. -/
def survey (initial : Identity) : Reading Survey :=
  c.identityReports initial IdentityField.all IdentityField.schema.blank >>= fun reached =>
    c.surveyFrom reached (Reports.identity reached) rfl

/-- The outcomes of components by their reports. -/
def componentOutcomes (components : List (Component × List Report)) : ComponentOutcomes :=
  components.map fun e => ⟨e.1, assemble e.1 (Reports.answers e.2)⟩

/-- What a poll comes to by its survey. -/
def judge : Survey → Outcome Snapshot
  | .unknown _ failure _ => .error failure
  | .known _ identity _ listing components =>
    c.snapshot identity listing.outcome (componentOutcomes components)

/-- Resolving the identity is reporting on its fields and putting the values together. -/
theorem identifyFrom_run (initial : Identity) (fields : List IdentityField) (known : Identity) :
    (c.identifyFrom initial fields known).run =
      c.identityReports initial fields known >>= fun reports =>
        .done (Reports.identityFrom known reports) := by
  induction fields generalizing known with
  | nil => rfl
  | cons field rest ih =>
    have hhead : ∀ light, ((c.head (.identity field) light).mapOutcome
        (optional (Property.identity field).wording)).run =
          c.account (.identity field) light >>= fun a =>
            .done (optional (Property.identity field).wording a.outcome) := by
      intro light
      rw [Poll.mapOutcome, ExceptT.run_mk, head_run, bind_assoc]
      rfl
    simp only [identifyFrom, identityReports, ExceptT.run_bind, hhead, bind_assoc]
    congr 1
    funext account
    simp only [Reading.done_bind]
    cases hfound : optional (Property.identity field).wording account.outcome with
    | error failure =>
      simp only [Reading.done_bind, Reports.identityFrom_of_error hfound]
      rfl
    | ok found =>
      cases found with
      | none =>
        simp only [bind_assoc, Reading.done_bind, Reports.identityFrom_of_none hfound]
        exact ih known
      | some value =>
        simp only [bind_assoc, Reading.done_bind, Reports.identityFrom_of_some hfound]
        exact ih _

theorem identify_run (initial : Identity) :
    (c.identify initial).run =
      c.identityReports initial IdentityField.all IdentityField.schema.blank >>= fun reports =>
        .done (Reports.identity reports) :=
  c.identifyFrom_run initial IdentityField.all IdentityField.schema.blank

/-- Properties that are read side by side come to what is reported on them. -/
theorem answers_similar (identity : Identity) (properties : List Property) :
    (c.answers identity properties).Similar .exact
      (fun answers reports => answers = Reports.answers reports)
      (c.reports identity properties) := by
  have hmember : ∀ p, ((c.head p identity).run >>= fun outcome =>
      Reading.done (⟨p, outcome⟩ : (p : Property) × Outcome p.Value)).Similar .exact
        (fun answer report => answer = Report.answer report)
        (c.account p identity >>= fun account => .done (⟨p, account⟩ : Report)) := by
    intro p
    rw [head_run, bind_assoc]
    refine (Reading.Similar.refl _).bind fun account account' h => ?_
    rw [h]
    exact .done rfl
  refine (Reading.Similar.inTurns (S := fun answer report => answer = Report.answer report) ?_).mono
    fun answers reports h => ?_
  · rw [List.forall₂_map_left_iff, List.forall₂_map_right_iff]
    exact List.forall₂_same.2 fun p _ => hmember p
  · rw [Reports.answers, ← List.forall₂_eq_eq_eq, List.forall₂_map_right_iff]
    exact h

variable {c} in
theorem mem_polled {component : Component} :
    component ∈ c.polled ↔ c.advertises component = true ∧ component ≠ .interfaces := by
  simp [polled, DeviceClass.components, advertises, Component.mem_all, and_comm]

/-- An advertised component comes to what its reports are assembled to. -/
theorem fields_similar (identity : Identity) {component : Component}
    (h : c.advertises component = true) :
    (c.fields identity component).run.Similar .exact
      (fun outcome reports => outcome = assemble component (Reports.answers reports))
      (c.reports identity component.fields) := by
  rw [fields, if_pos h, ExceptT.run_mk]
  exact (c.answers_similar identity component.fields).map fun answers reports h => by rw [h]

/-- The components of a poll come to what is reported on them. -/
theorem components_similar (identity : Identity) :
    (Reading.all (c.polled.map fun component =>
      (c.fields identity component).run >>= fun outcome =>
        .done (⟨component, outcome⟩ : (component : Component) × Outcome component.schema.Record))
      ).Similar .exact (fun outcomes components => outcomes = componentOutcomes components)
      (c.componentReports identity) := by
  refine (Reading.Similar.all (S := fun outcome e =>
    outcome = ⟨e.1, assemble e.1 (Reports.answers e.2)⟩) ?_).mono fun outcomes components h => ?_
  · rw [List.forall₂_map_left_iff, List.forall₂_map_right_iff]
    refine List.forall₂_same.2 fun component hpolled => ?_
    refine (c.fields_similar identity (mem_polled.1 hpolled).1).bind fun outcome reports h => ?_
    exact .done (by rw [h])
  · rw [componentOutcomes, ← List.forall₂_eq_eq_eq, List.forall₂_map_right_iff]
    exact h

/-- A property comes to what the account of it says. -/
theorem head_similar (p : Property) (identity : Identity) :
    (c.head p identity).run.Similar .exact (fun outcome account => outcome = account.outcome)
      (c.account p identity) := by
  rw [head_run]
  exact (Reading.Similar.refl _).map fun a b h => by rw [h]

/-- A poll asks what its survey asks, and ends in the judgement on it. -/
theorem poll_similar (initial : Identity) :
    (c.poll initial).run.Similar .exact (fun outcome s => outcome = c.judge s) (c.survey initial) := by
  let rest : Identity → Poll Snapshot := fun identity =>
    ExceptT.mk (Reading.alternate (c.interfaces identity).run
      (Reading.all (c.polled.map fun component =>
        (c.fields identity component).run >>= fun outcome => .done ⟨component, outcome⟩)) >>=
      fun pair => .done (c.snapshot identity pair.1 pair.2))
  have hrest : ∀ reached outcome (judged : Reports.identity reached = outcome), Reading.Similar .exact
      (fun outcome s => outcome = c.judge s) (ExceptT.bindCont rest outcome)
      (c.surveyFrom reached outcome judged)
    | _, .error failure, judged => .done rfl
    | _, .ok identity, judged => by
      refine ((c.head_similar .interfaces identity).alternate
        (c.components_similar identity)).bind fun pair pair' h => .done ?_
      rw [h.1, h.2]
      rfl
  have hpoll : (c.poll initial).run = (c.identify initial).run >>= ExceptT.bindCont rest := rfl
  rw [hpoll, identify_run, bind_assoc, survey]
  refine (Reading.Similar.refl _).bind fun reached _ heq => ?_
  subst heq
  exact hrest reached _ rfl

end Communicator
end DevicePoll
