import DevicePoll.Proofs.Query.Rows
import DevicePoll.Proofs.Reading.Stopped

/-! Groups that are read in a hurry. Reads may be cut off, and what runs side by side may end in any
order, but rows that a group comes to in some run are those that it comes to unhurried: a read that is
cut off breaks every group around it, so that no group goes on as if nothing had been found. -/
namespace DevicePoll

open Reading

namespace Outcome
variable {α β : Type} {expected outcome : Outcome α}

/-- The outcome is the value that is expected, unless it breaks the group around it. -/
def Firm (expected outcome : Outcome α) : Prop :=
  outcome.breaking? = none → ∃ value, outcome = .ok value ∧ expected = .ok value

/-- The group around it makes the same of the outcome as of the one that is expected, unless the outcome
breaks it. -/
def Steady (expected outcome : Outcome α) : Prop :=
  outcome.breaking? = none → expected.breaking? = none ∧ expected.toOption = outcome.toOption

theorem Steady.refl (outcome : Outcome α) : outcome.Steady outcome := fun h => ⟨h, rfl⟩

theorem Firm.steady (h : expected.Firm outcome) : expected.Steady outcome := by
  intro hunbroken
  obtain ⟨value, rfl, rfl⟩ := h hunbroken
  exact ⟨rfl, rfl⟩

theorem Firm.map (h : expected.Firm outcome) (f : α → β) :
    Firm (expected.map f) (outcome.map f) := by
  intro hunbroken
  obtain ⟨value, rfl, rfl⟩ := h (breaking?_map outcome f ▸ hunbroken)
  exact ⟨f value, rfl, rfl⟩

theorem Steady.map (h : expected.Steady outcome) (f : α → β) :
    Steady (expected.map f) (outcome.map f) := by
  intro hunbroken
  obtain ⟨hexpected, hsame⟩ := h (breaking?_map outcome f ▸ hunbroken)
  have hoption : ∀ result : Outcome α, (result.map f).toOption = result.toOption.map f :=
    fun result => by cases result <;> rfl
  exact ⟨(breaking?_map expected f).trans hexpected, by rw [hoption, hoption, hsame]⟩

/-- A failure that is firm breaks the group, whatever was expected. -/
theorem Firm.of_error {failure : Failure} (h : expected.Firm (.error failure)) (other : Outcome β) :
    other.Firm (.error failure) := fun hunbroken => by
  obtain ⟨value, hvalue, -⟩ := h hunbroken
  cases hvalue

/-- A label comes to the column that is expected, or is left out as expected, or breaks its group. -/
theorem Steady.labelOutcome {expected outcome : Outcome Column} (h : expected.Steady outcome)
    (label : String) : Firm (labelOutcome label expected) (labelOutcome label outcome) := by
  intro hunbroken
  cases hbreaks : outcome.breaking? with
  | some kind =>
    have hkind : (DevicePoll.labelOutcome label outcome).kind? = some kind :=
      (kind?_labelOutcome label outcome).trans hbreaks
    obtain ⟨-, -, -, hother⟩ := breaking?_eq_some.mp hbreaks
    simp [breaking?, hkind, hother] at hunbroken
  | none =>
    obtain ⟨hexpected, hsame⟩ := h hbreaks
    exact ⟨_, labelOutcome_of_unbroken hbreaks, hsame ▸ labelOutcome_of_unbroken hexpected⟩

end Outcome

/-- In every run the outcome of the program is so related to the one that it comes to if its requests are
answered one after another. -/
def Poll.Keeps {α : Type} (client : Client) (stop : Failure.Stop)
    (related : Outcome α → Outcome α → Prop) (p : Poll α) : Prop :=
  p.run.Ensures (.during client stop) fun outcome _ => related (p.outcome client.answer) outcome

namespace Poll.Keeps
variable {client : Client} {stop : Failure.Stop} {α β : Type} {related : Outcome α → Outcome α → Prop}

theorem mapOutcome {p : Poll α} (h : p.Keeps client stop related) {f : Outcome α → Outcome β}
    {related' : Outcome β → Outcome β → Prop}
    (hf : ∀ expected outcome, related expected outcome → related' (f expected) (f outcome)) :
    (p.mapOutcome f).Keeps client stop related' := by
  refine h.bind fun outcome cut hrelated => .done ?_
  rw [outcome_mapOutcome]
  exact hf _ _ hrelated

/-- Side by side the values are those that are expected, and any failure breaks the group. -/
theorem all {ps : List (Poll α)} (h : ∀ p ∈ ps, p.Keeps client stop Outcome.Firm) :
    (Poll.all ps).Keeps client stop Outcome.Firm := by
  refine Poll.all_induction (fun _ => .pause) (.done fun _ => ⟨[], rfl, rfl⟩)
    (fun held p rest hp hrest => ?_) h
  refine .fork hp hrest fun result cut hsides => .done ?_
  cases hsides with
  | left hfirst => exact hfirst.of_error _
  | right hlater => exact hlater.of_error _
  | late _ hlater => exact hlater.of_error _
  | both hfirst hlater =>
    intro _
    obtain ⟨first, hfirst, hexpected⟩ := hfirst rfl
    obtain ⟨later, hlater, hothers⟩ := hlater rfl
    cases hfirst
    cases hlater
    refine ⟨_, rfl, ?_⟩
    rw [outcome] at hexpected hothers
    rw [outcome, ExceptT.run_mk, eval_fork, hexpected, hothers]
    rfl

end Poll.Keeps

section Query
variable {client : Client} {stop : Failure.Stop}

/-- A read that is cut off fails otherwise than by finding nothing. -/
theorem Leaf.keeps_read (leaf : Leaf) : leaf.read.Keeps client stop Outcome.Steady := by
  refine .read fun reply cut hreply => .done ?_
  cases hreply with
  | answered => exact .refl _
  | cutOff stage =>
    intro hunbroken
    cases stop <;> cases hunbroken

theorem keeps_readGroup {columns : List (String × Poll Column)}
    (h : ∀ e ∈ columns, e.2.Keeps client stop Outcome.Steady) :
    (readGroup columns).Keeps client stop Outcome.Firm := by
  refine Poll.Keeps.mapOutcome (Poll.Keeps.all fun p hp => ?_)
    fun expected outcome hfirm => hfirm.map _
  obtain ⟨e, he, rfl⟩ := List.mem_map.mp hp
  exact (h e he).mapOutcome fun expected outcome hsteady => hsteady.labelOutcome e.1

theorem QueryTree.keeps_readAll (tree : QueryTree) :
    tree.readAll.Keeps client stop Outcome.Firm := by
  refine readAll_induction (fun p => p.Keeps client stop Outcome.Steady)
    (fun path leaf _ => ?leaf) (fun columns => keeps_readGroup) (fun p hp => ?nested)
  case leaf => exact leaf.keeps_read.mapOutcome fun expected outcome hsteady => hsteady.map _
  case nested => exact hp.mapOutcome fun expected outcome hfirm => (hfirm.map _).steady

/-- Rows that were found in some run are those that are found unhurried. -/
theorem QueryTree.outcome_of_run {tree : QueryTree} {limits : Limits} {rounds : Nat} {meter : Meter}
    {rows : Rows} (h : (runWithin client limits rounds tree.readAll.run meter).1 = .ok rows) :
    tree.readAll.outcome client.answer = .ok rows := by
  have hkeeps : tree.readAll.Keeps client limits.stopper Outcome.Firm := tree.keeps_readAll
  obtain ⟨cut, hfirm, -⟩ := Reading.Ensures.runWithin hkeeps rounds meter
  rw [h] at hfirm
  obtain ⟨found, hfound, hexpected⟩ := hfirm rfl
  rw [hexpected, hfound]

end Query
end DevicePoll
