import DevicePoll.Proofs.Reading.Sequence
import DevicePoll.Proofs.Source.Orderly

/-! What programs come to when nothing hurries them. A program that is neither cancelled nor late always
ends. If it is orderly and its reads take the same time, it comes to what its reads give one after another,
and what is put together from programs comes to what is put together from their outcomes. -/
namespace DevicePoll

open Reading

namespace Poll
variable {α β : Type}

/-- The outcome that a program ends in, in a run of its own without a deadline and without a
cancellation. -/
noncomputable def unhurried (p : Poll α) (client : Client) (permits : Nat) (meter : Meter) : Outcome α :=
  (exists_ends client (.unhurried permits) p.run meter).choose

/-- The outcome of a program whose requests are answered one after another. -/
def outcome (p : Poll α) (answer : (request : Request) → Outcome request.Reply) : Outcome α :=
  p.run.eval answer

theorem ends_unhurried (p : Poll α) (client : Client) (permits : Nat) (meter : Meter) :
    ∃ last, Ends client (.unhurried permits) p.run (begin (.unhurried permits) meter)
      (p.unhurried client permits meter) last :=
  (exists_ends client (.unhurried permits) p.run meter).choose_spec

/-- A program has just one outcome to end in. -/
theorem unhurried_eq_iff {p : Poll α} {client : Client} {permits : Nat} {meter : Meter}
    {outcome : Outcome α} : p.unhurried client permits meter = outcome ↔
      ∃ last, Ends client (.unhurried permits) p.run (begin (.unhurried permits) meter) outcome last := by
  constructor
  · rintro rfl
    exact p.ends_unhurried client permits meter
  · rintro ⟨last, hends⟩
    obtain ⟨last', hends'⟩ := p.ends_unhurried client permits meter
    exact (hends'.unique hends).1

/-- A run of enough rounds has ended, and answers the outcome of the program. -/
theorem exists_run_eq_unhurried (p : Poll α) (client : Client) (permits : Nat) (meter : Meter) :
    ∃ enough, ∀ rounds, enough ≤ rounds → HasEnded client (.unhurried permits) p.run meter rounds ∧
      (runWithin client (.unhurried permits) rounds p.run meter).1 =
        p.unhurried client permits meter := by
  obtain ⟨enough, hended⟩ := exists_ended client (.unhurried permits) p.run meter
  refine ⟨enough, fun rounds hrounds => ⟨hended rounds hrounds, ?_⟩⟩
  obtain ⟨value, hdone⟩ := hended rounds hrounds
  rw [runWithin_eq, hdone]
  exact (unhurried_eq_iff.mpr (ends_of_stateAfter hdone)).symm

/-- What holds of the value that a run has come to holds of the outcome of the program. -/
theorem unhurried_of_stateAfter {p : Poll α} {client : Client} {permits : Nat} {meter : Meter}
    (rounds : Nat) {f : Outcome α → β} {b : β}
    (h : (stateAfter client (.unhurried permits) p.run meter rounds).1.value?.map f = some b) :
    f (p.unhurried client permits meter) = b := by
  obtain ⟨value, hvalue, rfl⟩ := Option.map_eq_some_iff.mp h
  exact congrArg f (unhurried_eq_iff.mpr (ends_of_stateAfter (Running.value?_eq_some hvalue)))

/-- Changing the outcome of a program costs nothing. -/
theorem unhurried_mapOutcome (f : Outcome α → Outcome β) (p : Poll α) (client : Client) (permits : Nat)
    (meter : Meter) : (p.mapOutcome f).unhurried client permits meter =
      f (p.unhurried client permits meter) := by
  obtain ⟨last, hends⟩ := p.ends_unhurried client permits meter
  exact unhurried_eq_iff.mpr ⟨last, ends_bind_iff.mpr ⟨_, last, hends, .done _ last⟩⟩

theorem Orderly.unhurried_eq {races : Prop} {p : Poll α} (h : p.Orderly races) {client : Client}
    {time : Nat} (hclient : races → client.Takes time) (permits : Nat) (meter : Meter) :
    p.unhurried client permits meter = p.outcome client.answer := by
  obtain ⟨value, hdone, hvalue⟩ : ∃ value,
      (stateAfter client (.unhurried permits) p.run meter (roundsOf client p.run)).1 = .done value ∧
        ((Limits.unhurried permits).stopAt? = none → value = p.run.eval client.answer) :=
    Reading.Orderly.ends meter h hclient
  obtain rfl := hvalue rfl
  exact unhurried_eq_iff.mpr (ends_of_stateAfter hdone)

/-- A program that reads one thing after another comes to the same however long each read takes. -/
theorem Orderly.unhurried_eq_outcome {p : Poll α} (h : p.Orderly False) (client : Client) (permits : Nat)
    (meter : Meter) : p.unhurried client permits meter = p.outcome client.answer := by
  obtain ⟨last, hends⟩ := p.ends_unhurried client permits meter
  exact hends.eq_eval rfl h

theorem bind_ofOutcome (p : Poll α) (f : α → Outcome β) :
    (p >>= fun a => ofOutcome (f a)) = p.mapOutcome fun outcome => outcome >>= f := by
  refine ExceptT.ext (congrArg (p.run >>= ·) (funext fun outcome => ?_))
  cases outcome <;> rfl

theorem run_row_cons (held : Bool) (p : Poll α) (ps : List (Poll α)) : (row held (p :: ps)).run =
    .fork held p.run (row held ps).run fun result => .done (result.map fun e => e.1 :: e.2) := rfl

section Outcome
variable (answer : (request : Request) → Outcome request.Reply)

@[simp] theorem outcome_ofOutcome (outcome : Outcome α) :
    (ofOutcome outcome).outcome answer = outcome := rfl

@[simp] theorem outcome_request (q : Request) : (request q).outcome answer = answer q :=
  eval_read answer q .done

@[simp] theorem outcome_mapOutcome (f : Outcome α → Outcome β) (p : Poll α) :
    (p.mapOutcome f).outcome answer = f (p.outcome answer) := eval_bind answer _ _

theorem outcome_bind (p : Poll α) (f : α → Poll β) :
    (p >>= f).outcome answer = p.outcome answer >>= fun a => (f a).outcome answer := by
  rw [outcome, ExceptT.run_bind, eval_bind, outcome]
  cases p.run.eval answer <;> rfl

@[simp] theorem outcome_later (pauses : Nat) (p : Poll α) :
    (p.later pauses).outcome answer = p.outcome answer := by
  induction pauses with
  | zero => rfl
  | succ pauses ih => exact ih

theorem outcome_row (held : Bool) (ps : List (Poll α)) :
    (row held ps).outcome answer = ps.mapM fun p => p.outcome answer := by
  induction ps with
  | nil => rfl
  | cons p ps ih =>
    rw [List.mapM_cons, ← ih, outcome, run_row_cons, eval_fork, eval_done, outcome, outcome]
    cases p.run.eval answer with
    | error failure => rfl
    | ok value => cases (row held ps).run.eval answer <;> rfl

theorem mapM_spread (asked : Nat) (ps : List (Poll α)) :
    ((spread asked ps).mapM fun p => p.outcome answer) = ps.mapM fun p => p.outcome answer := by
  induction ps generalizing asked with
  | nil => rfl
  | cons p ps ih => rw [spread, List.mapM_cons, List.mapM_cons, outcome_later, ih]

/-- Side by side is one after another, up to the first failure. -/
theorem outcome_all (ps : List (Poll α)) :
    (Poll.all ps).outcome answer = ps.mapM fun p => p.outcome answer := by
  rw [all]
  split
  · exact outcome_row answer false ps
  · exact (outcome_row answer true _).trans (mapM_spread answer 0 ps)

end Outcome
end Poll

/-- A leaf is one read. -/
theorem Leaf.unhurried_read (leaf : Leaf) (client : Client) (permits : Nat) (meter : Meter) :
    leaf.read.unhurried client permits meter = leaf.read.outcome client.answer :=
  leaf.orderly_read.unhurried_eq_outcome client permits meter

/-- A group reads its labels one after another, and the first failure that is not one of finding nothing
is that of the group. -/
theorem outcome_readGroup (answer : (request : Request) → Outcome request.Reply)
    (columns : List (String × Poll Column)) : (readGroup columns).outcome answer =
      (columns.mapM fun e => labelOutcome e.1 (e.2.outcome answer)).map
        fun found => Rows.ofColumns (found.filterMap id) := by
  rw [readGroup, Poll.outcome_mapOutcome, Poll.outcome_all, List.mapM_map]
  simp only [Function.comp_def, Poll.outcome_mapOutcome]

end DevicePoll
