import DevicePoll.Proofs.Reading.InLine
import Mathlib.Algebra.BigOperators.Ring.Finset
import Mathlib.Data.Set.Finite.Lattice

/-! How long a program can go on. Reads are answered in one way, so whatever ends first, a program has
only finitely many ends, and a bound on the rounds until it reaches one of them. Of an orderly program
the end is known, and no read takes more than two rounds. -/
namespace DevicePoll.Reading

/-- What a fork can end in: the error of one of its sides, or the values of both. -/
inductive Joins {ε β γ : Type} (L : Except ε β → Prop) (U : Except ε γ → Prop) :
    Except ε (β × γ) → Prop
  | left {e : ε} : L (.error e) → Joins L U (.error e)
  | right {e : ε} : U (.error e) → Joins L U (.error e)
  | both {b : β} {c : γ} : L (.ok b) → U (.ok c) → Joins L U (.ok (b, c))

theorem Joins.joined {ε β γ : Type} {L : Except ε β → Prop} {U : Except ε γ → Prop}
    {b : Except ε β} {c : Except ε γ} (hb : L b) (hc : U c) : Joins L U (joined b c) := by
  cases b with
  | error e => exact .left hb
  | ok b =>
    cases c with
    | error e => exact .right hc
    | ok c => exact .both hb hc

/-- Whatever ends first, the program comes to one of some ends, within so many rounds in which it
goes on. Of two flat sides the first one in line decides, if they may drop one another. -/
inductive Bounded (answer : (request : Request) → Outcome request.Reply) (races : Prop) :
    {α : Type} → (α → Prop) → Nat → Reading α → Prop
  | done {α : Type} {P : α → Prop} {n : Nat} {value : α} (hvalue : P value) :
      Bounded answer races P n (.done value)
  | read {α : Type} {P : α → Prop} {n : Nat} {request : Request}
      {next : Outcome request.Reply → Reading α}
      (hnext : Bounded answer races P n (next (answer request))) :
      Bounded answer races P (n + 2) (.read request next)
  | group {α ε β γ : Type} {P : α → Prop} {n : Nat} {held : Bool} {left : Reading (Except ε β)}
      {right : Reading (Except ε γ)} {next : Except ε (β × γ) → Reading α} (allowed : races)
      (hleft : left.Flat) (hright : right.Flat)
      (hnext : Bounded answer races P n (next (joined (left.eval answer) (right.eval answer)))) :
      Bounded answer races P ((left.tally answer).2 + (right.tally answer).2 + n)
        (.fork held left right next)
  | fork {α ε β γ : Type} {P : α → Prop} {L : Except ε β → Prop} {U : Except ε γ → Prop} {a b n : Nat}
      {held : Bool} {left : Reading (Except ε β)} {right : Reading (Except ε γ)}
      {next : Except ε (β × γ) → Reading α} (hleft : Bounded answer races L a left)
      (hright : Bounded answer races U b right)
      (hnext : ∀ result, Joins L U result → Bounded answer races P n (next result)) :
      Bounded answer races P (a + b + n) (.fork held left right next)
  | gather {α : Type} {P : α → Prop} {k : Nat} {β : Fin k → Type} {Q : (i : Fin k) → β i → Prop}
      {a : Fin k → Nat} {n : Nat} {members : (i : Fin k) → Reading (β i)}
      {next : ((i : Fin k) → β i) → Reading α}
      (hmembers : ∀ i, Bounded answer races (Q i) (a i) (members i))
      (hnext : ∀ values, (∀ i, Q i (values i)) → Bounded answer races P n (next values)) :
      Bounded answer races P (∑ i, a i + n) (.gather members next)
  | pause {α : Type} {P : α → Prop} {n : Nat} {rest : Reading α} (hrest : Bounded answer races P n rest) :
      Bounded answer races P (n + 1) (.pause rest)

/-- The same of a program under way. -/
inductive Running.Bounded (answer : (request : Request) → Outcome request.Reply) (races : Prop) :
    {α : Type} → (α → Prop) → Nat → Running α → Prop
  | done {α : Type} {P : α → Prop} {n : Nat} {value : α} (hvalue : P value) :
      Bounded answer races P n (.done value)
  | paused {α : Type} {P : α → Prop} {n : Nat} {rest : Reading α} (hrest : rest.Bounded answer races P n) :
      Bounded answer races P n (.paused rest)
  | waiting {α : Type} {P : α → Prop} {n : Nat} {ticket : Nat} {request : Request}
      {next : Outcome request.Reply → Reading α}
      (hnext : (next (answer request)).Bounded answer races P n) :
      Bounded answer races P (n + 1) (.waiting ticket request next)
  | inFlight {α : Type} {P : α → Prop} {n ends : Nat} {request : Request}
      {next : Outcome request.Reply → Reading α}
      (hnext : (next (answer request)).Bounded answer races P n) :
      Bounded answer races P (n + 1) (.inFlight ends request next)
  | group {α ε β γ : Type} {P : α → Prop} {n : Nat} {held : Bool} {left : Running (Except ε β)}
      {right : Running (Except ε γ)} {next : Except ε (β × γ) → Reading α} (allowed : races)
      (hleft : left.InLine) (hright : right.InLine) (hbehind : left.Behind right)
      (hnext : (next (joined (left.settle answer) (right.settle answer))).Bounded answer races P n) :
      Bounded answer races P (left.remaining answer + right.remaining answer + n)
        (.fork held left right next)
  | fork {α ε β γ : Type} {P : α → Prop} {L : Except ε β → Prop} {U : Except ε γ → Prop} {a b n : Nat}
      {held : Bool} {left : Running (Except ε β)} {right : Running (Except ε γ)}
      {next : Except ε (β × γ) → Reading α} (hleft : Bounded answer races L a left)
      (hright : Bounded answer races U b right)
      (hnext : ∀ result, Joins L U result → (next result).Bounded answer races P n) :
      Bounded answer races P (a + b + n) (.fork held left right next)
  | gather {α : Type} {P : α → Prop} {k : Nat} {β : Fin k → Type} {Q : (i : Fin k) → β i → Prop}
      {a : Fin k → Nat} {n turn : Nat} {members : (i : Fin k) → Running (β i)}
      {next : ((i : Fin k) → β i) → Reading α}
      (hmembers : ∀ i, Bounded answer races (Q i) (a i) (members i))
      (hnext : ∀ values, (∀ i, Q i (values i)) → (next values).Bounded answer races P n) :
      Bounded answer races P (∑ i, a i + n) (.gather turn members next)

section Laws
variable {answer : (request : Request) → Outcome request.Reply} {races : Prop} {α : Type}
  {P P' : α → Prop} {n n' : Nat}

namespace Bounded

theorem mono {x : Reading α} (h : x.Bounded answer races P n) (hn : n ≤ n')
    (hP : ∀ value, P value → P' value) : x.Bounded answer races P' n' := by
  induction h generalizing n' with
  | done hvalue => exact .done (hP _ hvalue)
  | @read _ _ n _ _ _ ih =>
    obtain ⟨more, rfl⟩ := Nat.exists_eq_add_of_le hn
    rw [Nat.add_right_comm]
    exact .read (ih (Nat.le_add_right n more) hP)
  | group allowed hleft hright _ ih =>
    obtain ⟨more, rfl⟩ := Nat.exists_eq_add_of_le hn
    rw [Nat.add_assoc]
    exact .group allowed hleft hright (ih (Nat.le_add_right _ more) hP)
  | fork hleft hright _ _ _ ih =>
    obtain ⟨more, rfl⟩ := Nat.exists_eq_add_of_le hn
    rw [Nat.add_assoc]
    exact .fork hleft hright fun result hresult => ih result hresult (Nat.le_add_right _ more) hP
  | gather hmembers _ _ ih =>
    obtain ⟨more, rfl⟩ := Nat.exists_eq_add_of_le hn
    rw [Nat.add_assoc]
    exact .gather hmembers fun values hvalues => ih values hvalues (Nat.le_add_right _ more) hP
  | @pause _ _ n _ _ ih =>
    obtain ⟨more, rfl⟩ := Nat.exists_eq_add_of_le hn
    rw [Nat.add_right_comm]
    exact .pause (ih (Nat.le_add_right n more) hP)

theorem eval {x : Reading α} (h : x.Bounded answer races P n) : P (x.eval answer) := by
  induction h with
  | done hvalue => exact hvalue
  | read _ ih => exact ih
  | group allowed hleft hright _ ih =>
    rw [eval_fork]
    exact ih
  | fork _ _ _ ihl ihr ih =>
    rw [eval_fork]
    exact ih _ (.joined ihl ihr)
  | gather _ _ ihm ih => exact ih _ ihm
  | pause _ ih => exact ih

end Bounded

namespace Running.Bounded

theorem settle {r : Running α} (h : r.Bounded answer races P n) : P (r.settle answer) := by
  induction h with
  | done hvalue => exact hvalue
  | paused hrest => exact hrest.eval
  | waiting hnext => exact hnext.eval
  | inFlight hnext => exact hnext.eval
  | group _ _ _ _ hnext => exact hnext.eval
  | fork _ _ hnext ihl ihr => exact (hnext _ (.joined ihl ihr)).eval
  | gather _ hnext ih => exact (hnext _ ih).eval

theorem of_done {r : Running α} {value : α} (h : r.Bounded answer races P n) (hdone : r = .done value) :
    P value := by
  have hsettle := h.settle
  rwa [hdone] at hsettle

theorem of_error {ε β : Type} {L : Except ε β → Prop} {side : Running (Except ε β)} {e : ε}
    (h : side.Bounded answer races L n) (herror : side.error? = some e) : L (.error e) :=
  h.of_done (eq_done_of_error? herror)

/-- Every read that waits or is in flight asks for a round of its own. -/
theorem reads_le {r : Running α} (h : r.Bounded answer races P n) : r.load.reads ≤ n := by
  induction h with
  | done => exact Nat.zero_le _
  | paused => exact Nat.zero_le _
  | waiting => exact Nat.le_add_left 1 _
  | inFlight => exact Nat.le_add_left 1 _
  | @group _ _ _ _ _ n _ left right =>
    have hleft := left.load_le_remaining answer
    have hright := right.load_le_remaining answer
    rw [load, Load.reads_add]
    omega
  | fork _ _ _ ihl ihr =>
    rw [load, Load.reads_add]
    omega
  | gather _ _ ih => exact (Load.reads_sum_le ih).trans (Nat.le_add_right _ _)

theorem ends_le {r : Running α} (h : r.Bounded answer races P n) (event : Event) (now : Nat) :
    event.ends now r.flights ≤ n :=
  calc event.ends now r.flights ≤ r.flights.length := event.ends_le now r.flights
    _ = r.load.2.1 := r.length_flights
    _ ≤ r.load.reads := Nat.le_add_left _ _
    _ ≤ n := h.reads_le

end Running.Bounded

/-! ### Every program is bounded -/

theorem finite_joins {ε β γ : Type} {L : Set (Except ε β)} {U : Set (Except ε γ)} (hL : L.Finite)
    (hU : U.Finite) : {result | Joins (· ∈ L) (· ∈ U) result}.Finite := by
  have herrors : {e : ε | .error e ∈ L}.Finite := hL.preimage (by simp [Set.InjOn])
  have herrors' : {e : ε | .error e ∈ U}.Finite := hU.preimage (by simp [Set.InjOn])
  have hvalues : {b : β | .ok b ∈ L}.Finite := hL.preimage (by simp [Set.InjOn])
  have hvalues' : {c : γ | .ok c ∈ U}.Finite := hU.preimage (by simp [Set.InjOn])
  refine (((herrors.union herrors').image Except.error).union
    ((hvalues.prod hvalues').image Except.ok)).subset ?_
  intro result hresult
  cases hresult with
  | @left e he => exact .inl ⟨e, .inl he, rfl⟩
  | @right e he => exact .inl ⟨e, .inr he, rfl⟩
  | @both b c hb hc => exact .inr ⟨(b, c), ⟨hb, hc⟩, rfl⟩

/-- What goes on from one of finitely many results is bounded if it is from each. -/
theorem exists_bounded_of_finite {ι : Type} {next : ι → Reading α} {results : Set ι}
    (hresults : results.Finite)
    (hnext : ∀ result, ∃ (ends : Set α) (n : Nat), ends.Finite ∧
      (next result).Bounded answer races (· ∈ ends) n) :
    ∃ (ends : Set α) (n : Nat), ends.Finite ∧
      ∀ result ∈ results, (next result).Bounded answer races (· ∈ ends) n := by
  choose ends bound hends hbounded using hnext
  obtain ⟨n, hn⟩ := (hresults.image bound).bddAbove
  refine ⟨⋃ result ∈ results, ends result, n, hresults.biUnion fun result _ => hends result, ?_⟩
  intro result hresult
  refine (hbounded result).mono (hn (Set.mem_image_of_mem bound hresult)) fun value hvalue => ?_
  exact Set.mem_biUnion hresult hvalue

theorem exists_bounded (answer : (request : Request) → Outcome request.Reply) (races : Prop)
    (x : Reading α) : ∃ (ends : Set α) (n : Nat), ends.Finite ∧ x.Bounded answer races (· ∈ ends) n := by
  induction x with
  | done value => exact ⟨{value}, 0, Set.finite_singleton value, .done rfl⟩
  | read request next ih =>
    obtain ⟨ends, n, hends, hnext⟩ := ih (answer request)
    exact ⟨ends, n + 2, hends, .read hnext⟩
  | fork held left right next ihl ihr ih =>
    obtain ⟨L, a, hL, hleft⟩ := ihl
    obtain ⟨U, b, hU, hright⟩ := ihr
    obtain ⟨ends, n, hends, hnext⟩ := exists_bounded_of_finite (finite_joins hL hU) ih
    exact ⟨ends, a + b + n, hends, .fork hleft hright hnext⟩
  | gather members next ihm ih =>
    choose Q a hQ hmembers using ihm
    obtain ⟨ends, n, hends, hnext⟩ := exists_bounded_of_finite (Set.Finite.pi' hQ) ih
    exact ⟨ends, ∑ i, a i + n, hends, .gather hmembers hnext⟩
  | pause rest ih =>
    obtain ⟨ends, n, hends, hrest⟩ := ih
    exact ⟨ends, n + 1, hends, .pause hrest⟩

/-- An orderly program has one end: the value that it has when its requests are answered one after
another. -/
theorem Orderly.bounded {x : Reading α} (h : x.Orderly races) :
    x.Bounded answer races (· = x.eval answer) (x.tally answer).2 := by
  induction h with
  | done value => exact .done rfl
  | @read α request next _ ih => exact .read (ih (answer request))
  | @group α ε β γ held left right next allowed hleft hright _ ih =>
    rw [eval_fork, tally_fork_snd]
    exact .group allowed hleft hright (ih _)
  | @both α ε β γ held left right next noError _ _ _ ihl ihr ih =>
    rw [eval_fork, tally_fork_snd]
    refine .fork ihl ihr fun result hresult => ?_
    cases hresult with
    | @left e => exact (noError e).elim
    | @right e => exact (noError e).elim
    | both hb hc =>
      rw [← hb, ← hc]
      exact ih _
  | gather _ _ ihm ih =>
    rw [eval_gather, tally_gather_snd]
    refine .gather ihm fun values hvalues => ?_
    obtain rfl := funext hvalues
    exact ih _

end Laws
end DevicePoll.Reading
