import DevicePoll.Proofs.Reading.Permits

/-! Runs round by round. A program that has not ended waits for something, and its account holds after
every round. -/
namespace DevicePoll.Reading

variable {client : Client} {limits : Limits} {start : Meter} {load due : Load} {m : Moment}

/-! ### Programs that have not ended -/

/-- The program has ended, or something of it waits, is in flight or pauses. -/
def Running.IsAwake {α : Type} (r : Running α) : Prop := (∃ value, r = .done value) ∨ r.load ≠ 0

theorem Load.eq_zero_of_add {a b : Load} (h : a + b = 0) : a = 0 ∧ b = 0 := by
  obtain ⟨htickets, hothers⟩ := Prod.ext_iff.mp h
  obtain ⟨hflights, hpauses⟩ := Prod.ext_iff.mp hothers
  obtain ⟨ha, hb⟩ := Nat.add_eq_zero_iff.mp hflights
  obtain ⟨hc, hd⟩ := Nat.add_eq_zero_iff.mp hpauses
  have ha' : a.1 ≤ 0 := (Multiset.le_add_right a.1 b.1).trans_eq htickets
  have hb' : b.1 ≤ 0 := (Multiset.le_add_left b.1 a.1).trans_eq htickets
  exact ⟨Prod.ext (Multiset.le_zero.mp ha') (Prod.ext ha hc),
    Prod.ext (Multiset.le_zero.mp hb') (Prod.ext hb hd)⟩

theorem Load.eq_zero_of_sum {n : Nat} {f : Fin n → Load} (h : ∑ i, f i = 0) (i : Fin n) : f i = 0 := by
  have hplaces : ∀ places : List (Fin n), (places.map f).sum = 0 → ∀ i ∈ places, f i = 0 := by
    intro places
    induction places with
    | nil => simp
    | cons j places ih =>
      intro h
      obtain ⟨hfirst, hrest⟩ := eq_zero_of_add h
      exact List.forall_mem_cons.mpr ⟨hfirst, ih hrest⟩
  rw [Fin.sum_univ_def] at h
  exact hplaces _ h i (List.mem_finRange i)

/-- A load of loads counts no more reads than their bounds together. -/
theorem Load.reads_sum_le {n : Nat} {f : Fin n → Load} {bound : Fin n → Nat}
    (h : ∀ i, (f i).reads ≤ bound i) : (∑ i, f i).reads ≤ ∑ i, bound i := by
  rw [Fin.sum_univ_def, Fin.sum_univ_def]
  generalize List.finRange n = places
  induction places with
  | nil => exact Nat.le_refl 0
  | cons i places ih =>
    rw [List.map_cons, List.sum_cons, List.map_cons, List.sum_cons, Load.reads_add]
    exact Nat.add_le_add (h i) ih

theorem Running.isAwake_fork {α ε β γ : Type} {held : Bool} {l : Running (Except ε β)}
    {r : Running (Except ε γ)} {next : Except ε (β × γ) → Reading α} (hl : l.IsAwake) (hr : r.IsAwake)
    (hopen : l.decided? held r = none) : (Running.fork held l r next).IsAwake := by
  refine .inr fun hzero => ?_
  obtain ⟨hleft, hright⟩ := Load.eq_zero_of_add hzero
  obtain ⟨b, rfl⟩ := hl.resolve_right fun h => h hleft
  obtain ⟨c, rfl⟩ := hr.resolve_right fun h => h hright
  cases hopen

theorem Running.isAwake_gather {α : Type} {n : Nat} {β : Fin n → Type} {turn : Nat}
    {members : (i : Fin n) → Running (β i)} {next : ((i : Fin n) → β i) → Reading α}
    (hmembers : ∀ i, (members i).IsAwake) (hvalues : allValues? members = none) :
    (Running.gather turn members next).IsAwake := by
  refine .inr fun hzero => ?_
  have hended : ∀ i, ∃ value, members i = .done value := fun i =>
    (hmembers i).resolve_right fun h => h (Load.eq_zero_of_sum hzero i)
  choose values hdone using hended
  rw [allValues?_done hdone] at hvalues
  cases hvalues

/-- What every visit keeps holds after all of them. -/
theorem sweep_keeps {n : Nat} {β : Fin n → Type}
    (visit : (i : Fin n) → Moment → Running (β i) × Moment) {I : Moment → Prop}
    (hvisit : ∀ i m, I m → I (visit i m).2) (places : List (Fin n))
    (members : (i : Fin n) → Running (β i)) (hm : I m) : I (sweep visit places members m).2 := by
  induction places generalizing members m with
  | nil => exact hm
  | cons i places ih => exact ih _ (hvisit i m hm)

/-- A swept member comes of a visit, at a moment of which holds what every visit keeps. -/
theorem sweep_of_mem {n : Nat} {β : Fin n → Type}
    (visit : (i : Fin n) → Moment → Running (β i) × Moment) {I : Moment → Prop}
    (hvisit : ∀ i m, I m → I (visit i m).2) {places : List (Fin n)} {i : Fin n} (h : i ∈ places)
    (members : (i : Fin n) → Running (β i)) (hm : I m) :
    ∃ m', I m' ∧ (sweep visit places members m).1 i = (visit i m').1 := by
  induction places generalizing members m with
  | nil => cases h
  | cons j places ih =>
    rw [sweep]
    by_cases hlater : i ∈ places
    · exact ih hlater _ (hvisit j m hm)
    · obtain rfl : i = j := (List.mem_cons.mp h).resolve_right hlater
      exact ⟨m, hm, by rw [sweep_of_not_mem hlater, dif_pos rfl]⟩

theorem launch_isAwake {α : Type} (x : Reading α) (m : Moment) :
    (launch client limits x m).1.IsAwake := by
  induction x generalizing m with
  | done value => exact .inl ⟨value, rfl⟩
  | read request next ih =>
    rw [launch]
    split
    · exact ih _ _
    · split
      · exact .inr (by simp [Running.load])
      · split
        · exact ih _ _
        · exact .inr (by simp [Running.load])
  | fork held left right next ihl ihr ih =>
    rw [launch]
    dsimp only
    split
    · exact ih _ _
    · split
      · exact ih _ _
      · next hopen => exact Running.isAwake_fork (ihl _) (ihr _) hopen
  | @gather α n β members next ihm ih =>
    rw [launch]
    split
    · exact ih _ _
    · next hvalues =>
      refine Running.isAwake_gather (fun i => ?_) hvalues
      obtain ⟨m', -, hmember⟩ := sweep_of_mem (fun i m => launch client limits (members i) m)
        (I := fun _ => True) (fun _ _ _ => trivial) (mem_placesFrom 0 i)
        (fun i => (launch client limits (members i) m).1) (m := m) trivial
      exact hmember ▸ ihm i m'
  | pause rest ih =>
    rw [launch]
    split
    · exact ih m
    · exact .inr (by simp [Running.load])

theorem resume_isAwake {α : Type} (event : Event) (r : Running α) (m : Moment) :
    (resume client limits event r m).1.IsAwake := by
  induction r generalizing m with
  | done value => exact .inl ⟨value, rfl⟩
  | paused rest => exact launch_isAwake rest m
  | waiting ticket request next =>
    cases event with
    | stopped stop => exact launch_isAwake _ _
    | woken | finished =>
      simp only [resume]
      split <;> exact .inr (by simp [Running.load])
  | inFlight ends request next =>
    cases event with
    | woken => exact .inr (by simp [resume, Running.load])
    | finished =>
      rw [resume]
      split
      · exact launch_isAwake _ _
      · exact .inr (by simp [Running.load])
    | stopped stop => exact launch_isAwake _ _
  | fork held left right next ihl ihr =>
    rw [resume]
    dsimp only
    split
    · exact launch_isAwake _ _
    · split
      · exact launch_isAwake _ _
      · next hopen => exact Running.isAwake_fork (ihl _) (ihr _) hopen
  | @gather α n β turn members next ih =>
    rw [resume]
    split
    · exact launch_isAwake _ _
    · next hvalues =>
      refine Running.isAwake_gather (fun i => ?_) hvalues
      obtain ⟨m', -, hmember⟩ := sweep_of_mem (fun i m => resume client limits event (members i) m)
        (I := fun _ => True) (fun _ _ _ => trivial) (mem_placesFrom turn i) members (m := m) trivial
      exact hmember ▸ ih i m'

/-! ### Whole runs -/

/-- One more round of a run, unless it has ended. -/
def advance (client : Client) (limits : Limits) {α : Type} (state : Running α × Moment) :
    Running α × Moment :=
  match state.1 with
  | .done _ => state
  | running => step client limits running state.2

theorem advance_done {α : Type} (value : α) (m : Moment) :
    advance client limits (.done value, m) = (.done value, m) := rfl

theorem advance_eq {α : Type} {r : Running α} (h : ∀ value, r ≠ .done value) (m : Moment) :
    advance client limits (r, m) = step client limits r m := by
  cases r with
  | done value => exact absurd rfl (h value)
  | _ => rfl

/-- A run after some of its rounds. -/
def stateAfter (client : Client) (limits : Limits) {α : Type} (program : Reading α) (meter : Meter)
    (rounds : Nat) : Running α × Moment :=
  (advance client limits)^[rounds] (launch client limits program (begin limits meter))

@[simp] theorem stateAfter_succ {α : Type} (program : Reading α) (meter : Meter) (rounds : Nat) :
    stateAfter client limits program meter (rounds + 1) =
      advance client limits (stateAfter client limits program meter rounds) :=
  Function.iterate_succ_apply' _ _ _

/-- The run has come to its end after so many rounds. -/
def HasEnded (client : Client) (limits : Limits) {α : Type} (program : Reading α) (meter : Meter)
    (rounds : Nat) : Prop :=
  ∃ value, (stateAfter client limits program meter rounds).1 = .done value

theorem stateAfter_isAwake {α : Type} (program : Reading α) (meter : Meter) (rounds : Nat) :
    (stateAfter client limits program meter rounds).1.IsAwake := by
  induction rounds with
  | zero => exact launch_isAwake program _
  | succ rounds ih =>
    rw [stateAfter_succ]
    generalize stateAfter client limits program meter rounds = state at ih
    obtain ⟨running, m⟩ := state
    cases running with
    | done value => exact ih
    | _ => exact resume_isAwake _ _ _

theorem runSteps_done {α : Type} (rounds : Nat) (value : α) (m : Moment) :
    runSteps client limits rounds (.done value) m = (value, m) := by
  cases rounds <;> rfl

theorem runSteps_eq {α : Type} (rounds : Nat) (state : Running α × Moment) :
    runSteps client limits rounds state.1 state.2 =
      (((advance client limits)^[rounds] state).1.settle client.answer,
        ((advance client limits)^[rounds] state).2) := by
  induction rounds generalizing state with
  | zero =>
    obtain ⟨running, m⟩ := state
    cases running <;> rfl
  | succ rounds ih =>
    rw [Function.iterate_succ_apply, ← ih]
    obtain ⟨running, m⟩ := state
    cases running with
    | done value => exact (runSteps_done _ value m).trans (runSteps_done _ value m).symm
    | _ => rfl

/-- A program that asks for nothing is over before its first round, and the client has seen nothing of
it. -/
theorem runWithin_done {α : Type} (value : α) (meter : Meter) (rounds : Nat) :
    runWithin client limits rounds (.done value) meter = (value, meter) := by
  rw [runWithin, launch, runSteps_done]
  rfl

/-- A run with so many rounds is told by its state after them. -/
theorem runWithin_eq {α : Type} (program : Reading α) (meter : Meter) (rounds : Nat) :
    runWithin client limits rounds program meter =
      ((stateAfter client limits program meter rounds).1.settle client.answer,
        (stateAfter client limits program meter rounds).2.meter) := by
  rw [runWithin, runSteps_eq]
  rfl

/-- The account of a run holds after every round. Between rounds no ticket is granted unless one more
round is asked for. -/
theorem stateAfter_carries {α : Type} (program : Reading α) (meter : Meter) (rounds : Nat) :
    (stateAfter client limits program meter rounds).2.Carries limits meter
      (stateAfter client limits program meter rounds).1.load 0 0 := by
  induction rounds with
  | zero => exact (launch_carries program (begin_carries limits meter)).of_eq (zero_add _) rfl
  | succ rounds ih =>
    rw [stateAfter_succ]
    generalize stateAfter client limits program meter rounds = state at ih
    obtain ⟨running, m⟩ := state
    have hround : (step client limits running m).2.Carries limits meter
        (step client limits running m).1.load 0 0 := by
      have hready := ih.atRound (nextEvent limits running m).2
      exact (resume_carries client _ _ (hready.of_eq (zero_add _).symm (zero_add _).symm)).of_eq
        (zero_add _) rfl
    cases running with
    | done value => exact ih
    | _ => exact hround

end DevicePoll.Reading
