import DevicePoll.Proofs.Reading.Progress

/-! Programs one after another. In every run, a program that goes on with the value of another one
starts at the very moment at which the other one has come to its end: what is free, what has been
issued and what time it is are handed on, and nothing comes between the two. -/
namespace DevicePoll.Reading

variable {α β : Type} (client : Client) (limits : Limits)

/-- A program under way that is followed by another one. Once it has ended the other one is started;
before that only what it goes on with is changed. -/
def follow (f : α → Reading β) : Running α × Moment → Running β × Moment
  | (.done value, m) => launch client limits (f value) m
  | (.paused rest, m) => (.paused (rest >>= f), m)
  | (.waiting ticket request next, m) => (.waiting ticket request fun reply => next reply >>= f, m)
  | (.inFlight ends request next, m) => (.inFlight ends request fun reply => next reply >>= f, m)
  | (.fork held left right next, m) => (.fork held left right fun result => next result >>= f, m)
  | (.gather turn members next, m) => (.gather turn members fun values => next values >>= f, m)

/-- A program that is started at a moment comes to its end at a later one. -/
def Ends (x : Reading α) (m : Moment) (value : α) (last : Moment) : Prop :=
  ∃ rounds, (advance client limits)^[rounds] (launch client limits x m) = (.done value, last)

variable {client : Client} {limits : Limits} {x : Reading α} {f : α → Reading β} {m : Moment}

/-! ### Parts of a run -/

theorem launch_bind (x : Reading α) (f : α → Reading β) (m : Moment) :
    launch client limits (x >>= f) m = follow client limits f (launch client limits x m) := by
  induction x generalizing m with
  | done value => rfl
  | read request next ih =>
    rw [read_bind, launch, launch]
    split
    · exact ih _ f _
    · split
      · rfl
      · split
        · exact ih _ f _
        · rfl
  | fork held left right next _ _ ih =>
    rw [fork_bind, launch, launch]
    dsimp only
    split
    · exact ih _ f _
    · split
      · exact ih _ f _
      · rfl
  | gather members next _ ih =>
    rw [gather_bind, launch, launch]
    split
    · exact ih _ f _
    · rfl
  | pause rest ih =>
    rw [pause_bind, launch, launch]
    split
    · exact ih f m
    · rfl

/-- A round carries the first program and leaves the other one as it is. -/
theorem resume_follow {running : Running α} (h : ∀ value, running ≠ .done value) (event : Event)
    (m m' : Moment) : resume client limits event (follow client limits f (running, m)).1 m' =
      follow client limits f (resume client limits event running m') := by
  cases running with
  | done value => exact absurd rfl (h value)
  | paused rest => exact launch_bind rest f m'
  | waiting ticket request next =>
    cases event with
    | stopped stop => exact launch_bind _ f _
    | woken | finished =>
      simp only [follow, resume]
      by_cases hgranted : ticket ∈ m'.granted
      · rw [if_pos hgranted, if_pos hgranted]
      · rw [if_neg hgranted, if_neg hgranted]
  | inFlight ends request next =>
    cases event with
    | woken => rfl
    | finished =>
      simp only [follow, resume]
      by_cases hends : ends ≤ m'.now
      · rw [if_pos hends, if_pos hends]
        exact launch_bind _ f _
      · rw [if_neg hends, if_neg hends]
    | stopped stop => exact launch_bind _ f _
  | fork held left right next =>
    simp only [follow, resume]
    split
    · exact launch_bind _ f _
    · split
      · exact launch_bind _ f _
      · rfl
  | gather turn members next =>
    simp only [follow, resume]
    split
    · exact launch_bind _ f _
    · rfl

theorem follow_ne_done {state : Running α × Moment} (h : ∀ value, state.1 ≠ .done value) (value : β) :
    (follow client limits f state).1 ≠ .done value := by
  obtain ⟨running, m⟩ := state
  cases running with
  | done value => exact absurd rfl (h value)
  | _ => nofun

/-- What goes on after a program does not change what happens next. -/
theorem nextEvent_follow {running : Running α} (h : ∀ value, running ≠ .done value) (m m' : Moment) :
    nextEvent limits (follow client limits f (running, m)).1 m' = nextEvent limits running m' := by
  cases running with
  | done value => exact absurd rfl (h value)
  | _ => rfl

theorem advance_follow {state : Running α × Moment} (h : ∀ value, state.1 ≠ .done value) :
    advance client limits (follow client limits f state) =
      follow client limits f (advance client limits state) := by
  obtain ⟨running, m⟩ := state
  have hmoment : (follow client limits f (running, m)).2 = m := by
    cases running with
    | done value => exact absurd rfl (h value)
    | _ => rfl
  rw [show follow client limits f (running, m) = (_, m) from Prod.ext rfl hmoment,
    advance_eq (follow_ne_done h), advance_eq h, step, nextEvent_follow h, resume_follow h, step]


/-! ### Whole runs -/

theorem iterate_advance_done (rounds : Nat) (value : α) (m : Moment) :
    (advance client limits)^[rounds] (.done value, m) = (.done value, m) :=
  Function.iterate_fixed (advance_done value m) rounds

theorem Ends.done (value : α) (m : Moment) : Ends client limits (.done value) m value m := ⟨0, rfl⟩

theorem Ends.unique {value value' : α} {last last' : Moment} (h : Ends client limits x m value last)
    (h' : Ends client limits x m value' last') : value = value' ∧ last = last' := by
  obtain ⟨rounds, hdone⟩ := h
  obtain ⟨rounds', hdone'⟩ := h'
  -- a run that has ended stays as it is, so both are the state after all of these rounds
  have hmore : (advance client limits)^[rounds' + rounds] (launch client limits x m) =
      (.done value, last) := by
    rw [Function.iterate_add_apply, hdone, iterate_advance_done]
  have hmore' : (advance client limits)^[rounds + rounds'] (launch client limits x m) =
      (.done value', last') := by
    rw [Function.iterate_add_apply, hdone', iterate_advance_done]
  rw [Nat.add_comm, hmore] at hmore'
  cases hmore'
  exact ⟨rfl, rfl⟩

/-- After the rounds of a program, the program that follows it is started. -/
theorem exists_iterate_follow {value : α} {last : Moment} (rounds : Nat) (state : Running α × Moment)
    (h : (advance client limits)^[rounds] state = (.done value, last)) :
    ∃ spent, (advance client limits)^[spent] (follow client limits f state) =
      launch client limits (f value) last := by
  induction rounds generalizing state with
  | zero =>
    rw [Function.iterate_zero_apply] at h
    exact ⟨0, by rw [h]; rfl⟩
  | succ rounds ih =>
    rw [Function.iterate_succ_apply] at h
    by_cases hended : ∃ found, state.1 = .done found
    · obtain ⟨found, hfound⟩ := hended
      have hstill : advance client limits state = state := by
        rw [show state = (.done found, state.2) from Prod.ext hfound rfl, advance_done]
      rw [hstill] at h
      exact ih state h
    · have hrunning : ∀ found, state.1 ≠ .done found := fun found hfound => hended ⟨found, hfound⟩
      obtain ⟨spent, hspent⟩ := ih _ h
      rw [← advance_follow hrunning] at hspent
      exact ⟨spent + 1, by rw [Function.iterate_succ_apply, hspent]⟩

/-- If the program that follows has ended, so has the first one, and the other one was started then. -/
theorem exists_of_iterate_follow {value : β} {last : Moment} (rounds : Nat)
    (state : Running α × Moment)
    (h : (advance client limits)^[rounds] (follow client limits f state) = (.done value, last)) :
    ∃ first middle, (∃ spent, (advance client limits)^[spent] state = (.done first, middle)) ∧
      Ends client limits (f first) middle value last := by
  induction rounds generalizing state with
  | zero =>
    rw [Function.iterate_zero_apply] at h
    by_cases hended : ∃ first, state.1 = .done first
    · obtain ⟨first, hfirst⟩ := hended
      have hstate : state = (.done first, state.2) := Prod.ext hfirst rfl
      rw [hstate] at h
      exact ⟨first, state.2, ⟨0, hstate⟩, 0, h⟩
    · have hrunning : ∀ first, state.1 ≠ .done first := fun first hfirst => hended ⟨first, hfirst⟩
      exact absurd (congrArg Prod.fst h) (follow_ne_done hrunning value)
  | succ rounds ih =>
    by_cases hended : ∃ first, state.1 = .done first
    · obtain ⟨first, hfirst⟩ := hended
      have hstate : state = (.done first, state.2) := Prod.ext hfirst rfl
      rw [hstate] at h
      exact ⟨first, state.2, ⟨0, hstate⟩, rounds + 1, h⟩
    · have hrunning : ∀ first, state.1 ≠ .done first := fun first hfirst => hended ⟨first, hfirst⟩
      rw [Function.iterate_succ_apply, advance_follow hrunning] at h
      obtain ⟨first, middle, ⟨spent, hspent⟩, hrest⟩ := ih _ h
      exact ⟨first, middle, ⟨spent + 1, by rw [Function.iterate_succ_apply, hspent]⟩, hrest⟩

/-- A sequence of programs ends exactly if its parts end one after the other, the second one from the
moment at which the first one has ended. -/
theorem ends_bind_iff {value : β} {last : Moment} : Ends client limits (x >>= f) m value last ↔
    ∃ first middle, Ends client limits x m first middle ∧
      Ends client limits (f first) middle value last := by
  constructor
  · rintro ⟨rounds, hdone⟩
    rw [launch_bind] at hdone
    exact exists_of_iterate_follow rounds _ hdone
  · rintro ⟨first, middle, ⟨rounds, hfirst⟩, rounds', hdone⟩
    obtain ⟨spent, hspent⟩ := exists_iterate_follow (f := f) rounds _ hfirst
    refine ⟨rounds' + spent, ?_⟩
    rw [Function.iterate_add_apply, launch_bind, hspent, hdone]

/-- Every program ends in a run of its own. -/
theorem exists_ends (client : Client) (limits : Limits) (x : Reading α) (meter : Meter) :
    ∃ value last, Ends client limits x (begin limits meter) value last := by
  obtain ⟨enough, hended⟩ := exists_ended client limits x meter
  obtain ⟨value, hdone⟩ := hended enough (Nat.le_refl _)
  exact ⟨value, _, enough, Prod.ext hdone rfl⟩

/-- A run that has ended has ended as its program does. -/
theorem ends_of_stateAfter {value : α} {meter : Meter} {rounds : Nat}
    (h : (stateAfter client limits x meter rounds).1 = .done value) :
    ∃ last, Ends client limits x (begin limits meter) value last := ⟨_, rounds, Prod.ext h rfl⟩

/-- A run with enough rounds ends as its program does. -/
theorem Ends.runWithin {value : α} {meter : Meter} {last : Moment}
    (h : Ends client limits x (begin limits meter) value last) :
    ∃ enough, ∀ rounds, enough ≤ rounds →
      runWithin client limits rounds x meter = (value, last.meter) := by
  obtain ⟨enough, hdone⟩ := h
  refine ⟨enough, fun rounds hrounds => ?_⟩
  obtain ⟨more, rfl⟩ := Nat.exists_eq_add_of_le' hrounds
  have hstate : stateAfter client limits x meter (more + enough) = (.done value, last) := by
    rw [stateAfter, Function.iterate_add_apply, hdone, iterate_advance_done]
  rw [runWithin_eq, hstate]
  rfl

/-! ### Values -/

theorem Running.Ensures.advance {P : α → Bool → Prop} (hnever : limits.stopAt? = none)
    {state : Running α × Moment} (h : state.1.Ensures (repliesOf client limits) P) :
    (Reading.advance client limits state).1.Ensures (repliesOf client limits) P := by
  have hopen : ∀ now, limits.stop? now = none := fun now => Limits.stop?_eq_none_iff.mpr (by simp [hnever])
  obtain ⟨running, m⟩ := state
  by_cases hrunning : ∀ value, running ≠ .done value
  · rw [advance_eq hrunning, step]
    obtain ⟨event, hevent, hnext, -⟩ | ⟨-, hstopped⟩ := nextEvent_cases running (hopen m.now)
    · exact (h.resume_open (hnext ▸ hevent) (hopen _)).1
    · cases (hopen _).symm.trans hstopped
  · obtain ⟨value, hdone⟩ := not_forall_not.mp hrunning
    rw [show running = .done value from hdone] at h ⊢
    exact h

/-- What a program ensures if none of its reads is cut off holds wherever it ends while nothing stops the
reads. -/
theorem Ends.ensures {P : α → Bool → Prop} {value : α} {last : Moment}
    (h : Ends client limits x m value last) (hnever : limits.stopAt? = none)
    (hensures : x.Ensures (repliesOf client limits) P) : P value false := by
  have hopen : limits.stop? m.now = none := Limits.stop?_eq_none_iff.mpr (by simp [hnever])
  obtain ⟨rounds, hdone⟩ := h
  have hstate : ∀ n, ((Reading.advance client limits)^[n] (launch client limits x m)).1.Ensures
      (repliesOf client limits) P := by
    intro n
    induction n with
    | zero => exact (hensures.launch_open hopen).1
    | succ n ih =>
      rw [Function.iterate_succ_apply']
      exact ih.advance hnever
  have hlast := hstate rounds
  rwa [hdone, Running.ensures_done] at hlast

/-- A program in which nothing races comes to what its reads give one after another, unless one of them is
cut off. -/
theorem Orderly.ensures {stop : Failure.Stop} {x : Reading α} (h : x.Orderly False) :
    x.Ensures (.during client stop) fun value cut => cut = false → value = x.eval client.answer := by
  induction h with
  | done value => exact .done fun _ => rfl
  | @read α request next _ ih =>
    refine .read fun reply cut hreply => ?_
    cases hreply with
    | answered => exact (ih _).mono fun value cut hvalue => by rwa [after, Bool.false_or]
    | cutOff stage =>
      refine .of_forall _ fun value cut huncut => ?_
      rw [Bool.true_or] at huncut
      cases huncut
  | group allowed => exact allowed.elim
  | @both α ε β γ held left right next noError hleft hright hnext ihl ihr ih =>
    refine .fork ihl ihr fun result cut hsides => (ih result).mono fun value later hvalue huncut => ?_
    rw [Bool.or_eq_false_iff] at huncut
    rw [hvalue huncut.2, eval_fork]
    cases hsides with
    | left => exact (noError ‹ε›).elim
    | right => exact (noError ‹ε›).elim
    | late => exact (noError ‹ε›).elim
    | both hb hc =>
      obtain ⟨hbcut, hccut⟩ := Bool.or_eq_false_iff.mp huncut.1
      rw [← hb hbcut, ← hc hccut, joined]
  | @gather α n β members next hmembers hnext ihm ih =>
    refine .gather ihm fun values cuts hall => (ih values).mono fun value later hvalue huncut => ?_
    rw [Bool.or_eq_false_iff, decide_eq_false_iff_not] at huncut
    have hvalues : values = fun i => (members i).eval client.answer :=
      funext fun i => hall i (Bool.eq_false_iff.mpr fun hcut => huncut.1 ⟨i, hcut⟩)
    rw [hvalue huncut.2, eval_gather, hvalues]

/-- A program in which nothing races ends in the same value wherever it starts and whatever time its reads
take. -/
theorem Ends.eq_eval {value : α} {last : Moment} (h : Ends client limits x m value last)
    (hnever : limits.stopAt? = none) (horderly : x.Orderly False) : value = x.eval client.answer :=
  h.ensures hnever horderly.ensures rfl

end DevicePoll.Reading
