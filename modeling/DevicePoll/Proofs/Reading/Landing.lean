import DevicePoll.Proofs.Reading.Rounds

/-! When reads end. If every answer takes the same time, all reads that are in flight between two rounds
end at the same instant: those that a round issues are issued at its instant, and a round that lets reads
end lets all of them end. -/
namespace DevicePoll

/-- Every answer takes so much time. -/
def Client.Takes (client : Client) (time : Nat) : Prop := ∀ request, client.latency request = time

namespace Reading

variable {client : Client} {limits : Limits} {m : Moment} {time : Nat}

/-- The reads in flight at a round end at its instant if they end in it, and else after their time. -/
def Event.Lands (event : Event) (time now : Nat) (flights : List Nat) : Prop :=
  ∀ ends ∈ flights, ends = if event = .finished then now else now + time

namespace Event.Lands
variable {event : Event} {now : Nat} {flights others : List Nat}

theorem append_iff : event.Lands time now (flights ++ others) ↔
    event.Lands time now flights ∧ event.Lands time now others := List.forall_mem_append

theorem member {n : Nat} {each : Fin n → List Nat}
    (h : event.Lands time now ((List.finRange n).flatMap each)) (i : Fin n) :
    event.Lands time now (each i) :=
  fun ends hends => h ends (List.mem_flatMap.mpr ⟨i, List.mem_finRange i, hends⟩)

end Event.Lands

theorem mem_flights_fork {α ε β γ : Type} {held : Bool} {l : Running (Except ε β)}
    {r : Running (Except ε γ)} {next : Except ε (β × γ) → Reading α} {ends : Nat} :
    ends ∈ (Running.fork held l r next).flights ↔ ends ∈ l.flights ∨ ends ∈ r.flights :=
  List.mem_append

theorem mem_flights_gather {α : Type} {n turn : Nat} {β : Fin n → Type}
    {members : (i : Fin n) → Running (β i)} {next : ((i : Fin n) → β i) → Reading α} {ends : Nat} :
    ends ∈ (Running.gather turn members next).flights ↔ ∃ i, ends ∈ (members i).flights := by
  simp [Running.flights]

/-- The reads of a program that is started end after their time. -/
theorem launch_flights (htime : client.Takes time) {α : Type} (x : Reading α)
    (hopen : limits.stop? m.now = none) :
    ∀ ends ∈ (launch client limits x m).1.flights, ends = m.now + time := by
  induction x generalizing m with
  | done value => exact fun _ hends => absurd hends List.not_mem_nil
  | read request next ih =>
    rw [launch]
    simp only [Limits.refusal?_open hopen]
    by_cases hfree : m.free = 0
    · simp only [hfree, ↓reduceIte]
      exact fun _ hends => absurd hends List.not_mem_nil
    · by_cases hlatency : client.latency request = 0
      · simp only [hfree, hlatency, ↓reduceIte]
        have hadds : m.Adds limits false (m.take.issue request).finish :=
          (Moment.Adds.takeIssue hopen request).andThen (.finish _)
        exact hadds.now ▸ ih (client.answer request) (hadds.stop?_eq.trans hopen)
      · simp only [hfree, hlatency, ↓reduceIte]
        intro ends hends
        rw [List.mem_singleton.mp hends, htime request]
  | fork held left right next ihl ihr ih =>
    rw [launch]
    have hleft := launch_adds client left hopen
    have hopen' := hleft.stop?_eq.trans hopen
    dsimp only
    split
    · exact hleft.now ▸ ih _ hopen'
    · have hboth := hleft.andThen (launch_adds client right hopen')
      split
      · have hlast := hboth.andThen (.drop (launch client limits left m).1 _)
        exact hlast.now ▸ ih _ (hlast.stop?_eq.trans hopen)
      · intro ends hends
        rcases mem_flights_fork.mp hends with hl | hr
        · exact ihl hopen ends hl
        · exact hleft.now ▸ ihr hopen' ends hr
  | @gather α n β members next ihm ih =>
    rw [launch]
    have hkeeps : ∀ (i : Fin n) (m' : Moment), m'.now = m.now →
        (launch client limits (members i) m').2.now = m.now := fun i m' hnow =>
      (launch_adds client (members i) (hnow ▸ hopen)).now.trans hnow
    have hswept := fun i : Fin n => sweep_of_mem (fun i m => launch client limits (members i) m) hkeeps
      (mem_placesFrom 0 i) (fun i => (launch client limits (members i) m).1) rfl
    have hnow := sweep_keeps (fun i m => launch client limits (members i) m) hkeeps (placesFrom n 0)
      (fun i => (launch client limits (members i) m).1) rfl
    split
    · exact hnow ▸ ih _ (hnow ▸ hopen)
    · intro ends hends
      obtain ⟨i, hi⟩ := mem_flights_gather.mp hends
      obtain ⟨m', hnow', hmember⟩ := hswept i
      rw [hmember] at hi
      exact hnow' ▸ ihm i (hnow' ▸ hopen) ends hi
  | pause rest ih =>
    rw [launch]
    split
    · exact ih hopen
    · exact fun _ hends => absurd hends List.not_mem_nil

/-- After a round all reads in flight end after their time. -/
theorem resume_flights (htime : client.Takes time) {event : Event}
    (hevent : ∀ stop, event ≠ .stopped stop) {α : Type} (r : Running α)
    (hopen : limits.stop? m.now = none) (h : event.Lands time m.now r.flights) :
    ∀ ends ∈ (resume client limits event r m).1.flights, ends = m.now + time := by
  -- what goes on does so at this instant
  have hgoesOn : ∀ {β : Type} (x : Reading β) {m' : Moment}, m'.now = m.now →
      ∀ ends ∈ (launch client limits x m').1.flights, ends = m.now + time := fun x m' hnow =>
    hnow ▸ launch_flights htime x (hnow ▸ hopen)
  induction r generalizing m with
  | done value => exact fun _ hends => absurd hends List.not_mem_nil
  | paused rest => exact hgoesOn rest rfl
  | waiting ticket request next =>
    cases event with
    | stopped stop => exact absurd rfl (hevent stop)
    | woken | finished =>
      simp only [resume]
      split
      · intro ends hends
        rw [List.mem_singleton.mp hends, htime request]
      · exact fun _ hends => absurd hends List.not_mem_nil
  | inFlight ends request next =>
    cases event with
    | stopped stop => exact absurd rfl (hevent stop)
    | woken =>
      intro other hother
      obtain rfl := List.mem_singleton.mp hother
      exact h _ (List.mem_singleton_self _)
    | finished =>
      obtain rfl : ends = m.now := h ends (List.mem_singleton_self _)
      rw [resume, if_pos (Nat.le_refl _)]
      have hfinish : Moment.Adds limits false m m.finish := .finish m
      exact hgoesOn _ hfinish.now
  | fork held left right next ihl ihr =>
    rw [resume]
    obtain ⟨hlandsl, hlandsr⟩ := Event.Lands.append_iff.mp h
    have hleft := resume_adds client hevent left hopen
    have hopen' := hleft.stop?_eq.trans hopen
    dsimp only
    split
    · have hdropped : Moment.Adds limits false _ _ := hleft.andThen (.drop right _)
      exact hgoesOn _ hdropped.now
    · have hboth := hleft.andThen (resume_adds client hevent right hopen')
      split
      · have hlast := hboth.andThen (.drop (resume client limits event left m).1 _)
        exact hgoesOn _ hlast.now
      · intro ends hends
        rcases mem_flights_fork.mp hends with hl | hr
        · exact ihl hopen hlandsl hgoesOn ends hl
        · exact hleft.now ▸ ihr hopen' (hleft.now ▸ hlandsr) (hleft.now ▸ hgoesOn) ends hr
  | @gather α n β turn members next ih =>
    rw [resume]
    have hkeeps : ∀ (i : Fin n) (m' : Moment), m'.now = m.now →
        (resume client limits event (members i) m').2.now = m.now := fun i m' hnow =>
      (resume_adds client hevent (members i) (hnow ▸ hopen)).now.trans hnow
    have hswept := fun i : Fin n => sweep_of_mem (fun i m => resume client limits event (members i) m)
      hkeeps (mem_placesFrom turn i) members rfl
    have hnow := sweep_keeps (fun i m => resume client limits event (members i) m) hkeeps
      (placesFrom n turn) members rfl
    split
    · exact hgoesOn _ hnow
    · intro ends hends
      obtain ⟨i, hi⟩ := mem_flights_gather.mp hends
      obtain ⟨m', hnow', hmember⟩ := hswept i
      rw [hmember] at hi
      exact hnow' ▸ ih i (hnow' ▸ hopen) (hnow' ▸ h.member i) (hnow' ▸ hgoesOn) ends hi

/-! ### Between rounds -/

theorem landing_mem {α : Type} {r : Running α} (h : r.flights ≠ []) : r.landing m ∈ r.flights := by
  obtain ⟨first, hfirst⟩ := Option.isSome_iff_exists.mp (List.isSome_min?_of_ne_nil h)
  rw [Running.landing, hfirst]
  exact List.min?_mem hfirst

/-- If all reads in flight end at one instant, the first of them do. -/
theorem landing_eq {α : Type} {r : Running α} {instant : Nat} (h : r.flights ≠ [])
    (hall : ∀ ends ∈ r.flights, ends = instant) : r.landing m = instant := hall _ (landing_mem h)

/-- A round that nothing stops lets all reads in flight end, or none, if they were issued at one instant. -/
theorem nextEvent_lands {α : Type} {r : Running α}
    (hopen : ∀ stop, (nextEvent limits r m).1 ≠ .stopped stop)
    (h : ∀ ends ∈ r.flights, ends = m.now + time) :
    (nextEvent limits r m).1.Lands time (nextEvent limits r m).2 r.flights := by
  intro ends hends
  cases hwoken : m.woken with
  | true =>
    rw [nextEvent_of_woken limits r hwoken, if_neg Event.noConfusion]
    exact h ends hends
  | false =>
    rcases nextEvent_of_quiet limits r hwoken with ⟨hnext, -⟩ | ⟨instant, -, -, hnext⟩
    · rw [hnext, if_pos rfl, landing_eq (List.ne_nil_of_mem hends) h]
      exact h ends hends
    · exact absurd (by rw [hnext]) (hopen limits.stopper)

end Reading
end DevicePoll
