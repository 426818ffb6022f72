import DevicePoll.Proofs.Reading.Bounded

/-! Runs come to their ends. Every round brings a program nearer to its end, unless it stops the reads
and is the last one. So every run ends by itself, however long each of its reads takes. The run of an
orderly program ends in the value that it has when its requests are answered one after another, whatever
the number of permits, if all reads take the same time or no program drops another one. -/
namespace DevicePoll.Reading

/-- What a part of a run makes of a program. It is still bounded for the same ends, and its bound
together with what is pending stays within the budget, less the reads that came to their ends. -/
structure Progress (answer : (request : Request) → Outcome request.Reply) (races : Prop) {α : Type}
    (P : α → Prop) (budget ends : Nat) (m : Moment) (out : Running α × Moment) : Prop where
  bounded : ∃ n, out.1.Bounded answer races P n ∧ n + out.2.pending + ends ≤ budget + m.pending
  now : out.2.now = m.now

section Laws
variable {answer : (request : Request) → Outcome request.Reply} {races : Prop} {α : Type}
  {P : α → Prop} {budget budget' ends : Nat} {m m' : Moment} {out : Running α × Moment}

/-- A program that goes on after other parts of the same instant. -/
theorem Progress.after (h : Progress answer races P budget 0 m' out)
    (hpending : m'.pending + ends + budget ≤ budget' + m.pending) (hnow : m'.now = m.now) :
    Progress answer races P budget' ends m out := by
  obtain ⟨n, hbounded, hremaining⟩ := h.bounded
  exact ⟨⟨n, hbounded, by omega⟩, h.now.trans hnow⟩

/-- Members that are visited one after another. `I` is what holds while the given places are still to
be visited. -/
theorem sweep_progress {k : Nat} {β : Fin k → Type}
    {visit : (i : Fin k) → Moment → Running (β i) × Moment} {I : List (Fin k) → Moment → Prop}
    {Q : (i : Fin k) → β i → Prop} {budget ends : Fin k → Nat}
    (hvisit : ∀ i places m, I (i :: places) m →
      Progress answer races (Q i) (budget i) (ends i) m (visit i m) ∧ I places (visit i m).2)
    {places : List (Fin k)} (hnodup : places.Nodup) (members : (i : Fin k) → Running (β i))
    (h : I places m) :
    ∃ bound : Fin k → Nat,
      (∀ i ∈ places, ((sweep visit places members m).1 i).Bounded answer races (Q i) (bound i)) ∧
      (places.map bound).sum + (sweep visit places members m).2.pending + (places.map ends).sum ≤
        (places.map budget).sum + m.pending ∧
      (sweep visit places members m).2.now = m.now := by
  induction places generalizing members m with
  | nil => exact ⟨fun _ => 0, nofun, Nat.le_of_eq (by simp [sweep]), rfl⟩
  | cons i places ih =>
    obtain ⟨hi, hrest⟩ := List.nodup_cons.mp hnodup
    obtain ⟨hvisited, hinvariant⟩ := hvisit i places m h
    obtain ⟨n, hbounded, hremaining⟩ := hvisited.bounded
    obtain ⟨bound, hall, hsum, hnow⟩ :=
      ih hrest (fun j => if h : i = j then h ▸ (visit i m).1 else members j) hinvariant
    -- the places are distinct, so no later visit changes this member or its bound
    have hplace : (sweep visit (i :: places) members m).1 i = (visit i m).1 := by
      rw [sweep, sweep_of_not_mem hi, dif_pos rfl]
    have hother : ∀ j ∈ places, Function.update bound i n j = bound j := fun j hj =>
      Function.update_of_ne (fun hji : j = i => hi (hji ▸ hj)) _ _
    refine ⟨Function.update bound i n, fun j hj => ?_, ?_, hnow.trans hvisited.now⟩
    · rcases List.mem_cons.mp hj with rfl | hlater
      · rw [hplace, Function.update_self]
        exact hbounded
      · rw [hother j hlater]
        exact hall j hlater
    · rw [List.map_cons, List.map_cons, List.map_cons, List.sum_cons, List.sum_cons, List.sum_cons,
        Function.update_self, List.map_congr_left hother, sweep]
      omega

/-- A visit of all members. -/
theorem sweep_all_progress {k : Nat} {β : Fin k → Type}
    {visit : (i : Fin k) → Moment → Running (β i) × Moment} {I : List (Fin k) → Moment → Prop}
    {Q : (i : Fin k) → β i → Prop} {budget ends : Fin k → Nat}
    (hvisit : ∀ i places m, I (i :: places) m →
      Progress answer races (Q i) (budget i) (ends i) m (visit i m) ∧ I places (visit i m).2)
    (turn : Nat) (members : (i : Fin k) → Running (β i)) (h : I (placesFrom k turn) m) :
    ∃ bound : Fin k → Nat,
      (∀ i, ((sweep visit (placesFrom k turn) members m).1 i).Bounded answer races (Q i) (bound i)) ∧
      ∑ i, bound i + (sweep visit (placesFrom k turn) members m).2.pending + ∑ i, ends i ≤
        ∑ i, budget i + m.pending ∧
      (sweep visit (placesFrom k turn) members m).2.now = m.now := by
  obtain ⟨bound, hall, hsum, hnow⟩ := sweep_progress hvisit (nodup_placesFrom k turn) members h
  rw [sum_placesFrom, sum_placesFrom, sum_placesFrom] at hsum
  exact ⟨bound, fun i => hall i (mem_placesFrom turn i), hsum, hnow⟩

theorem Event.ends_flatMap (event : Event) (now : Nat) {k : Nat} (flights : Fin k → List Nat) :
    event.ends now ((List.finRange k).flatMap flights) = ∑ i, event.ends now (flights i) := by
  rw [Fin.sum_univ_def]
  generalize List.finRange k = places
  induction places with
  | nil => exact event.ends_nil now
  | cons i places ih =>
    rw [List.flatMap_cons, Event.ends_append, ih, List.map_cons, List.sum_cons]

variable {client : Client} {limits : Limits} {n : Nat}

/-- A gathering whose members were visited goes on, or ends with all of them. -/
theorem gather_progress {k : Nat} {β : Fin k → Type} {Q : (i : Fin k) → β i → Prop}
    {next : ((i : Fin k) → β i) → Reading α} {bound : Fin k → Nat} {turn : Nat}
    {swept : ((i : Fin k) → Running (β i)) × Moment}
    (hnext : ∀ values, (∀ i, Q i (values i)) → (next values).Bounded client.answer races P n)
    (hlaunch : ∀ values, (∀ i, Q i (values i)) → ∀ m', m'.now = m.now →
      Progress client.answer races P n 0 m' (launch client limits (next values) m'))
    (hall : ∀ i, (swept.1 i).Bounded client.answer races (Q i) (bound i))
    (hremaining : ∑ i, bound i + swept.2.pending + ends ≤ budget + m.pending)
    (hnow : swept.2.now = m.now) :
    Progress client.answer races P (budget + n) ends m
      (match Running.allValues? swept.1 with
        | some values => launch client limits (next values) swept.2
        | none => (.gather turn swept.1 next, swept.2)) := by
  split
  · next values hvalues =>
    have hends : ∀ i, Q i (values i) := by
      intro i
      have hmember := (hall i).settle
      rwa [Running.allValues?_eq_some hvalues i] at hmember
    exact (hlaunch values hends _ hnow).after (by omega) hnow
  · exact ⟨⟨_, .gather hall hnext, by dsimp only; omega⟩, hnow⟩

/-- Two sides that were looked at go on, or come to something. -/
theorem fork_progress {ε β γ : Type} {held : Bool} {next : Except ε (β × γ) → Reading α}
    {left : Running (Except ε β)} {right : Running (Except ε γ)} {k : Nat}
    (hfork : (Running.fork held left right next).Bounded client.answer races P k)
    (hlaunch : ∀ result, left.decided? held right = some result → ∀ last, last.now = m'.now →
      Progress client.answer races P n 0 last (launch client limits (next result) last))
    (hended : m'.pending + ends + n ≤ budget + m.pending)
    (hremaining : k + m'.pending + ends ≤ budget + m.pending) (hnow : m'.now = m.now) :
    Progress client.answer races P budget ends m
      (match left.decided? held right with
        | some result => launch client limits (next result) (left.drop m')
        | none => (.fork held left right next, m')) := by
  split
  · next result hdecided =>
    have hdropped := Moment.pending_drop left m'
    have hadds : m'.Adds limits false (left.drop m') := .drop left m'
    exact (hlaunch result hdecided _ hadds.now).after (by omega) (hadds.now.trans hnow)
  · exact ⟨⟨k, hfork, hremaining⟩, hnow⟩

end Laws

theorem Running.Bounded.decided {answer : (request : Request) → Outcome request.Reply} {races : Prop}
    {ε β γ : Type} {L : Except ε β → Prop} {U : Except ε γ → Prop} {a b : Nat} {held : Bool}
    {left : Running (Except ε β)} {right : Running (Except ε γ)}
    (hleft : left.Bounded answer races L a) (hright : right.Bounded answer races U b)
    {result : Except ε (β × γ)} (hdecided : left.decided? held right = some result) :
    Joins L U result := by
  obtain ⟨b, c, hb, hc, rfl⟩ | ⟨e, -, he, -, rfl⟩ := decided?_eq_some hdecided
  · exact .joined (hleft.of_done hb) (hright.of_done hc)
  · exact .right (hright.of_done he)

/-! ### Parts of a run -/

section Run
variable {client : Client} {limits : Limits} {start : Meter} {load due : Load} {m : Moment} {n : Nat}
  {races : Prop} {time : Nat}

/-- A program that is started stays within its bound. -/
theorem Bounded.launch {α : Type} {P : α → Prop} {x : Reading α} (h : x.Bounded client.answer races P n)
    (hopen : limits.stop? m.now = none) (hclient : races → client.Takes time ∧ time ≠ 0) :
    Progress client.answer races P n 0 m (launch client limits x m) := by
  induction h generalizing m with
  | done hvalue =>
    rw [launch_done]
    exact ⟨⟨0, .done hvalue, by dsimp only; omega⟩, rfl⟩
  | @read α P n request next hnext ih =>
    rw [Reading.launch]
    simp only [Limits.refusal?_open hopen]
    by_cases hfree : m.free = 0
    · simp only [hfree, ↓reduceIte]
      refine ⟨⟨n + 1, .waiting hnext, ?_⟩, rfl⟩
      rw [Moment.pending_enqueue]
      omega
    · by_cases hlatency : client.latency request = 0
      · simp only [hfree, hlatency, ↓reduceIte]
        have hadds : m.Adds limits false (m.take.issue request).finish :=
          (Moment.Adds.takeIssue hopen request).andThen (.finish _)
        have hpending : (m.take.issue request).finish.pending ≤ m.pending := Moment.pending_finish _
        exact (ih (hadds.stop?_eq.trans hopen)).after (by omega) hadds.now
      · simp only [hfree, hlatency, ↓reduceIte]
        refine ⟨⟨n + 1, .inFlight hnext, ?_⟩, rfl⟩
        show n + 1 + m.pending + 0 ≤ n + 2 + m.pending
        omega
  | @group α ε β γ P n held left right next allowed hleft hright hnext ih =>
    obtain ⟨htime, hpos⟩ := hclient allowed
    have hl := hleft.launch (m := m) hopen htime hpos
    have hopen' : limits.stop? (Reading.launch client limits left m).2.now = none := by
      rwa [hl.now]
    have hr := hright.launch hopen' htime hpos
    have hnow := hr.now.trans hl.now
    have hremaining := hl.remaining
    have hremaining' := hr.remaining
    rw [Reading.launch]
    simp only [hl.noError]
    refine fork_progress (n := n)
      (.group allowed hl.inLine hr.inLine (hl.behind hr) (by rwa [hl.settle, hr.settle]))
      (fun result hdecided last hlast => ?_) (by omega) (by omega) hnow
    obtain ⟨b, c, hb, hc, rfl⟩ := Running.done_of_decided? hdecided hr.noError
    have hleftEval : b = left.eval client.answer := by rw [← hl.settle, hb]; rfl
    have hrightEval : c = right.eval client.answer := by rw [← hr.settle, hc]; rfl
    rw [hleftEval, hrightEval]
    exact ih (by rwa [hlast, hnow])
  | @fork α ε β γ P L U a b n held left right next hleft hright hnext ihl ihr ih =>
    have hl := ihl (m := m) hopen
    obtain ⟨a', hleft', hremaining⟩ := hl.bounded
    have hopen' : limits.stop? (Reading.launch client limits left m).2.now = none := by
      rwa [hl.now]
    rw [Reading.launch]
    dsimp only
    split
    · next e herror =>
      exact (ih _ (.left (hleft'.of_error herror)) hopen').after (by omega) hl.now
    · have hr := ihr hopen'
      obtain ⟨b', hright', hremaining'⟩ := hr.bounded
      have hnow := hr.now.trans hl.now
      exact fork_progress (n := n) (.fork hleft' hright' hnext)
        (fun result hdecided last hlast => ih _ (hleft'.decided hright' hdecided) (by rwa [hlast, hnow]))
        (by omega) (by omega) hnow
  | @gather α P k β Q a n members next hmembers hnext ihm ih =>
    have hvisit : ∀ (i : Fin k) (places : List (Fin k)) (m : Moment), limits.stop? m.now = none →
        Progress client.answer races (Q i) (a i) 0 m (Reading.launch client limits (members i) m) ∧
        limits.stop? (Reading.launch client limits (members i) m).2.now = none := by
      intro i places m hopen
      have hmember := ihm i (m := m) hopen
      exact ⟨hmember, by rwa [hmember.now]⟩
    obtain ⟨bound, hall, hsum, hnow⟩ := sweep_all_progress (I := fun _ m => limits.stop? m.now = none)
      hvisit 0 (fun i => (Reading.launch client limits (members i) m).1) hopen
    rw [Reading.launch]
    exact gather_progress hnext (fun values hvalues m' hnow => ih values hvalues (by rwa [hnow])) hall
      (by simpa using hsum) hnow
  | @pause α P n rest hrest ih =>
    rw [Reading.launch]
    split
    · exact (ih hopen).after (by omega) rfl
    · refine ⟨⟨n, .paused hrest, ?_⟩, rfl⟩
      have hwoken : m.woken.toNat ≤ 1 := m.woken.toNat_le
      simp only [Moment.pending, Bool.toNat_true]
      omega

/-- The members at the places that are still to be visited hold what they held before the round. -/
def Visiting (limits : Limits) (start : Meter) (now : Nat) {n : Nat} {β : Fin n → Type}
    (members : (i : Fin n) → Running (β i)) (places : List (Fin n)) (m : Moment) : Prop :=
  m.now = now ∧ ∃ load due, m.Carries limits start (load + (places.map fun i => (members i).load).sum)
    (due + (places.map fun i => (members i).load).sum) 0

/-- A program is carried through a round that nothing stops. -/
theorem Running.Bounded.resume {event : Event} (hevent : ∀ stop, event ≠ .stopped stop)
    (hclient : races → client.Takes time ∧ time ≠ 0) {α : Type} {P : α → Prop} {r : Running α}
    (h : r.Bounded client.answer races P n) (hopen : limits.stop? m.now = none)
    (hcarries : m.Carries limits start (load + r.load) (due + r.load) 0)
    (hlands : races → event.Lands time m.now r.flights) :
    Progress client.answer races P n (event.ends m.now r.flights) m (resume client limits event r m) := by
  induction h generalizing load due m with
  | done hvalue =>
    refine ⟨⟨0, .done hvalue, ?_⟩, rfl⟩
    rw [Running.flights, Event.ends_nil, Reading.resume]
    dsimp only
    omega
  | paused hrest =>
    rw [Running.flights, Event.ends_nil]
    exact hrest.launch hopen hclient
  | @waiting α P n ticket request next hnext =>
    have hvisited : Progress client.answer races P (n + 1) 0 m
        (if ticket ∈ m.granted then
            (.inFlight (m.now + client.latency request) request next, (m.redeem ticket).issue request)
          else (.waiting ticket request next, m)) := by
      split
      · exact ⟨⟨n + 1, .inFlight hnext, Nat.le_refl _⟩, rfl⟩
      · exact ⟨⟨n + 1, .waiting hnext, Nat.le_refl _⟩, rfl⟩
    rw [Running.flights, Event.ends_nil]
    cases event with
    | stopped stop => exact absurd rfl (hevent stop)
    | woken => exact hvisited
    | finished => exact hvisited
  | @inFlight α P n ends request next hnext =>
    cases event with
    | stopped stop => exact absurd rfl (hevent stop)
    | woken => exact ⟨⟨n + 1, .inFlight hnext, Nat.le_refl _⟩, rfl⟩
    | finished =>
      have hends : Event.ends .finished m.now [ends] = if ends ≤ m.now then 1 else 0 := by
        simp [Event.ends, List.countP_cons]
      rw [Running.flights, hends, Reading.resume]
      split
      · have hpending := m.pending_finish
        have hadds : m.Adds limits false m.finish := .finish m
        exact (hnext.launch (by rwa [hadds.now]) hclient).after (by omega) hadds.now
      · exact ⟨⟨n + 1, .inFlight hnext, Nat.le_refl _⟩, rfl⟩
  | @group α ε β γ P n held left right next allowed hleft hright hbehind hnext =>
    obtain ⟨hlandsl, hlandsr⟩ := Event.Lands.append_iff.mp (hlands allowed)
    have hl := hleft.resume client hevent hcarries.split hlandsl
    have hmiddle := resume_carries client event left hcarries.split
    have hr := hright.resume client hevent (hmiddle.of_eq (add_right_comm _ _ _) rfl)
      (hl.now ▸ hlandsr)
    rw [Running.flights]
    rcases hbehind.resume hevent hl hr (hmiddle.of_eq rfl rfl) held next with
      ⟨⟨result, m'⟩, hjoined, hresume⟩ | ⟨hbehind', -, hresume⟩
    · have hpending := hjoined.pending
      have hopen' : limits.stop? m'.now = none := by rwa [hjoined.now]
      rw [← hjoined.result] at hnext
      rw [hresume]
      refine (hnext.launch hopen' hclient).after ?_ hjoined.now
      dsimp only at hpending ⊢
      omega
    · have hremaining := hl.remaining
      have hremaining' := hr.remaining
      have hends := event.ends_append m.now left.flights right.flights
      rw [hl.now] at hremaining'
      rw [hresume]
      rw [← hl.settle, ← hr.settle] at hnext
      refine ⟨⟨_, .group allowed hl.inLine hr.inLine hbehind' hnext, ?_⟩, hr.now.trans hl.now⟩
      dsimp only
      omega
  | @fork α ε β γ P L U a b n held left right next hleft hright hnext ihl ihr =>
    have hl := ihl hopen hcarries.split fun allowed => (Event.Lands.append_iff.mp (hlands allowed)).1
    obtain ⟨a', hleft', hremaining⟩ := hl.bounded
    have hmiddle := resume_carries client event left hcarries.split
    have hopen' : limits.stop? (Reading.resume client limits event left m).2.now = none := by
      rwa [hl.now]
    have hends := event.ends_append m.now left.flights right.flights
    rw [Reading.resume, Running.flights]
    dsimp only
    split
    · next e herror =>
      -- what the dropped side has in flight counts as ended, and is a part of its bound
      have hdropped := Moment.pending_drop right (Reading.resume client limits event left m).2
      have hheld := hright.ends_le event m.now
      have hadds : (Reading.resume client limits event left m).2.Adds limits false _ := .drop right _
      have hnow := hadds.now.trans hl.now
      exact ((hnext _ (.left (hleft'.of_error herror))).launch (by rwa [hnow]) hclient).after (by omega)
        hnow
    · have hr := ihr hopen' (hmiddle.of_eq (add_right_comm _ _ _) rfl) fun allowed =>
        hl.now ▸ (Event.Lands.append_iff.mp (hlands allowed)).2
      obtain ⟨b', hright', hremaining'⟩ := hr.bounded
      have hnow := hr.now.trans hl.now
      rw [hl.now] at hremaining'
      exact fork_progress (n := n) (.fork hleft' hright' hnext) (fun result hdecided last hlast =>
          (hnext _ (hleft'.decided hright' hdecided)).launch (by rwa [hlast, hnow]) hclient)
        (by omega) (by omega) hnow
  | @gather α P k β Q a n turn members next hmembers hnext ih =>
    have hvisit : ∀ (i : Fin k) (places : List (Fin k)) (m' : Moment),
        Visiting limits start m.now members (i :: places) m' →
        Progress client.answer races (Q i) (a i) (event.ends m.now (members i).flights) m'
          (Reading.resume client limits event (members i) m') ∧
        Visiting limits start m.now members places
          (Reading.resume client limits event (members i) m').2 := by
      rintro i places m' ⟨hnow, load, due, hcarries⟩
      rw [List.map_cons, List.sum_cons] at hcarries
      have hmember := ih i (hnow ▸ hopen) hcarries.split fun allowed => hnow ▸ (hlands allowed).member i
      have hcarries' := resume_carries client event (members i) hcarries.split
      exact ⟨hnow ▸ hmember, hmember.now.trans hnow, _, due, hcarries'.of_eq (add_right_comm _ _ _) rfl⟩
    have hready : Visiting limits start m.now members (placesFrom k turn) m := by
      refine ⟨rfl, load, due, ?_⟩
      rw [sum_placesFrom]
      exact hcarries
    obtain ⟨bound, hall, hsum, hnow⟩ := sweep_all_progress hvisit turn members hready
    rw [Reading.resume, Running.flights, Event.ends_flatMap]
    exact gather_progress hnext
      (fun values hvalues m' hnow => (hnext values hvalues).launch (by rwa [hnow]) hclient) hall hsum hnow

/-! ### Rounds -/

/-- Between rounds in which nothing asks for one more, no pause is left, and as many reads are in flight
as there are permits, or all of them. -/
theorem Moment.Carries.flights_eq (h : m.Carries limits start load 0 0) (hwoken : m.woken = false) :
    load.2.2 = 0 ∧ load.2.1 = min load.reads limits.permits := by
  obtain ⟨hgrants, hpauses⟩ := h.due.resolve_left (by simp [hwoken])
  have hgranted : m.granted = [] :=
    List.eq_nil_iff_forall_not_mem.mpr fun t ht => Multiset.notMem_zero t (hgrants t ht)
  have hpermits := h.permits
  have htickets := congrArg Multiset.card h.tickets
  rw [hgranted, List.nil_append, Multiset.coe_card] at htickets
  rw [hgranted, List.length_nil] at hpermits
  refine ⟨Nat.le_zero.mp hpauses, ?_⟩
  unfold Load.reads
  rcases h.busy with hfree | hqueue
  · omega
  · rw [hqueue, List.length_nil] at htickets
    omega

/-- Between rounds in which nothing asks for one more, a program that has not ended has a read in flight:
a read that waited alone would wait for a permit that is free. -/
theorem Moment.Carries.flights_ne_nil {α : Type} {r : Running α}
    (h : m.Carries limits start r.load 0 0) (hawake : r.IsAwake) (hrunning : ∀ value, r ≠ .done value)
    (hwoken : m.woken = false) : r.flights ≠ [] := by
  have hload : r.load ≠ 0 := hawake.resolve_left fun ⟨value, hdone⟩ => hrunning value hdone
  obtain ⟨hpauses, hflights⟩ := h.flights_eq hwoken
  have hreads := Load.reads_ne_zero hload hpauses
  have hpermits := limits.permits_pos
  rw [← List.length_pos_iff, r.length_flights, hflights]
  omega

/-- The first of the reads in flight end. -/
theorem Event.ends_landing {α : Type} {r : Running α} (h : r.flights ≠ []) :
    0 < Event.ends .finished (r.landing m) r.flights := by
  rw [Event.ends, if_pos rfl, List.countP_pos_iff]
  exact ⟨r.landing m, landing_mem h, by simp⟩

/-- A round that nothing stops brings a program nearer to its end. -/
theorem Running.Bounded.step (hclient : races → client.Takes time ∧ time ≠ 0) {α : Type} {P : α → Prop}
    {r : Running α} (h : r.Bounded client.answer races P n) (hawake : r.IsAwake)
    (hrunning : ∀ value, r ≠ .done value) (hcarries : m.Carries limits start r.load 0 0)
    (hflights : races → ∀ ends ∈ r.flights, ends = m.now + time)
    (hevent : ∀ stop, (nextEvent limits r m).1 ≠ .stopped stop)
    (hopen : limits.stop? (nextEvent limits r m).2 = none) :
    limits.stop? (step client limits r m).2.now = none ∧
      (races → ∀ ends ∈ (step client limits r m).1.flights,
        ends = (step client limits r m).2.now + time) ∧
      ∃ n', (step client limits r m).1.Bounded client.answer races P n' ∧
        n' + (step client limits r m).2.pending < n + m.pending := by
  have hready := hcarries.atRound (nextEvent limits r m).2
  have hlands : races → (nextEvent limits r m).1.Lands time (nextEvent limits r m).2 r.flights :=
    fun allowed => nextEvent_lands hevent (hflights allowed)
  have hround := h.resume (m := { m with now := (nextEvent limits r m).2, woken := false }) hevent hclient
    hopen (hready.of_eq (zero_add _).symm (zero_add _).symm) hlands
  obtain ⟨n', hbounded, hremaining⟩ := hround.bounded
  have hnow : (Reading.step client limits r m).2.now = (nextEvent limits r m).2 := hround.now
  refine ⟨hnow ▸ hopen, fun allowed => hnow ▸ ?_, n', hbounded, ?_⟩
  · exact resume_flights (m := { m with now := (nextEvent limits r m).2, woken := false })
      (hclient allowed).1 hevent r hopen (hlands allowed)
  cases hwoken : m.woken with
  | true =>
    -- the round that was asked for is used up
    have hpending : m.pending = m.queue.length + 1 := by rw [Moment.pending, hwoken]; rfl
    rw [Reading.step]
    simp only [Moment.pending, Bool.toNat_false] at hremaining hpending ⊢
    omega
  | false =>
    have hnonempty := hcarries.flights_ne_nil hawake hrunning hwoken
    have hpending : m.pending = m.queue.length := by rw [Moment.pending, hwoken]; rfl
    rcases nextEvent_of_quiet limits r hwoken with ⟨hnext, -⟩ | ⟨instant, -, -, hnext⟩
    · have hends : 0 < (nextEvent limits r m).1.ends (nextEvent limits r m).2 r.flights := by
        rw [hnext]
        exact Event.ends_landing hnonempty
      rw [Reading.step]
      simp only [Moment.pending, Bool.toNat_false] at hremaining hpending ⊢
      omega
    · exact absurd (by rw [hnext]) (hevent limits.stopper)

/-- What holds between rounds of a run: it has ended, or less of it remains after every round. -/
theorem stateAfter_bounded (start : Meter) (hclient : races → client.Takes time ∧ time ≠ 0) {α : Type}
    {P : α → Prop} {x : Reading α} (h : x.Bounded client.answer races P n)
    (hopen : limits.stop? 0 = none) (rounds : Nat) :
    (∃ value, (stateAfter client limits x start rounds).1 = .done value ∧
      (limits.stopAt? = none → P value)) ∨
    (limits.stop? (stateAfter client limits x start rounds).2.now = none ∧
      (races → ∀ ends ∈ (stateAfter client limits x start rounds).1.flights,
        ends = (stateAfter client limits x start rounds).2.now + time) ∧
      ∃ n', (stateAfter client limits x start rounds).1.Bounded client.answer races P n' ∧
        n' + (stateAfter client limits x start rounds).2.pending + rounds ≤ n) := by
  induction rounds with
  | zero =>
    have hlaunch := h.launch (m := begin limits start) hopen hclient
    refine .inr ⟨?_, fun allowed => ?_, hlaunch.bounded⟩
    · rwa [stateAfter, Function.iterate_zero, id, hlaunch.now]
    · rw [stateAfter, Function.iterate_zero, id, hlaunch.now]
      exact launch_flights (hclient allowed).1 x hopen
  | succ rounds ih =>
    have hcarries : (stateAfter client limits x start rounds).2.Carries limits start
        (stateAfter client limits x start rounds).1.load 0 0 := stateAfter_carries x start rounds
    have hawake : (stateAfter client limits x start rounds).1.IsAwake :=
      stateAfter_isAwake x start rounds
    rw [stateAfter_succ]
    generalize stateAfter client limits x start rounds = state at ih hcarries hawake
    obtain ⟨r, m⟩ := state
    dsimp only at ih hcarries hawake
    by_cases hrunning : ∀ value, r ≠ .done value
    · obtain ⟨value, hdone, -⟩ | ⟨hopen', hflights, k, hbounded, hremaining⟩ := ih
      · exact absurd hdone (hrunning value)
      rw [advance_eq hrunning]
      obtain ⟨event, hevent, hnext, hopen''⟩ | ⟨hnext, hstopped⟩ := nextEvent_cases r hopen'
      · obtain ⟨hopened, hflights', k', hbounded', hless⟩ := hbounded.step hclient hawake hrunning
          hcarries hflights (hnext ▸ hevent) hopen''
        exact .inr ⟨hopened, hflights', k', hbounded', by omega⟩
      · -- the round that stops the reads is the last one
        obtain ⟨value, cut, hdone, -, -⟩ :=
          (Running.Ensures.of_forall (P := fun _ _ => True) r fun _ _ => trivial).resume_stopped
            (m := { m with now := (nextEvent limits r m).2, woken := false }) hstopped
        refine .inl ⟨value, by rw [Reading.step, hnext]; exact hdone, fun hnever => ?_⟩
        rw [Limits.stop?_eq_none_iff.mpr (by simp [hnever])] at hstopped
        cases hstopped
    · obtain ⟨value, hdone⟩ := not_forall_not.mp hrunning
      obtain rfl : r = .done value := hdone
      rw [advance_done]
      refine .inl ⟨value, rfl, fun hnever => ?_⟩
      obtain ⟨v, hv, hvalue⟩ | ⟨-, -, k, hbounded, -⟩ := ih
      · cases hv
        exact hvalue hnever
      · exact hbounded.settle

/-! ### Reads that take no time -/

/-- Nothing stops the reads, and all permits are free. -/
def Moment.Vacant (limits : Limits) (m : Moment) : Prop :=
  limits.stop? m.now = none ∧ m.free = limits.permits ∧ m.queue = []

theorem Moment.Vacant.read (h : m.Vacant limits) (request : Request) :
    (m.take.issue request).finish.Vacant limits := by
  obtain ⟨hopen, hfree, hqueue⟩ := h
  have hreleased := Moment.release_of_nil (m :=
    { m.take.issue request with meter := { (m.take.issue request).meter with
        inFlight := (m.take.issue request).meter.inFlight - 1 } }) hqueue
  rw [Moment.finish, hreleased]
  refine ⟨hopen, ?_, hqueue⟩
  show m.free - 1 + 1 = limits.permits
  rw [hfree, Nat.sub_add_cancel limits.permits_pos]

theorem sweep_done {n : Nat} {β : Fin n → Type} {visit : (i : Fin n) → Moment → Running (β i) × Moment}
    {I : Moment → Prop} {value : (i : Fin n) → β i}
    (hvisit : ∀ i m, I m → ∃ m', visit i m = (.done (value i), m') ∧ I m') (places : List (Fin n))
    (members : (i : Fin n) → Running (β i)) (h : I m) :
    (∀ i ∈ places, (sweep visit places members m).1 i = .done (value i)) ∧
      I (sweep visit places members m).2 := by
  induction places generalizing members m with
  | nil => exact ⟨nofun, h⟩
  | cons i places ih =>
    obtain ⟨m', hvisited, hinvariant⟩ := hvisit i m h
    rw [sweep, hvisited]
    obtain ⟨hall, hlast⟩ := ih (fun j => if h : i = j then h ▸ .done (value i) else members j) hinvariant
    refine ⟨fun j hj => ?_, hlast⟩
    by_cases hlater : j ∈ places
    · exact hall j hlater
    · obtain rfl : j = i := (List.mem_cons.mp hj).resolve_right hlater
      rw [sweep_of_not_mem hlater, dif_pos rfl]

/-- When reads take no time, a program comes to its end within the instant at which it is started. -/
theorem launch_instant (htime : client.Takes 0) {α : Type} (x : Reading α) (h : m.Vacant limits) :
    ∃ m', launch client limits x m = (.done (x.eval client.answer), m') ∧ m'.Vacant limits := by
  induction x generalizing m with
  | done value => exact ⟨m, launch_done _ _ _ _, h⟩
  | read request next ih =>
    have hfree : m.free ≠ 0 := h.2.1 ▸ Nat.ne_of_gt limits.permits_pos
    rw [launch]
    simp only [Limits.refusal?_open h.1, hfree, htime request, ↓reduceIte]
    exact ih (client.answer request) (h.read request)
  | fork held left right next ihl ihr ih =>
    obtain ⟨m', hleft, hvacant⟩ := ihl h
    obtain ⟨m'', hright, hvacant'⟩ := ihr hvacant
    rw [launch, eval_fork, hleft]
    cases left.eval client.answer with
    | error e => exact ih (.error e) hvacant
    | ok b =>
      simp only [hright, Running.decided?_done]
      exact ih _ hvacant'
  | @gather α n β members next ihm ih =>
    obtain ⟨hall, hvacant⟩ := sweep_done (fun i m h => ihm i h) (placesFrom n 0)
      (fun i => (launch client limits (members i) m).1) h
    have hvalues := Running.allValues?_done fun i => hall i (mem_placesFrom 0 i)
    rw [launch, eval_gather]
    simp only [hvalues]
    exact ih _ hvacant
  | pause rest ih =>
    rw [launch, if_pos (.inl h.2.1)]
    exact ih h

/-! ### Whole runs -/

variable (start) in
theorem begin_vacant (hopen : limits.stop? 0 = none) : (begin limits start).Vacant limits :=
  ⟨hopen, rfl, rfl⟩

/-- A program that ends when it is started has ended after any number of rounds. -/
theorem stateAfter_of_done {α : Type} {x : Reading α} {value : α}
    (h : launch client limits x (begin limits start) = (.done value, m)) (rounds : Nat) :
    stateAfter client limits x start rounds = (.done value, m) := by
  rw [stateAfter, h]
  exact Function.iterate_fixed (advance_done value m) rounds

variable (start) in
/-- A run ends by itself once it has made more rounds than its bound. If nothing stops the reads, it
comes to one of the ends of the program. -/
theorem Bounded.ends {α : Type} {P : α → Prop} {x : Reading α} (h : x.Bounded client.answer races P n)
    (hclient : races → client.Takes time) {rounds : Nat} (hrounds : n < rounds) :
    ∃ value, (stateAfter client limits x start rounds).1 = .done value ∧
      (limits.stopAt? = none → P value) := by
  cases hstart : limits.stop? 0 with
  | some stop =>
    have hensures : x.Ensures (repliesOf client limits) fun _ _ => True :=
      .of_forall x fun _ _ => trivial
    obtain ⟨value, cut, hdone, -, -⟩ :=
      hensures.launch_stopped (m := begin limits start) (Limits.stop?_zero hstart)
    refine ⟨value, ?_, fun hnever => ?_⟩
    · rw [stateAfter_of_done (Prod.ext hdone rfl)]
    · rw [Limits.stop?_eq_none_iff.mpr (by simp [hnever])] at hstart
      cases hstart
  | none =>
    by_cases hinstant : client.Takes 0
    · obtain ⟨m', hlaunch, -⟩ := launch_instant hinstant x (begin_vacant start hstart)
      exact ⟨_, by rw [stateAfter_of_done hlaunch], fun _ => h.eval⟩
    · have hpositive : races → client.Takes time ∧ time ≠ 0 := fun allowed =>
        ⟨hclient allowed, fun hzero => hinstant (hzero ▸ hclient allowed)⟩
      rcases stateAfter_bounded start hpositive h hstart rounds with hended | ⟨-, -, k, -, hleft⟩
      · exact hended
      · omega

theorem HasEnded.mono {α : Type} {x : Reading α} {rounds more : Nat}
    (h : HasEnded client limits x start rounds) (hmore : rounds ≤ more) :
    HasEnded client limits x start more := by
  obtain ⟨value, hdone⟩ := h
  obtain ⟨extra, rfl⟩ := Nat.exists_eq_add_of_le' hmore
  refine ⟨value, ?_⟩
  rw [stateAfter, Function.iterate_add_apply]
  change ((advance client limits)^[extra] (stateAfter client limits x start rounds)).1 = _
  rw [show stateAfter client limits x start rounds = (.done value, _) from Prod.ext hdone rfl,
    Function.iterate_fixed (advance_done value _)]

/-- Every run ends by itself. -/
theorem exists_ended (client : Client) (limits : Limits) {α : Type} (x : Reading α) (start : Meter) :
    ∃ enough, ∀ rounds, enough ≤ rounds → HasEnded client limits x start rounds := by
  obtain ⟨ends, n, -, hbounded⟩ := exists_bounded client.answer False x
  obtain ⟨value, hdone, -⟩ : ∃ value, (stateAfter client limits x start (n + 1)).1 = .done value ∧
      (limits.stopAt? = none → value ∈ ends) :=
    hbounded.ends start (False.elim : False → client.Takes 0) (Nat.lt_succ_self n)
  exact ⟨n + 1, fun rounds hrounds => HasEnded.mono ⟨value, hdone⟩ hrounds⟩

/-- Two runs have both ended once enough rounds are over. -/
theorem exists_both_ended (client : Client) (limits : Limits) {α β : Type} (x : Reading α)
    (y : Reading β) (start : Meter) : ∃ enough, ∀ rounds, enough ≤ rounds →
      HasEnded client limits x start rounds ∧ HasEnded client limits y start rounds := by
  obtain ⟨enough, hx⟩ := exists_ended client limits x start
  obtain ⟨enough', hy⟩ := exists_ended client limits y start
  exact ⟨max enough enough', fun rounds hrounds =>
    ⟨hx rounds (le_of_max_le_left hrounds), hy rounds (le_of_max_le_right hrounds)⟩⟩

variable (start) in
/-- An orderly program ends in the rounds of its run. If nothing stops the reads, it ends in the value
that it has when its requests are answered one after another. -/
theorem Orderly.ends {α : Type} {x : Reading α} (h : x.Orderly races)
    (hclient : races → client.Takes time) :
    ∃ value, (stateAfter client limits x start (roundsOf client x)).1 = .done value ∧
      (limits.stopAt? = none → value = x.eval client.answer) :=
  h.bounded.ends start hclient (Nat.lt_succ_of_lt (Nat.lt_succ_self _))

end Run
end DevicePoll.Reading
