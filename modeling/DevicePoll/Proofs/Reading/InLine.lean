import DevicePoll.Proofs.Reading.Landing
import DevicePoll.Proofs.Reading.Orderly

/-! Sides of a group that wait in line. Permits are granted first come first served and every read takes
the same time, so the reads of a group start and end in their order. A side that ends in an error finds
every side before it ended, and its error is the first one in that order. -/
namespace DevicePoll.Reading

/-! ### What is left of a run -/

/-- The rounds that are left when every request is answered: one for each read that waits or is in flight,
and those of what goes on. -/
def Running.remaining (answer : (request : Request) → Outcome request.Reply) {α : Type} :
    Running α → Nat
  | done _ => 0
  | paused rest => (rest.tally answer).2
  | waiting _ request next => 1 + ((next (answer request)).tally answer).2
  | inFlight _ request next => 1 + ((next (answer request)).tally answer).2
  | fork _ left right next => left.remaining answer + right.remaining answer +
      ((next (joined (left.settle answer) (right.settle answer))).tally answer).2
  | gather _ members next => ∑ i, (members i).remaining answer +
      ((next fun i => (members i).settle answer).tally answer).2

/-- Tickets that are still to be granted, and the round that a granted one or a pause asks for. -/
def Moment.pending (m : Moment) : Nat := m.queue.length + m.woken.toNat

/-- The reads in flight that a round brings to their ends. -/
def Event.ends (event : Event) (now : Nat) (flights : List Nat) : Nat :=
  if event = .finished then flights.countP (· ≤ now) else 0

namespace Moment
variable {m : Moment}

theorem pending_release (m : Moment) : m.release.pending ≤ m.pending := by
  unfold pending
  cases hqueue : m.queue with
  | nil => rw [release_of_nil hqueue, hqueue]
  | cons ticket queue =>
    rw [release_of_cons hqueue]
    simp only [List.length_cons, Bool.toNat_true]
    omega

theorem pending_finish (m : Moment) : m.finish.pending ≤ m.pending := pending_release _

theorem pending_withdraw (m : Moment) (ticket : Nat) : (m.withdraw ticket).pending ≤ m.pending := by
  unfold withdraw
  split
  · exact pending_release _
  · exact Nat.add_le_add_right List.erase_sublist.length_le _

theorem pending_enqueue (m : Moment) : m.enqueue.pending = m.pending + 1 := by
  simp only [pending, enqueue, List.length_append, List.length_singleton]
  omega

theorem pending_drop {α : Type} (r : Running α) (m : Moment) : (r.drop m).pending ≤ m.pending := by
  induction r generalizing m with
  | done value => exact Nat.le_refl _
  | paused rest => exact Nat.le_refl _
  | waiting ticket request next => exact pending_withdraw m ticket
  | inFlight ends request next => exact pending_finish m
  | fork held left right next ihl ihr => exact (ihr _).trans (ihl m)
  | @gather α n β turn members next ih =>
    have hplaces : ∀ (places : List (Fin n)) (m : Moment),
        (places.foldl (fun m i => (members i).drop m) m).pending ≤ m.pending := by
      intro places
      induction places with
      | nil => exact fun m => Nat.le_refl _
      | cons i places ihplaces => exact fun m => (ihplaces _).trans (ih i m)
    exact hplaces _ m

end Moment

theorem Event.ends_le (event : Event) (now : Nat) (flights : List Nat) :
    event.ends now flights ≤ flights.length := by
  unfold ends
  split
  · exact List.countP_le_length
  · exact Nat.zero_le _

@[simp] theorem Event.ends_nil (event : Event) (now : Nat) : event.ends now [] = 0 := by
  unfold ends
  split <;> rfl

theorem Event.ends_append (event : Event) (now : Nat) (flights more : List Nat) :
    event.ends now (flights ++ more) = event.ends now flights + event.ends now more := by
  unfold ends
  split
  · exact List.countP_append
  · rfl

/-- A round in which the reads in flight land brings all of them to their ends. -/
theorem Event.Lands.ends_eq {time now : Nat} {flights : List Nat}
    (h : Event.Lands .finished time now flights) : Event.ends .finished now flights = flights.length := by
  rw [ends, if_pos rfl, List.countP_eq_length]
  intro ends hends
  rw [decide_eq_true_eq]
  exact Nat.le_of_eq (h ends hends)

/-- Every read that waits or is in flight is one that remains. -/
theorem Running.load_le_remaining (answer : (request : Request) → Outcome request.Reply) {α : Type}
    (r : Running α) : r.load.reads ≤ r.remaining answer := by
  induction r with
  | done value => exact Nat.le_refl 0
  | paused rest => exact Nat.zero_le _
  | waiting ticket request next => exact Nat.le_add_right 1 _
  | inFlight ends request next => exact Nat.le_add_right 1 _
  | fork held left right next ihl ihr =>
    rw [load, remaining, Load.reads_add]
    omega
  | @gather α n β turn members next ih => exact (Load.reads_sum_le ih).trans (Nat.le_add_right _ _)

theorem Running.ends_le_remaining (answer : (request : Request) → Outcome request.Reply) {α : Type}
    (event : Event) (now : Nat) (r : Running α) : event.ends now r.flights ≤ r.remaining answer :=
  calc event.ends now r.flights ≤ r.flights.length := event.ends_le now r.flights
    _ = r.load.2.1 := r.length_flights
    _ ≤ r.load.reads := Nat.le_add_left _ _
    _ ≤ r.remaining answer := r.load_le_remaining answer

/-! ### Sides in line -/

/-- No read of the right side is ahead of one of the left side. -/
structure Running.Behind {ε β γ : Type} (left : Running (Except ε β))
    (right : Running (Except ε γ)) : Prop where
  noErrorLeft : left.error? = none
  noErrorRight : right.error? = none
  idle : left.load.1 ≠ 0 → right.load.2.1 = 0
  later : ∀ s ∈ left.load.1, ∀ t ∈ right.load.1, s < t

/-- A flat program under way whose reads are in flight or wait in their order. -/
inductive Running.InLine : {ε β : Type} → Running (Except ε β) → Prop
  | done {ε β : Type} (result : Except ε β) : InLine (.done result)
  | waiting {ε β : Type} {ticket : Nat} {request : Request}
      {next : Outcome request.Reply → Reading (Except ε β)}
      (ends : ∀ reply, ∃ result, next reply = .done result) : InLine (.waiting ticket request next)
  | inFlight {ε β : Type} {instant : Nat} {request : Request}
      {next : Outcome request.Reply → Reading (Except ε β)}
      (ends : ∀ reply, ∃ result, next reply = .done result) : InLine (.inFlight instant request next)
  | fork {ε ε' β γ δ : Type} {held : Bool} {left : Running (Except ε β)} {right : Running (Except ε γ)}
      {next : Except ε (β × γ) → Reading (Except ε' δ)} (hleft : InLine left)
      (hright : InLine right) (hbehind : left.Behind right)
      (values : ∀ pair, ∃ value, next (.ok pair) = .done (.ok value))
      (errors : ∀ e, ∃ result, next (.error e) = .done result) : InLine (.fork held left right next)

/-- A side that has ended without an error has a value. -/
theorem Running.exists_value {ε β : Type} {result : Except ε β}
    (h : (Running.done result).error? = none) : ∃ b, result = .ok b := by
  cases result with
  | ok b => exact ⟨b, rfl⟩
  | error e => cases h

theorem forall_mem_zero {P : Nat → Prop} : ∀ ticket ∈ (0 : Multiset Nat), P ticket :=
  fun ticket hticket => absurd hticket (Multiset.notMem_zero ticket)

theorem tally_fork_snd (answer : (request : Request) → Outcome request.Reply) {α ε β γ : Type}
    (held : Bool) (left : Reading (Except ε β)) (right : Reading (Except ε γ))
    (next : Except ε (β × γ) → Reading α) :
    ((fork held left right next).tally answer).2 = (left.tally answer).2 + (right.tally answer).2 +
      ((next (joined (left.eval answer) (right.eval answer))).tally answer).2 := by
  rw [← tally_fst, ← tally_fst]
  rfl

theorem total_eq_sum {n : Nat} (counts : Fin n → Nat) :
    total ((List.finRange n).map counts) = ∑ i, counts i := by
  rw [Fin.sum_univ_def]
  rfl

theorem tally_gather_snd (answer : (request : Request) → Outcome request.Reply) {α : Type} {n : Nat}
    {β : Fin n → Type} (members : (i : Fin n) → Reading (β i))
    (next : ((i : Fin n) → β i) → Reading α) :
    ((gather members next).tally answer).2 = ∑ i, ((members i).tally answer).2 +
      ((next fun i => (members i).eval answer).tally answer).2 := by
  rw [tally, total_eq_sum, ← funext fun i => tally_fst answer (members i)]

theorem launch_done (client : Client) (limits : Limits) {α : Type} (value : α) (m : Moment) :
    launch client limits (.done value) m = (.done value, m) := by
  rw [launch]

section Run
variable {client : Client} {limits : Limits} {start : Meter} {load due : Load} {m : Moment} {time : Nat}

/-- How a flat program starts: its tickets are new, and once one of its reads waits no later one gets a
permit. -/
structure Flat.Started (answer : (request : Request) → Outcome request.Reply) {ε β : Type}
    (x : Reading (Except ε β)) (m : Moment) (out : Running (Except ε β) × Moment) : Prop where
  inLine : out.1.InLine
  noError : out.1.error? = none
  settle : out.1.settle answer = x.eval answer
  remaining : out.1.remaining answer + out.2.pending ≤ (x.tally answer).2 + m.pending
  tickets : ∀ t ∈ out.1.load.1, m.nextTicket ≤ t ∧ t < out.2.nextTicket
  nextTicket : m.nextTicket ≤ out.2.nextTicket
  full : m.free = 0 → out.1.load.2.1 = 0 ∧ out.2.free = 0
  waits : out.1.load.1 ≠ 0 → out.2.free = 0
  now : out.2.now = m.now

/-- A right side that is started after the left one is behind it. -/
theorem Flat.Started.behind {ε β γ : Type} {left : Reading (Except ε β)}
    {right : Reading (Except ε γ)} {l : Running (Except ε β) × Moment}
    {r : Running (Except ε γ) × Moment} (hl : Flat.Started client.answer left m l)
    (hr : Flat.Started client.answer right l.2 r) : l.1.Behind r.1 := by
  refine ⟨hl.noError, hr.noError, fun hwaits => (hr.full (hl.waits hwaits)).1, ?_⟩
  intro s hs t ht
  exact (hl.tickets s hs).2.trans_le (hr.tickets t ht).1

theorem Flat.launch {ε β : Type} {x : Reading (Except ε β)} (h : x.Flat)
    (hopen : limits.stop? m.now = none) (htime : client.Takes time) (hpos : time ≠ 0) :
    Flat.Started client.answer x m (launch client limits x m) := by
  induction h generalizing m with
  | done b =>
    rw [launch_done]
    exact ⟨.done _, rfl, rfl, Nat.le_refl _, forall_mem_zero, Nat.le_refl _, fun hfree => ⟨rfl, hfree⟩,
      fun hwaits => absurd rfl hwaits, rfl⟩
  | @read ε β request next ends =>
    rw [Reading.launch]
    simp only [Limits.refusal?_open hopen, htime request, hpos, ↓reduceIte]
    have htally : ((Reading.read request next).tally client.answer).2 =
        ((next (client.answer request)).tally client.answer).2 + 2 := rfl
    split
    · next hfree =>
      refine ⟨.waiting ends, rfl, rfl, ?_, ?_, Nat.le_succ _, fun _ => ⟨rfl, hfree⟩, fun _ => hfree, rfl⟩
      · rw [Moment.pending_enqueue, htally]
        simp only [Running.remaining]
        omega
      · intro t ht
        rw [Multiset.mem_singleton.mp ht]
        exact ⟨Nat.le_refl _, Nat.lt_succ_self _⟩
    · next hfree =>
      refine ⟨.inFlight ends, rfl, rfl, ?_, forall_mem_zero, Nat.le_refl _, fun hzero => absurd hzero hfree,
        fun hwaits => absurd rfl hwaits, rfl⟩
      rw [htally]
      show 1 + ((next (client.answer request)).tally client.answer).2 + m.pending ≤ _
      omega
  | @fork ε ε' β γ δ held left right next hleft hright values errors ihl ihr =>
    have hl := ihl hopen
    have hopen' : limits.stop? (Reading.launch client limits left m).2.now = none := by
      rwa [hl.now]
    have hr := ihr hopen'
    have hremaining := hl.remaining
    have hremaining' := hr.remaining
    rw [Reading.launch]
    simp only [hl.noError]
    split
    · next result hdecided =>
      obtain ⟨b, c, hb, hc, rfl⟩ := Running.done_of_decided? hdecided hr.noError
      obtain ⟨b, rfl⟩ := Running.exists_value (hb ▸ hl.noError)
      obtain ⟨c, rfl⟩ := Running.exists_value (hc ▸ hr.noError)
      obtain ⟨value, hvalue⟩ := values (b, c)
      have hleftEval : left.eval client.answer = .ok b := by rw [← hl.settle, hb]; rfl
      have hrightEval : right.eval client.answer = .ok c := by rw [← hr.settle, hc]; rfl
      rw [joined, hvalue, launch_done, hb, Running.drop]
      refine ⟨.done _, rfl, ?_, ?_, forall_mem_zero, hl.nextTicket.trans hr.nextTicket,
        fun hfree => ⟨rfl, ?_⟩, fun hwaits => absurd rfl hwaits, hr.now.trans hl.now⟩
      · rw [eval_fork, hleftEval, hrightEval, joined, hvalue]
        rfl
      · rw [hb] at hremaining
        rw [hc] at hremaining'
        rw [tally_fork_snd]
        simp only [Running.remaining] at hremaining hremaining' ⊢
        omega
      · exact (hr.full (hl.full hfree).2).2
    · refine ⟨.fork hl.inLine hr.inLine (hl.behind hr) values errors, rfl, ?_, ?_, ?_,
        hl.nextTicket.trans hr.nextTicket, ?_, ?_, hr.now.trans hl.now⟩
      · rw [Running.settle, hl.settle, hr.settle, eval_fork]
      · rw [Running.remaining, hl.settle, hr.settle, tally_fork_snd]
        dsimp only
        omega
      · intro t ht
        rcases Multiset.mem_add.mp ht with hleft | hright
        · exact ⟨(hl.tickets t hleft).1, (hl.tickets t hleft).2.trans_le hr.nextTicket⟩
        · exact ⟨hl.nextTicket.trans (hr.tickets t hright).1, (hr.tickets t hright).2⟩
      · intro hfree
        obtain ⟨hflights, hfull⟩ := hl.full hfree
        obtain ⟨hflights', hfull'⟩ := hr.full hfull
        exact ⟨by rw [Running.load, Prod.snd_add, Prod.fst_add, hflights, hflights'], hfull'⟩
      · intro hwaits
        by_cases hleft : (Reading.launch client limits left m).1.load.1 = 0
        · refine hr.waits fun hright => hwaits ?_
          rw [Running.load, Prod.fst_add, hleft, hright, add_zero]
        · exact (hr.full (hl.waits hleft)).2

/-- What a round does to a side in line. What waits after the round is not granted. A side of which
nothing waits comes to its end, and one of which nothing comes to its end neither fails nor grants. -/
structure Running.Visited (answer : (request : Request) → Outcome request.Reply) (event : Event)
    {ε β : Type} (r : Running (Except ε β)) (m : Moment) (out : Running (Except ε β) × Moment) :
    Prop where
  inLine : out.1.InLine
  settle : out.1.settle answer = r.settle answer
  remaining : out.1.remaining answer + out.2.pending + event.ends m.now r.flights ≤
    r.remaining answer + m.pending
  tickets : out.1.load.1 ≤ r.load.1
  waits : ∀ t ∈ out.1.load.1, t ∈ out.2.queue
  ended : event = .finished → r.load.1 = 0 → ∃ result, out.1 = .done result
  quiet : event = .woken ∨ r.load.2.1 = 0 → r.error? = none →
    out.1.error? = none ∧ out.2.queue = m.queue ∧ (∀ t ∈ out.2.granted, t ∈ m.granted) ∧
      ((∀ t ∈ r.load.1, t ∉ m.granted) → out.1.load.2.1 = r.load.2.1)
  now : out.2.now = m.now

section Sides
variable {event : Event} {ε β γ : Type} {l : Running (Except ε β)} {r : Running (Except ε γ)}
  {l' : Running (Except ε β) × Moment} {r' : Running (Except ε γ) × Moment}

/-- If the right side fails in a round, the left side has ended in a value. -/
theorem Running.Behind.value_of_error (hbehind : l.Behind r)
    (hevent : ∀ stop, event ≠ .stopped stop) (hl : l.Visited client.answer event m l')
    (hr : r.Visited client.answer event l'.2 r') (hleft : l'.1.error? = none) {e : ε}
    (herror : r'.1.error? = some e) : ∃ b, l'.1 = .done (.ok b) := by
  have hloud : ¬(event = .woken ∨ r.load.2.1 = 0) := by
    intro hquiet
    rw [(hr.quiet hquiet hbehind.noErrorRight).1] at herror
    cases herror
  obtain ⟨hwoken, hflights⟩ := not_or.mp hloud
  have hfinished : event = .finished := by
    cases event with
    | woken => exact absurd rfl hwoken
    | finished => rfl
    | stopped stop => exact absurd rfl (hevent stop)
  obtain ⟨result, hdone⟩ := hl.ended hfinished (not_not.mp (mt hbehind.idle hflights))
  rw [hdone] at hleft
  obtain ⟨b, rfl⟩ := exists_value hleft
  exact ⟨b, hdone⟩

/-- While the left side waits, the right side is quiet. -/
theorem Running.Behind.quiet_of_waits (hbehind : l.Behind r)
    (hl : l.Visited client.answer event m l') (hr : r.Visited client.answer event l'.2 r')
    (hcarries : l'.2.Carries limits start load due 0) (hwaits : l'.1.load.1 ≠ 0) :
    r'.1.load.2.1 = 0 ∧ r'.2.queue = l'.2.queue := by
  obtain ⟨t, ht⟩ := Multiset.exists_mem_of_ne_zero hwaits
  have htl : t ∈ l.load.1 := Multiset.mem_of_le hl.tickets ht
  have hidle : r.load.2.1 = 0 := hbehind.idle fun hzero => by rw [hzero] at htl; simp at htl
  obtain ⟨-, hqueue, -, hflights⟩ := hr.quiet (.inr hidle) hbehind.noErrorRight
  -- a ticket of the right side is behind one that is still in the queue, so it is not granted
  have hnotGranted : ∀ s ∈ r.load.1, s ∉ l'.2.granted := by
    intro s hs hgranted
    have hlt : t < s := hbehind.later t htl s hs
    have hgt : s < t := (List.pairwise_append.mp hcarries.ascending).2.2 s hgranted t (hl.waits t ht)
    omega
  exact ⟨(hflights hnotGranted).trans hidle, hqueue⟩

theorem Running.Behind.visited (hbehind : l.Behind r) (hl : l.Visited client.answer event m l')
    (hr : r.Visited client.answer event l'.2 r')
    (hcarries : l'.2.Carries limits start load due 0) (hleft : l'.1.error? = none)
    (hright : r'.1.error? = none) : l'.1.Behind r'.1 := by
  refine ⟨hleft, hright, fun hwaits => (hbehind.quiet_of_waits hl hr hcarries hwaits).1, ?_⟩
  intro s hs t ht
  exact hbehind.later s (Multiset.mem_of_le hl.tickets hs) t (Multiset.mem_of_le hr.tickets ht)

/-- A group of which nothing comes to its end goes on as it was. -/
theorem Running.Behind.quiet (hbehind : l.Behind r) (hl : l.Visited client.answer event m l')
    (hr : r.Visited client.answer event l'.2 r')
    (hquiet : event = .woken ∨ l.load.2.1 + r.load.2.1 = 0) :
    (l'.1.error? = none ∧ r'.1.error? = none) ∧ r'.2.queue = m.queue ∧
      (∀ t ∈ r'.2.granted, t ∈ m.granted) ∧
      ((∀ t ∈ l.load.1 + r.load.1, t ∉ m.granted) →
        l'.1.load.2.1 + r'.1.load.2.1 = l.load.2.1 + r.load.2.1) := by
  obtain ⟨hnone, hqueue, hgranted, hflights⟩ :=
    hl.quiet (hquiet.imp_right fun hzero => (Nat.add_eq_zero_iff.mp hzero).1) hbehind.noErrorLeft
  obtain ⟨hnone', hqueue', hgranted', hflights'⟩ :=
    hr.quiet (hquiet.imp_right fun hzero => (Nat.add_eq_zero_iff.mp hzero).2) hbehind.noErrorRight
  refine ⟨⟨hnone, hnone'⟩, hqueue'.trans hqueue, fun t ht => hgranted t (hgranted' t ht), fun hnot => ?_⟩
  have hleft : ∀ t ∈ l.load.1, t ∉ m.granted := fun t ht => hnot t (Multiset.mem_add.mpr (.inl ht))
  have hright : ∀ t ∈ r.load.1, t ∉ l'.2.granted := fun t ht hmem =>
    hnot t (Multiset.mem_add.mpr (.inr ht)) (hgranted t hmem)
  rw [hflights hleft, hflights' hright]

/-- Two sides in line that come to their ends in a round, as if one were run after the other. -/
structure Running.Joined (answer : (request : Request) → Outcome request.Reply) (event : Event)
    (l : Running (Except ε β)) (r : Running (Except ε γ)) (m : Moment)
    (out : Except ε (β × γ) × Moment) : Prop where
  result : out.1 = joined (l.settle answer) (r.settle answer)
  pending : out.2.pending + event.ends m.now (l.flights ++ r.flights) ≤
    l.remaining answer + r.remaining answer + m.pending
  quiet : event = .woken ∨ l.load.2.1 + r.load.2.1 = 0 →
    (∃ pair, out.1 = .ok pair) ∧ out.2.queue = m.queue ∧ (∀ t ∈ out.2.granted, t ∈ m.granted) ∧
      ((∀ t ∈ l.load.1 + r.load.1, t ∉ m.granted) → 0 = l.load.2.1 + r.load.2.1)
  now : out.2.now = m.now

/-- In a round that nothing stops, two sides in line come to their ends together, or both go on. -/
theorem Running.Behind.resume (hbehind : l.Behind r) (hevent : ∀ stop, event ≠ .stopped stop)
    (hl : l.Visited client.answer event m (resume client limits event l m))
    (hr : r.Visited client.answer event (resume client limits event l m).2
      (resume client limits event r (resume client limits event l m).2))
    (hcarries : (resume client limits event l m).2.Carries limits start load due 0)
    {α : Type} (held : Bool) (next : Except ε (β × γ) → Reading α) :
    (∃ out, l.Joined client.answer event r m out ∧
      resume client limits event (.fork held l r next) m = launch client limits (next out.1) out.2) ∨
    ((resume client limits event l m).1.Behind
        (resume client limits event r (resume client limits event l m).2).1 ∧
      (resume client limits event l m).1.decided? held
        (resume client limits event r (resume client limits event l m).2).1 = none ∧
      resume client limits event (.fork held l r next) m =
        (.fork held (resume client limits event l m).1
          (resume client limits event r (resume client limits event l m).2).1 next,
        (resume client limits event r (resume client limits event l m).2).2)) := by
  have hremaining := hl.remaining
  have hremaining' := hr.remaining
  have hends := event.ends_append m.now l.flights r.flights
  rw [hl.now] at hremaining'
  rw [Reading.resume]
  dsimp only
  split
  · next e herror =>
    -- what the dropped side has in flight counts as ended, and is a part of what it had left
    have hdropped := Moment.pending_drop r (Reading.resume client limits event l m).2
    have hheld := r.ends_le_remaining client.answer event m.now
    have hadds : (Reading.resume client limits event l m).2.Adds limits false
        (r.drop (Reading.resume client limits event l m).2) := .drop r _
    refine .inl ⟨(.error e, _), ⟨?_, ?_, fun hquiet => ?_, hadds.now.trans hl.now⟩, rfl⟩
    · rw [← hl.settle, eq_done_of_error? herror]
      rfl
    · dsimp only
      omega
    · rw [(hbehind.quiet hl hr hquiet).1.1] at herror
      cases herror
  · next hnoError =>
    split
    · next result hdecided =>
      -- an error of the right side finds the left one ended, so that both have
      obtain ⟨b, c, hb, hc, rfl⟩ : ∃ b c, (Reading.resume client limits event l m).1 = .done b ∧
          (Reading.resume client limits event r (Reading.resume client limits event l m).2).1 = .done c ∧
          result = joined b c := by
        refine (decided?_eq_some hdecided).resolve_right ?_
        rintro ⟨e, hnone, herror, -, -⟩
        obtain ⟨b, hb⟩ := hbehind.value_of_error hevent hl hr hnoError (by rw [herror]; rfl)
        rw [hb] at hnone
        cases hnone
      refine .inl ⟨(joined b c, (Reading.resume client limits event r
        (Reading.resume client limits event l m).2).2),
        ⟨?_, ?_, fun hquiet => ?_, hr.now.trans hl.now⟩, by rw [hb, Running.drop]⟩
      · rw [← hl.settle, ← hr.settle, hb, hc]
        rfl
      · dsimp only
        omega
      · obtain ⟨⟨hnone, hnone'⟩, hqueue, hgranted, hflights⟩ := hbehind.quiet hl hr hquiet
        rw [hb] at hnone hflights
        rw [hc] at hnone' hflights
        obtain ⟨b, rfl⟩ := exists_value hnone
        obtain ⟨c, rfl⟩ := exists_value hnone'
        exact ⟨⟨(b, c), rfl⟩, hqueue, hgranted, hflights⟩
    · next hopen =>
      have hnoError' : (Reading.resume client limits event r
          (Reading.resume client limits event l m).2).1.error? = none := by
        refine Option.eq_none_iff_forall_ne_some.mpr fun e herror => ?_
        obtain ⟨b, hb⟩ := hbehind.value_of_error hevent hl hr hnoError herror
        rw [hb, eq_done_of_error? herror] at hopen
        cases hopen
      exact .inr ⟨hbehind.visited hl hr hcarries hnoError hnoError', hopen, rfl⟩

end Sides

variable (client) in
/-- A side in line is carried through a round that nothing stops. -/
theorem Running.InLine.resume {event : Event} (hevent : ∀ stop, event ≠ .stopped stop) {ε β : Type}
    {r : Running (Except ε β)} (h : r.InLine)
    (hcarries : m.Carries limits start (load + r.load) (due + r.load) 0)
    (hlands : event.Lands time m.now r.flights) :
    r.Visited client.answer event m (resume client limits event r m) := by
  induction h generalizing load due m with
  | done result =>
    rw [Reading.resume]
    refine ⟨.done result, rfl, ?_, le_refl _, forall_mem_zero, fun _ _ => ⟨result, rfl⟩,
      fun _ hnone => ⟨hnone, rfl, fun _ ht => ht, fun _ => rfl⟩, rfl⟩
    exact Nat.le_of_eq (by rw [Running.flights, Event.ends_nil, Nat.add_zero])
  | @waiting ε β ticket request next ends =>
    have hvisited : Running.Visited client.answer event (.waiting ticket request next) m
        (if ticket ∈ m.granted then
            (.inFlight (m.now + client.latency request) request next, (m.redeem ticket).issue request)
          else (.waiting ticket request next, m)) := by
      split
      · next hgranted =>
        refine ⟨.inFlight ends, rfl, ?_, Multiset.zero_le _, forall_mem_zero, fun _ hnone => ?_,
          fun _ _ => ⟨rfl, rfl, fun t ht => List.mem_of_mem_erase ht, fun hnot => ?_⟩, rfl⟩
        · rw [Running.flights, Event.ends_nil]
          exact Nat.le_refl _
        · simp [Running.load] at hnone
        · exact absurd hgranted (hnot ticket (Multiset.mem_singleton_self ticket))
      · next hgranted =>
        refine ⟨.waiting ends, rfl, ?_, le_refl _, fun t ht => ?_, fun _ hnone => ?_,
          fun _ hnone => ⟨hnone, rfl, fun _ ht => ht, fun _ => rfl⟩, rfl⟩
        · rw [Running.flights, Event.ends_nil]
          exact Nat.le_refl _
        · obtain rfl : t = ticket := Multiset.mem_singleton.mp ht
          have hline : t ∈ m.granted ++ m.queue := by
            rw [← Multiset.mem_coe, hcarries.tickets]
            exact Multiset.mem_add.mpr (.inr ht)
          exact (List.mem_append.mp hline).resolve_left hgranted
        · simp [Running.load] at hnone
    cases event with
    | stopped stop => exact absurd rfl (hevent stop)
    | woken => exact hvisited
    | finished => exact hvisited
  | @inFlight ε β instant request next ends =>
    cases event with
    | stopped stop => exact absurd rfl (hevent stop)
    | woken =>
      exact ⟨.inFlight ends, rfl, Nat.le_refl _, le_refl _, forall_mem_zero,
        fun hfinished => absurd hfinished (by decide),
        fun _ hnone => ⟨hnone, rfl, fun _ ht => ht, fun _ => rfl⟩, rfl⟩
    | finished =>
      obtain rfl : instant = m.now := hlands instant (List.mem_singleton_self _)
      obtain ⟨result, hresult⟩ := ends (client.answer request)
      rw [Reading.resume, if_pos (Nat.le_refl _), hresult, launch_done]
      refine ⟨.done result, ?_, ?_, Multiset.zero_le _, forall_mem_zero, fun _ _ => ⟨result, rfl⟩,
        fun hquiet => ?_, ?_⟩
      · rw [Running.settle, Running.settle, hresult, eval_done]
      · have hpending := m.pending_finish
        have hend : Event.ends .finished m.now [m.now] = 1 := by simp [Event.ends]
        simp only [Running.remaining, Running.flights, hend]
        omega
      · simp [Running.load] at hquiet
      · have hadds : m.Adds limits false m.finish := .finish m
        exact hadds.now
  | @fork ε ε' β γ δ held left right next hleft hright hbehind values errors ihl ihr =>
    obtain ⟨hlandsl, hlandsr⟩ := Event.Lands.append_iff.mp hlands
    have hl := ihl hcarries.split hlandsl
    have hmiddle : (Reading.resume client limits event left m).2.Carries limits start
        (load + (Reading.resume client limits event left m).1.load + right.load)
        (due + right.load) 0 :=
      (resume_carries client event left hcarries.split).of_eq (by abel) rfl
    have hr := ihr hmiddle (hl.now ▸ hlandsr)
    have hends := event.ends_append m.now left.flights right.flights
    rcases hbehind.resume hevent hl hr hmiddle held next with
      ⟨⟨result, m'⟩, hjoined, hresume⟩ | ⟨hbehind', hopen, hresume⟩
    · obtain ⟨final, hfinal⟩ : ∃ final, next result = .done final := by
        cases result with
        | ok pair => exact (values pair).elim fun value hvalue => ⟨.ok value, hvalue⟩
        | error e => exact errors e
      have hpending := hjoined.pending
      dsimp only at hpending
      rw [hresume, hfinal, launch_done]
      refine ⟨.done final, ?_, ?_, Multiset.zero_le _, forall_mem_zero, fun _ _ => ⟨final, rfl⟩,
        fun hquiet _ => ?_, hjoined.now⟩
      · rw [Running.settle, Running.settle, ← hjoined.result, hfinal, eval_done]
      · simp only [Running.remaining, Running.flights]
        omega
      · obtain ⟨⟨pair, rfl⟩, hquiets⟩ := hjoined.quiet hquiet
        obtain ⟨value, hvalue⟩ := values pair
        obtain rfl : .ok value = final := Reading.done.inj (hvalue.symm.trans hfinal)
        exact ⟨rfl, hquiets⟩
    · rw [hresume]
      refine ⟨.fork hl.inLine hr.inLine hbehind' values errors, ?_, ?_,
        add_le_add hl.tickets hr.tickets, fun t ht => ?_, fun hfinished hnone => ?_,
        fun hquiet _ => ⟨rfl, (hbehind.quiet hl hr hquiet).2⟩, hr.now.trans hl.now⟩
      · rw [Running.settle, hl.settle, hr.settle, Running.settle]
      · have hremaining := hl.remaining
        have hremaining' := hr.remaining
        rw [hl.now] at hremaining'
        rw [Running.flights, hends]
        simp only [Running.remaining, hl.settle, hr.settle]
        omega
      · rcases Multiset.mem_add.mp ht with hin | hin
        · have hwaits : (Reading.resume client limits event left m).1.load.1 ≠ 0 := by
            intro hzero
            rw [hzero] at hin
            exact Multiset.notMem_zero t hin
          rw [(hbehind.quiet_of_waits hl hr hmiddle hwaits).2]
          exact hl.waits t hin
        · exact hr.waits t hin
      · -- both sides have come to their ends, so their values are known
        have hleft : left.load.1 ≤ 0 := (Multiset.le_add_right _ _).trans_eq hnone
        have hright : right.load.1 ≤ 0 := (Multiset.le_add_left _ _).trans_eq hnone
        obtain ⟨result, hresult⟩ := hl.ended hfinished (Multiset.le_zero.mp hleft)
        obtain ⟨result', hresult'⟩ := hr.ended hfinished (Multiset.le_zero.mp hright)
        rw [hresult, hresult'] at hopen
        cases hopen

end Run
end DevicePoll.Reading
