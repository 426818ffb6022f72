import DevicePoll.Proofs.Reading.Progress
import Mathlib.Algebra.Order.Floor.Div

/-! Reads in waves. When nothing is read after a read and all that is read can be used, every read of a
program is asked for at the instant of its start, and if all reads take the same time, none ends before the
others that are in flight with it. So the reads run in waves of as many as there are permits, and a
deadline lets the program end exactly if it comes after the last of them. -/
namespace DevicePoll

/-- What a meter has recorded since another one: what is in flight was in flight before or was issued
since, and the peak has seen all of it and nothing else. -/
structure Meter.Since (before after : Meter) : Prop where
  reads : before.reads ≤ after.reads
  flights : after.inFlight + before.reads ≤ before.inFlight + after.reads
  kept : before.peak ≤ after.peak
  seen : after.inFlight ≤ max before.inFlight after.peak
  bounded : after.peak ≤ max before.peak (before.inFlight + (after.reads - before.reads))

namespace Meter.Since
variable {a b c : Meter}

theorem refl (a : Meter) : a.Since a :=
  ⟨Nat.le_refl _, Nat.le_refl _, Nat.le_refl _, Nat.le_max_left _ _, Nat.le_max_left _ _⟩

theorem trans (hab : a.Since b) (hbc : b.Since c) : a.Since c := by
  obtain ⟨hreads, hflights, hkept, hseen, hbounded⟩ := hab
  obtain ⟨hreads', hflights', hkept', hseen', hbounded'⟩ := hbc
  constructor <;> omega

end Meter.Since

namespace Reading

/-! ### Fruitful programs -/

/-- A failure other than one of finding nothing ends the program in a failure of its kind. -/
def PassesOn {β γ : Type} (next : Outcome β → Reading (Outcome γ)) : Prop :=
  ∀ failure : Failure, failure.kind ≠ .notFound →
    ∃ failure', next (.error failure) = .done (.error failure') ∧ failure'.kind = failure.kind

/-- No read follows another one, there are so many of them, and every answer is made into a value. -/
inductive Fruitful (answer : (request : Request) → Outcome request.Reply) :
    {β : Type} → Nat → Reading (Outcome β) → Prop
  | done {β : Type} (b : β) : Fruitful answer 0 (.done (.ok b))
  | read {β : Type} {request : Request} {next : Outcome request.Reply → Reading (Outcome β)}
      (answered : ∃ b, next (answer request) = .done (.ok b)) (passesOn : PassesOn next) :
      Fruitful answer 1 (.read request next)
  | fork {β γ δ : Type} {held : Bool} {n k : Nat} {left : Reading (Outcome β)}
      {right : Reading (Outcome γ)} {next : Outcome (β × γ) → Reading (Outcome δ)}
      (hleft : Fruitful answer n left) (hright : Fruitful answer k right)
      (values : ∀ pair, ∃ d, next (.ok pair) = .done (.ok d)) (passesOn : PassesOn next) :
      Fruitful answer (n + k) (.fork held left right next)
  | pause {β : Type} {n : Nat} {rest : Reading (Outcome β)} (hrest : Fruitful answer n rest) :
      Fruitful answer n (.pause rest)

/-- The same of a program under way, with the number of reads that are still to be asked for. -/
inductive Running.Fruitful (answer : (request : Request) → Outcome request.Reply) :
    {β : Type} → Nat → Running (Outcome β) → Prop
  | done {β : Type} (b : β) : Fruitful answer 0 (.done (.ok b))
  | paused {β : Type} {n : Nat} {rest : Reading (Outcome β)} (hrest : rest.Fruitful answer n) :
      Fruitful answer n (.paused rest)
  | waiting {β : Type} {ticket : Nat} {request : Request}
      {next : Outcome request.Reply → Reading (Outcome β)}
      (answered : ∃ b, next (answer request) = .done (.ok b)) (passesOn : PassesOn next) :
      Fruitful answer 0 (.waiting ticket request next)
  | inFlight {β : Type} {ends : Nat} {request : Request}
      {next : Outcome request.Reply → Reading (Outcome β)}
      (answered : ∃ b, next (answer request) = .done (.ok b)) (passesOn : PassesOn next) :
      Fruitful answer 0 (.inFlight ends request next)
  | fork {β γ δ : Type} {held : Bool} {n k : Nat} {left : Running (Outcome β)}
      {right : Running (Outcome γ)} {next : Outcome (β × γ) → Reading (Outcome δ)}
      (hleft : Fruitful answer n left) (hright : Fruitful answer k right)
      (values : ∀ pair, ∃ d, next (.ok pair) = .done (.ok d)) (passesOn : PassesOn next) :
      Fruitful answer (n + k) (.fork held left right next)

section Laws
variable {answer : (request : Request) → Outcome request.Reply} {β γ : Type} {n : Nat}

/-- What turns values into values and failures into failures of their kind, except for those of finding
nothing. -/
structure Preserves (f : Outcome β → Outcome γ) : Prop where
  values : ∀ b, ∃ c, f (.ok b) = .ok c
  kinds : ∀ failure : Failure, failure.kind ≠ .notFound →
    ∃ failure', f (.error failure) = .error failure' ∧ failure'.kind = failure.kind

theorem PassesOn.map {α : Type} {next : Outcome α → Reading (Outcome β)} (h : PassesOn next)
    {f : Outcome β → Outcome γ} (hf : Preserves f) :
    PassesOn fun outcome => next outcome >>= fun result => .done (f result) := by
  intro failure hkind
  obtain ⟨failure', hnext, hsame⟩ := h failure hkind
  obtain ⟨failure'', hfailed, hsame'⟩ := hf.kinds failure' (hsame ▸ hkind)
  refine ⟨failure'', ?_, hsame'.trans hsame⟩
  simp only [hnext, done_bind, hfailed]

theorem Fruitful.map {x : Reading (Outcome β)} (h : x.Fruitful answer n) {f : Outcome β → Outcome γ}
    (hf : Preserves f) : (x >>= fun outcome => .done (f outcome)).Fruitful answer n := by
  induction h with
  | done b =>
    obtain ⟨c, hc⟩ := hf.values b
    rw [done_bind, hc]
    exact .done c
  | read answered passesOn =>
    obtain ⟨b, hb⟩ := answered
    obtain ⟨c, hc⟩ := hf.values b
    refine .read ⟨c, ?_⟩ (passesOn.map hf)
    rw [hb, bind, hc]
  | fork hleft hright values passesOn =>
    refine .fork hleft hright (fun pair => ?_) (passesOn.map hf)
    obtain ⟨d, hd⟩ := values pair
    obtain ⟨c, hc⟩ := hf.values d
    exact ⟨c, by rw [hd, bind, hc]⟩
  | pause _ ih => exact .pause (ih hf)

/-- A fruitful program comes to a value within the rounds of its reads and pauses, however long each read
takes. -/
theorem Fruitful.bounded {x : Reading (Outcome β)} (h : x.Fruitful answer n) :
    x.Bounded answer False (fun outcome => ∃ b, outcome = .ok b) (x.tally answer).2 := by
  induction h with
  | done b => exact .done ⟨b, rfl⟩
  | @read β request next answered passesOn =>
    obtain ⟨b, hb⟩ := answered
    have hlast : (next (answer request)).Bounded answer False (fun outcome => ∃ b, outcome = .ok b) 0 :=
      hb ▸ .done ⟨b, rfl⟩
    exact hlast.read.mono (Nat.add_le_add_right (Nat.zero_le _) 2) fun _ hvalue => hvalue
  | @fork β γ δ held n k left right next _ _ values _ ihl ihr =>
    have hlast : ∀ result, Joins (fun outcome => ∃ b, outcome = .ok b) (fun outcome => ∃ c, outcome = .ok c)
        result → (next result).Bounded answer False (fun outcome => ∃ d, outcome = .ok d) 0 := by
      rintro result (⟨⟨b, hb⟩⟩ | ⟨⟨c, hc⟩⟩ | ⟨-, -⟩)
      · cases hb
      · cases hc
      · obtain ⟨d, hd⟩ := values _
        exact hd ▸ .done ⟨d, rfl⟩
    rw [tally_fork_snd]
    exact (Bounded.fork ihl ihr hlast).mono (Nat.le_add_right _ _) fun _ hvalue => hvalue
  | pause _ ih => exact ih.pause

theorem Running.Fruitful.noError {r : Running (Outcome β)} (h : r.Fruitful answer n) :
    r.error? = none := by
  cases h <;> rfl

theorem Running.Fruitful.of_done {value : Outcome β} (h : (Running.done value).Fruitful answer n) :
    n = 0 ∧ ∃ b, value = .ok b := by
  cases h with
  | done b => exact ⟨rfl, b, rfl⟩

/-- Without a pause everything has been asked for. -/
theorem Running.Fruitful.asked {r : Running (Outcome β)} (h : r.Fruitful answer n)
    (hpauses : r.load.2.2 = 0) : n = 0 := by
  induction h with
  | done => rfl
  | paused => cases hpauses
  | waiting => rfl
  | inFlight => rfl
  | fork _ _ _ _ ihl ihr =>
    obtain ⟨hleft, hright⟩ := Nat.add_eq_zero_iff.mp hpauses
    rw [ihl hleft, ihr hright]

end Laws

/-! ### Parts of a run -/

namespace Moment

theorem meter_release (m : Moment) : m.release.meter = m.meter := by
  unfold release
  cases m.queue <;> rfl

theorem since_issue (m : Moment) (request : Request) : m.meter.Since (m.issue request).meter := by
  constructor <;> simp only [issue, Meter.reads, List.length_cons] <;> omega

theorem since_finish (m : Moment) : m.meter.Since m.finish.meter := by
  rw [finish, meter_release]
  constructor <;> simp only [Meter.reads] <;> omega

end Moment

/-- What a part of a run makes of a fruitful program. Of so many `reads` that it had, so many were
`unissued`, and so many came to their `ends`. -/
structure Handled (answer : (request : Request) → Outcome request.Reply) {β : Type}
    (reads unissued ends : Nat) (m : Moment) (out : Running (Outcome β) × Moment) : Prop where
  left : ∃ unasked, out.1.Fruitful answer unasked ∧ out.1.load.reads + unasked + ends = reads ∧
    out.2.meter.reads + out.1.load.1.card + unasked = m.meter.reads + unissued
  now : out.2.now = m.now
  since : m.meter.Since out.2.meter

section Run
variable {client : Client} {limits : Limits} {m : Moment} {β γ δ : Type} {time : Nat}

theorem Handled.noError {answer : (request : Request) → Outcome request.Reply} {reads unissued ends : Nat}
    {out : Running (Outcome β) × Moment} (h : Handled answer reads unissued ends m out) :
    out.1.error? = none := by
  obtain ⟨_, hfruitful, -, -⟩ := h.left
  exact hfruitful.noError

/-- A program that has ended in a value. -/
theorem Handled.done (answer : (request : Request) → Outcome request.Reply) (b : β) (m : Moment) :
    Handled answer 0 0 0 m (.done (.ok b), m) :=
  ⟨⟨0, .done b, rfl, rfl⟩, rfl, .refl _⟩

section Sides
variable {answer : (request : Request) → Outcome request.Reply}
  {reads reads' unissued unissued' ends ends' : Nat} {l : Running (Outcome β) × Moment}
  {r : Running (Outcome γ) × Moment} {next : Outcome (β × γ) → Reading (Outcome δ)}

/-- Two sides that were looked at go on. -/
theorem Handled.fork (held : Bool) (hl : Handled answer reads unissued ends m l)
    (hr : Handled answer reads' unissued' ends' l.2 r)
    (values : ∀ pair, ∃ d, next (.ok pair) = .done (.ok d)) (passesOn : PassesOn next) :
    Handled answer (reads + reads') (unissued + unissued') (ends + ends') m
      (.fork held l.1 r.1 next, r.2) where
  left := by
    obtain ⟨n, hleft, hreads, hissued⟩ := hl.left
    obtain ⟨k, hright, hreads', hissued'⟩ := hr.left
    refine ⟨n + k, .fork hleft hright values passesOn, ?_, ?_⟩
    · rw [Running.load, Load.reads_add]
      omega
    · rw [Running.load, Prod.fst_add, Multiset.card_add]
      dsimp only
      omega
  now := hr.now.trans hl.now
  since := hl.since.trans hr.since

/-- Two sides that were looked at end together. -/
theorem Handled.join {held : Bool} (hl : Handled answer reads unissued ends m l)
    (hr : Handled answer reads' unissued' ends' l.2 r)
    (values : ∀ pair, ∃ d, next (.ok pair) = .done (.ok d)) {result : Outcome (β × γ)}
    (hdecided : l.1.decided? held r.1 = some result) :
    Handled answer (reads + reads') (unissued + unissued') (ends + ends') m
      (launch client limits (next result) (l.1.drop r.2)) := by
  obtain ⟨l, m'⟩ := l
  obtain ⟨r, m''⟩ := r
  obtain ⟨b, c, rfl, rfl, rfl⟩ := Running.done_of_decided? hdecided hr.noError
  obtain ⟨_, hleft, -, -⟩ := hl.left
  obtain ⟨_, hright, -, -⟩ := hr.left
  obtain ⟨-, b, rfl⟩ := hleft.of_done
  obtain ⟨-, c, rfl⟩ := hright.of_done
  obtain ⟨d, hd⟩ := values (b, c)
  rw [joined, hd, launch_done, Running.drop]
  -- both sides hold nothing any more, so that the account is the one of a fork that goes on
  have hnext : PassesOn fun outcome : Outcome (β × γ) => .done outcome := fun failure _ =>
    ⟨failure, rfl, rfl⟩
  have hboth := hl.fork held hr (fun pair => ⟨pair, rfl⟩) hnext
  obtain ⟨unasked, hfruitful, hreads, hissued⟩ := hboth.left
  obtain rfl : unasked = 0 := hfruitful.asked rfl
  exact ⟨⟨0, .done d, hreads, hissued⟩, hboth.now, hboth.since⟩

end Sides

/-- A fruitful program that is started has asked for all of its reads, unless it pauses. -/
theorem Fruitful.launch {n : Nat} {x : Reading (Outcome β)} (h : x.Fruitful client.answer n)
    (hopen : limits.stop? m.now = none) (htime : client.Takes time) (hpos : time ≠ 0) :
    Handled client.answer n n 0 m (launch client limits x m) := by
  induction h generalizing m with
  | done b =>
    rw [launch_done]
    exact .done _ b m
  | @read β request next answered passesOn =>
    rw [Reading.launch]
    simp only [Limits.refusal?_open hopen, htime request, hpos, ↓reduceIte]
    split
    · exact ⟨⟨0, .waiting answered passesOn, rfl, rfl⟩, rfl, .refl _⟩
    · exact ⟨⟨0, .inFlight answered passesOn, rfl, rfl⟩, rfl, m.take.since_issue request⟩
  | @fork β γ δ held n k left right next hleft hright values passesOn ihl ihr =>
    have hl := ihl hopen
    have hr := ihr (m := (Reading.launch client limits left m).2) (by rwa [hl.now])
    rw [Reading.launch]
    simp only [hl.noError]
    split
    · next result hdecided => exact hl.join hr values hdecided
    · exact hl.fork held hr values passesOn
  | @pause β n rest hrest ih =>
    rw [Reading.launch]
    split
    · exact ih hopen
    · exact ⟨⟨n, .paused hrest, by simp [Running.load, Load.reads], by simp [Running.load]⟩, rfl, .refl _⟩

/-- A round that nothing stops issues reads that hold a granted ticket, or brings those in flight to
their ends. -/
theorem Running.Fruitful.resume {n : Nat} {r : Running (Outcome β)} (h : r.Fruitful client.answer n)
    {event : Event} (hevent : ∀ stop, event ≠ .stopped stop) (hopen : limits.stop? m.now = none)
    (htime : client.Takes time) (hpos : time ≠ 0) :
    Handled client.answer (r.load.reads + n) (r.load.1.card + n) (event.ends m.now r.flights) m
      (resume client limits event r m) := by
  induction h generalizing m with
  | done b =>
    rw [Running.flights, Event.ends_nil]
    exact .done _ b m
  | @paused β n rest hrest =>
    have hlaunch := hrest.launch hopen htime hpos
    rw [Running.flights, Event.ends_nil, Reading.resume]
    simpa [Running.load, Load.reads] using hlaunch
  | @waiting β ticket request next answered passesOn =>
    have hvisited : Handled client.answer 1 1 0 m
        (if ticket ∈ m.granted then
            (.inFlight (m.now + client.latency request) request next, (m.redeem ticket).issue request)
          else (.waiting ticket request next, m)) := by
      split
      · exact ⟨⟨0, .inFlight answered passesOn, rfl, rfl⟩, rfl, (m.redeem ticket).since_issue request⟩
      · exact ⟨⟨0, .waiting answered passesOn, rfl, rfl⟩, rfl, .refl _⟩
    rw [Running.flights, Event.ends_nil]
    cases event with
    | stopped stop => exact absurd rfl (hevent stop)
    | woken => exact hvisited
    | finished => exact hvisited
  | @inFlight β ends request next answered passesOn =>
    cases event with
    | stopped stop => exact absurd rfl (hevent stop)
    | woken => exact ⟨⟨0, .inFlight answered passesOn, rfl, rfl⟩, rfl, .refl _⟩
    | finished =>
      have hends : Event.ends .finished m.now [ends] = if ends ≤ m.now then 1 else 0 := by
        simp [Event.ends, List.countP_cons]
      rw [Running.flights, hends, Reading.resume]
      split
      · obtain ⟨b, hb⟩ := answered
        have hadds : m.Adds limits false m.finish := .finish m
        rw [hb, launch_done]
        refine ⟨⟨0, .done b, rfl, ?_⟩, hadds.now, m.since_finish⟩
        rw [Moment.finish, Moment.meter_release]
        rfl
      · exact ⟨⟨0, .inFlight answered passesOn, rfl, rfl⟩, rfl, .refl _⟩
  | @fork β γ δ held n k left right next hleft hright values passesOn ihl ihr =>
    have hl := ihl hopen
    have hr := ihr (m := (Reading.resume client limits event left m).2) (by rwa [hl.now])
    rw [hl.now] at hr
    rw [Reading.resume, Running.load, Load.reads_add, Prod.fst_add, Multiset.card_add, Running.flights,
      Event.ends_append, Nat.add_add_add_comm left.load.reads, Nat.add_add_add_comm left.load.1.card]
    simp only [hl.noError]
    split
    · next result hdecided => exact hl.join hr values hdecided
    · exact hl.fork held hr values passesOn

theorem PassesOn.launch {next : Outcome β → Reading (Outcome γ)} (h : PassesOn next)
    {failure : Failure} (hkind : failure.kind ≠ .notFound) (m : Moment) :
    ∃ failure', (launch client limits (next (.error failure)) m).1 = .done (.error failure') ∧
      failure'.kind = failure.kind := by
  obtain ⟨failure', hnext, hsame⟩ := h failure hkind
  exact ⟨failure', by rw [hnext, launch_done], hsame⟩

variable (limits) in
/-- The round that stops the reads fails a program if one of its reads waits or is in flight. -/
theorem Running.Fruitful.resume_stopped (stop : Failure.Stop) {n : Nat} {r : Running (Outcome β)}
    (h : r.Fruitful client.answer n) (hpauses : r.load.2.2 = 0) (m : Moment) :
    (r.load.reads = 0 ∧
        ∃ b, (Reading.resume client limits (.stopped stop) r m).1 = .done (.ok b)) ∨
      (r.load.reads ≠ 0 ∧ ∃ failure,
        (Reading.resume client limits (.stopped stop) r m).1 = .done (.error failure) ∧
          failure.kind = stop.category.kind) := by
  have hstop : stop.category.kind ≠ .notFound := by cases stop <;> decide
  induction h generalizing m with
  | done b => exact .inl ⟨rfl, b, rfl⟩
  | paused => cases hpauses
  | @waiting β ticket request next answered passesOn =>
    have hcut : (Failure.because (.cutOff stop .waiting request.oid.absolute)).kind ≠ .notFound := hstop
    exact .inr ⟨Nat.one_ne_zero, passesOn.launch hcut (m.withdraw ticket).countCutOff⟩
  | @inFlight β ends request next answered passesOn =>
    have hcut : (Failure.because (.cutOff stop .reading request.oid.absolute)).kind ≠ .notFound := hstop
    exact .inr ⟨Nat.one_ne_zero, passesOn.launch hcut m.finish.countCutOff⟩
  | @fork β γ δ held n k left right next hleft hright values passesOn ihl ihr =>
    obtain ⟨hpausesl, hpausesr⟩ := Nat.add_eq_zero_iff.mp hpauses
    rw [Reading.resume, Running.load, Load.reads_add]
    dsimp only
    rcases ihl hpausesl m with ⟨hreads, b, hl⟩ | ⟨hreads, failure, hl, hkind⟩
    · rcases ihr hpausesr (Reading.resume client limits (.stopped stop) left m).2 with
        ⟨hreads', c, hr⟩ | ⟨hreads', failure, hr, hkind⟩
      · obtain ⟨d, hd⟩ := values (b, c)
        refine .inl ⟨by omega, d, ?_⟩
        simp only [hl, hr, Running.error?, Running.value?, Running.decided?_done, joined, hd, launch_done]
      · simp only [hl, hr, Running.error?, Running.value?, Running.decided?_done, joined]
        exact .inr ⟨by omega, hkind ▸ passesOn.launch (hkind ▸ hstop) _⟩
    · simp only [hl, Running.error?, Running.value?]
      exact .inr ⟨by omega, hkind ▸ passesOn.launch (hkind ▸ hstop) _⟩

/-! ### Rounds -/

variable {start : Meter} {n w : Nat}

/-- A program with `n` reads after `w` waves of them. At the start there may be pauses; after them all reads
have been asked for. -/
structure InWave (client : Client) (limits : Limits) (time : Nat) (start : Meter) (n w : Nat)
    (state : Running (Outcome β) × Moment) : Prop where
  left : ∃ unasked, state.1.Fruitful client.answer unasked ∧
    state.1.load.reads + unasked = n - limits.permits * w ∧
    state.2.meter.reads + state.1.load.1.card + unasked = start.reads + n
  begun : limits.permits * w < n + limits.permits
  now : state.2.now = w * time
  opened : limits.stop? state.2.now = none
  together : ∀ ends ∈ state.1.flights, ends = state.2.now + time
  since : start.Since state.2.meter
  full : w = 0 ∧ state.2.woken = true ∨ start.inFlight + min n limits.permits ≤ state.2.meter.peak

/-- A program that was stopped, at the end of its last wave at the latest. -/
def Cut (limits : Limits) (time n : Nat) (state : Running (Outcome β) × Moment) : Prop :=
  (∃ failure, state.1 = .done (.error failure) ∧ failure.kind = limits.stopper.category.kind) ∧
    ∃ instant, limits.stopAt? = some instant ∧ instant ≤ (n ⌈/⌉ limits.permits) * time

/-- As long as a read is left after some waves, there is one more wave. -/
theorem lt_waves_iff : w < n ⌈/⌉ limits.permits ↔ limits.permits * w < n :=
  lt_iff_lt_of_le_iff_le (ceilDiv_le_iff_le_mul limits.permits_pos)

/-- As many reads are in flight as there are permits once all have been asked for and none has ended. -/
theorem full_of_asked {r : Running (Outcome β)} {unasked : Nat} (hpos : 0 < n)
    (hfruitful : r.Fruitful client.answer unasked) (hreads : r.load.reads + unasked = n)
    (hcarries : m.Carries limits start r.load 0 0)
    (hsince : start.Since m.meter) :
    m.woken = true ∨ start.inFlight + min n limits.permits ≤ m.meter.peak := by
  cases hwoken : m.woken with
  | true => exact .inl rfl
  | false =>
    obtain ⟨hpauses, hflights⟩ := hcarries.flights_eq hwoken
    obtain rfl : unasked = 0 := hfruitful.asked hpauses
    have hinFlight := hcarries.inFlight
    have hseen := hsince.seen
    have hpermits := limits.permits_pos
    -- a read is in flight, so that the peak has seen those that are
    exact .inr (by omega)

/-- The reads are asked for at the start. -/
theorem Fruitful.firstWave {x : Reading (Outcome β)} (h : x.Fruitful client.answer n) (hpos : 0 < n)
    (htime : client.Takes time) (hdelay : time ≠ 0) (hopen : limits.stop? 0 = none) :
    InWave client limits time start n 0 (Reading.launch client limits x (begin limits start)) := by
  have hlaunch := h.launch (m := begin limits start) hopen htime hdelay
  have hcarries : (Reading.launch client limits x (begin limits start)).2.Carries limits start
      (Reading.launch client limits x (begin limits start)).1.load 0 0 :=
    (launch_carries x (begin_carries limits start)).of_eq (zero_add _) rfl
  have hsince : start.Since _ := hlaunch.since
  obtain ⟨unasked, hfruitful, hreads, hissued⟩ := hlaunch.left
  refine ⟨⟨unasked, hfruitful, by omega, hissued⟩, by omega, ?_, ?_, ?_, hsince, ?_⟩
  · rw [hlaunch.now, Nat.zero_mul]
    rfl
  · rw [hlaunch.now]
    exact hopen
  · rw [hlaunch.now]
    exact launch_flights htime x hopen
  · exact (full_of_asked hpos hfruitful hreads hcarries hsince).imp_left fun hwoken => ⟨rfl, hwoken⟩

/-- A round that uses granted tickets or goes on after pauses leaves the program in its wave. -/
theorem InWave.step_woken {r : Running (Outcome β)} (h : InWave client limits time start n w (r, m))
    (hpos : 0 < n) (htime : client.Takes time) (hdelay : time ≠ 0) (hwoken : m.woken = true)
    (hcarries' : (Reading.step client limits r m).2.Carries limits start
      (Reading.step client limits r m).1.load 0 0) :
    InWave client limits time start n w (Reading.step client limits r m) := by
  obtain ⟨unasked, hfruitful, hreads, hissued⟩ := h.left
  have hopen : limits.stop? m.now = none := h.opened
  have hevent : ∀ stop, Event.woken ≠ .stopped stop := by simp
  have hround := hfruitful.resume (m := { m with woken := false }) hevent hopen htime hdelay
  have hstep : Reading.step client limits r m =
      Reading.resume client limits .woken r { m with woken := false } := by
    rw [Reading.step, nextEvent_of_woken limits r hwoken]
  rw [hstep] at hcarries' ⊢
  obtain ⟨unasked', hfruitful', hreads', hissued'⟩ := hround.left
  have hsince : start.Since _ := h.since.trans hround.since
  have hnow := hround.now
  have hends : Event.ends .woken m.now r.flights = 0 := rfl
  rw [hends, Nat.add_zero] at hreads'
  dsimp only at hreads hissued hreads' hissued'
  refine ⟨⟨unasked', hfruitful', hreads'.trans hreads, by omega⟩, h.begun, hnow.trans h.now, ?_, ?_,
    hsince, ?_⟩
  · rw [hnow]
    exact hopen
  · rw [hnow]
    exact resume_flights (m := { m with woken := false }) htime hevent r hopen h.together
  · rcases h.full with ⟨rfl, -⟩ | hfull
    · have hreads₀ : _ = n := hreads'.trans (hreads.trans (by rw [Nat.mul_zero, Nat.sub_zero]))
      exact (full_of_asked hpos hfruitful' hreads₀ hcarries' hsince).imp_left fun hwoken => ⟨rfl, hwoken⟩
    · exact .inr (hfull.trans hround.since.kept)

/-- A round in which nothing is left to be asked for ends a wave, or is the one that stops the reads. -/
theorem InWave.step_quiet {r : Running (Outcome β)} (h : InWave client limits time start n w (r, m))
    (htime : client.Takes time) (hdelay : time ≠ 0) (hwoken : m.woken = false)
    (hcarries : m.Carries limits start r.load 0 0) (hawake : r.IsAwake)
    (hrunning : ∀ value, r ≠ .done value) :
    InWave client limits time start n (w + 1) (Reading.step client limits r m) ∨
      Cut limits time n (Reading.step client limits r m) := by
  obtain ⟨unasked, hfruitful, hreads, hissued⟩ := h.left
  obtain ⟨hpauses, hflights⟩ := hcarries.flights_eq hwoken
  obtain rfl : unasked = 0 := hfruitful.asked hpauses
  have hload : r.load ≠ 0 := hawake.resolve_left fun hdone => hdone.elim fun value => hrunning value
  have hleft := Load.reads_ne_zero hload hpauses
  have hnonempty := hcarries.flights_ne_nil hawake hrunning hwoken
  have hlanding : r.landing m = m.now + time := landing_eq hnonempty h.together
  have hmnow : m.now = w * time := h.now
  have hfull : start.inFlight + min n limits.permits ≤ m.meter.peak :=
    h.full.resolve_left fun hwaking => Bool.false_ne_true (hwoken.symm.trans hwaking.2)
  dsimp only at hreads hissued
  rcases nextEvent_of_quiet limits r hwoken with ⟨hnext, hopen⟩ | ⟨instant, hstop, hle, hnext⟩
  · left
    rw [hlanding] at hnext hopen
    have hevent : ∀ stop, Event.finished ≠ .stopped stop := by simp
    have hround := hfruitful.resume (m := { m with now := m.now + time, woken := false }) hevent hopen
      htime hdelay
    have hlands : Event.Lands .finished time (m.now + time) r.flights := h.together
    have hends : Event.ends .finished (m.now + time) r.flights = r.load.2.1 :=
      hlands.ends_eq.trans r.length_flights
    rw [Reading.step, hnext]
    dsimp only
    obtain ⟨unasked', hfruitful', hreads', hissued'⟩ := hround.left
    have hnow := hround.now
    rw [hends] at hreads'
    dsimp only at hreads' hissued'
    refine ⟨⟨unasked', hfruitful', ?_, hissued'.trans hissued⟩, ?_, ?_, ?_, ?_,
      h.since.trans hround.since, .inr (hfull.trans hround.since.kept)⟩
    · rw [Nat.mul_succ]
      omega
    · rw [Nat.mul_succ]
      omega
    · rw [hnow, Nat.succ_mul, ← hmnow]
    · rw [hnow]
      exact hopen
    · rw [hnow]
      exact resume_flights (m := { m with now := m.now + time, woken := false }) htime hevent r hopen
        hlands
  · right
    rw [Reading.step, hnext]
    have hfails := (hfruitful.resume_stopped limits limits.stopper hpauses
      { m with now := instant, woken := false }).resolve_left fun hnone => hleft hnone.1
    refine ⟨hfails.2, instant, hstop, ?_⟩
    calc instant ≤ w * time + time := by rwa [hlanding, hmnow] at hle
      _ = (w + 1) * time := (Nat.succ_mul _ _).symm
      _ ≤ (n ⌈/⌉ limits.permits) * time := Nat.mul_le_mul_right _ (lt_waves_iff.mpr (by omega))

/-- A round keeps to the wave, begins the next one, or stops the reads. -/
theorem InWave.step {r : Running (Outcome β)} (h : InWave client limits time start n w (r, m))
    (hpos : 0 < n) (htime : client.Takes time) (hdelay : time ≠ 0)
    (hcarries : m.Carries limits start r.load 0 0)
    (hcarries' : (Reading.step client limits r m).2.Carries limits start
      (Reading.step client limits r m).1.load 0 0)
    (hawake : r.IsAwake) (hrunning : ∀ value, r ≠ .done value) :
    (∃ v, InWave client limits time start n v (Reading.step client limits r m)) ∨
      Cut limits time n (Reading.step client limits r m) := by
  cases hwoken : m.woken with
  | true => exact .inl ⟨w, h.step_woken hpos htime hdelay hwoken hcarries'⟩
  | false =>
    exact (h.step_quiet htime hdelay hwoken hcarries hawake hrunning).imp_left fun hnext => ⟨_, hnext⟩

/-- After every round of a run the program is in one of its waves, or was stopped. -/
theorem Fruitful.stateAfter {x : Reading (Outcome β)} (h : x.Fruitful client.answer n) (hpos : 0 < n)
    (htime : client.Takes time) (hdelay : time ≠ 0) (hopen : limits.stop? 0 = none) (rounds : Nat) :
    (∃ w, InWave client limits time start n w (stateAfter client limits x start rounds)) ∨
      Cut limits time n (stateAfter client limits x start rounds) := by
  induction rounds with
  | zero => exact .inl ⟨0, h.firstWave hpos htime hdelay hopen⟩
  | succ rounds ih =>
    have hcarries : (Reading.stateAfter client limits x start rounds).2.Carries limits start
        (Reading.stateAfter client limits x start rounds).1.load 0 0 := stateAfter_carries x start rounds
    have hcarries' : (Reading.stateAfter client limits x start (rounds + 1)).2.Carries limits start
        (Reading.stateAfter client limits x start (rounds + 1)).1.load 0 0 := stateAfter_carries x start _
    have hawake : (Reading.stateAfter client limits x start rounds).1.IsAwake :=
      stateAfter_isAwake x start rounds
    rw [stateAfter_succ] at hcarries' ⊢
    generalize Reading.stateAfter client limits x start rounds = state at ih hcarries hcarries' hawake
    obtain ⟨r, m⟩ := state
    by_cases hrunning : ∀ value, r ≠ .done value
    · rw [advance_eq hrunning] at hcarries' ⊢
      rcases ih with ⟨w, hwave⟩ | ⟨⟨failure, hdone, -⟩, -⟩
      · exact hwave.step hpos htime hdelay hcarries hcarries' hawake hrunning
      · exact absurd hdone (hrunning _)
    · obtain ⟨value, hdone⟩ := not_forall_not.mp hrunning
      obtain rfl : r = .done value := hdone
      rw [advance_done]
      exact ih

/-- A program that has ended in a wave has ended in the last one. -/
theorem InWave.ended {value : Outcome β} (h : InWave client limits time start n w (.done value, m))
    (hpos : 0 < n) (hcarries : m.Carries limits start 0 0 0) :
    (∃ b, value = .ok b) ∧ m.now = (n ⌈/⌉ limits.permits) * time ∧
      m.meter.reads = start.reads + n ∧
      m.meter.peak = max start.peak (start.inFlight + min n limits.permits) := by
  obtain ⟨unasked, hfruitful, hreads, hissued⟩ := h.left
  obtain ⟨rfl, hvalue⟩ := hfruitful.of_done
  have hnone : 0 = n - limits.permits * w := hreads
  have hall : m.meter.reads + 0 + 0 = start.reads + n := hissued
  have hbegun := h.begun
  have hwaves : n ⌈/⌉ limits.permits = w := by
    refine Nat.le_antisymm ((ceilDiv_le_iff_le_mul limits.permits_pos).mpr (by omega)) ?_
    cases w with
    | zero => exact Nat.zero_le _
    | succ v =>
      rw [Nat.mul_succ] at hbegun
      exact lt_waves_iff.mpr (by omega)
  refine ⟨hvalue, hwaves ▸ h.now, hall, ?_⟩
  have hfull : start.inFlight + min n limits.permits ≤ m.meter.peak := by
    refine h.full.resolve_left ?_
    rintro ⟨rfl, -⟩
    omega
  have hpeak := hcarries.peak
  obtain ⟨-, -, hkept, -, hbounded⟩ := h.since
  dsimp only at hkept hbounded
  omega

variable (limits start) in
/-- The rounds of a fruitful program are enough. -/
theorem Fruitful.hasEnded {x : Reading (Outcome β)} (h : x.Fruitful client.answer n) :
    HasEnded client limits x start (roundsOf client x) := by
  obtain ⟨value, hdone, -⟩ : ∃ value,
      (Reading.stateAfter client limits x start (roundsOf client x)).1 = .done value ∧
        (limits.stopAt? = none → ∃ b, value = .ok b) :=
    h.bounded.ends start (False.elim : False → client.Takes 0) (Nat.lt_succ_of_lt (Nat.lt_succ_self _))
  exact ⟨value, hdone⟩

variable (limits start) in
/-- A program whose reads are all asked for at once has its value and ends with the last wave of its
reads, unless it is stopped by then: in that case it fails in the kind of what stops it. -/
theorem Fruitful.run {x : Reading (Outcome β)} (h : x.Fruitful client.answer n) (hpos : 0 < n)
    (htime : client.Takes time) (hdelay : time ≠ 0) (hopen : limits.stop? 0 = none) :
    let ended := run client limits x start
    (limits.stop? ((n ⌈/⌉ limits.permits) * time) = none ∧ (∃ b, ended.1 = .ok b) ∧
        ended.2.reads = start.reads + n ∧
        ended.2.peak = max start.peak (start.inFlight + min n limits.permits)) ∨
      (limits.stop? ((n ⌈/⌉ limits.permits) * time) ≠ none ∧
        ∃ failure, ended.1 = .error failure ∧ failure.kind = limits.stopper.category.kind) := by
  intro ended
  obtain ⟨value, hdone⟩ := h.hasEnded limits start
  have hstate : _ ∨ Cut limits time n (Reading.stateAfter client limits x start (roundsOf client x)) :=
    h.stateAfter hpos htime hdelay hopen _
  have hcarries : (Reading.stateAfter client limits x start (roundsOf client x)).2.Carries limits start
      _ 0 0 := stateAfter_carries x start _
  have hended : ended = _ := runWithin_eq x start (roundsOf client x)
  rw [hended]
  generalize Reading.stateAfter client limits x start (roundsOf client x) = state
    at hdone hstate hcarries
  obtain ⟨r, m⟩ := state
  obtain rfl : r = .done value := hdone
  rcases hstate with ⟨w, hwave⟩ | ⟨⟨failure, hfailed, hkind⟩, instant, hstop, hle⟩
  · obtain ⟨hvalue, hnow, hreads, hpeak⟩ := hwave.ended hpos hcarries
    exact .inl ⟨hnow ▸ hwave.opened, hvalue, hreads, hpeak⟩
  · cases hfailed
    refine .inr ⟨fun hnever => ?_, failure, rfl, hkind⟩
    exact absurd (Limits.stop?_eq_none_iff.mp hnever instant hstop) (Nat.not_lt.mpr hle)

end Run
end Reading
end DevicePoll
