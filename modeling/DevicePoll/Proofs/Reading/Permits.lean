import DevicePoll.Proofs.Reading.Stopped
import Mathlib.Algebra.BigOperators.Fin
import Mathlib.Algebra.BigOperators.Pi
import Mathlib.Algebra.Order.BigOperators.Group.Multiset
import Mathlib.Tactic.Abel

/-! Permits of a run. Every permit is free, or granted to a ticket, or held by one read in flight, and
every ticket belongs to one read that waits. Whatever happens in a round keeps that account, so no more
reads are in flight than there are permits, and none is left behind by a program that has ended. A program
that pauses has asked for one more round. -/
namespace DevicePoll.Reading

/-- Tickets of reads that wait, a number of reads in flight, and a number of pauses. -/
abbrev Load : Type := Multiset Nat × Nat × Nat

namespace Load

/-- The reads of a load, whether they wait or are in flight. -/
def reads (load : Load) : Nat := load.1.card + load.2.1

theorem reads_ne_zero {load : Load} (h : load ≠ 0) (hpauses : load.2.2 = 0) : load.reads ≠ 0 := by
  refine fun hnone => h (Prod.ext ?_ (Prod.ext ?_ hpauses))
  · exact Multiset.card_eq_zero.mp (Nat.add_eq_zero_iff.mp hnone).1
  · exact (Nat.add_eq_zero_iff.mp hnone).2

theorem reads_add (a b : Load) : (a + b).reads = a.reads + b.reads := by
  simp only [reads, Prod.fst_add, Prod.snd_add, Multiset.card_add]
  omega

end Load

/-- What the reads of a program under way hold. -/
def Running.load {α : Type} : Running α → Load
  | done _ => 0
  | paused _ => (0, 0, 1)
  | waiting ticket _ _ => ({ticket}, 0)
  | inFlight _ _ _ => (0, 1, 0)
  | fork _ left right _ => left.load + right.load
  | gather _ members _ => ∑ i, (members i).load

theorem Running.length_flights {α : Type} (r : Running α) : r.flights.length = r.load.2.1 := by
  induction r with
  | fork held left right next ihl ihr =>
    rw [flights, List.length_append, ihl, ihr]
    rfl
  | @gather α n β turn members next ih =>
    rw [flights, load, List.length_flatMap, Prod.snd_sum, Prod.fst_sum, Fin.sum_univ_def]
    exact congrArg List.sum (List.map_congr_left fun i _ => ih i)
  | _ => rfl

/-- The account of a moment. `load` is what the program under way holds, and `hand` counts permits that
are between two of its reads. A ticket that was granted before this round is one of those that are
still due to be looked at, and so is a pause that was asked for before it. -/
structure Moment.Carries (limits : Limits) (start : Meter) (load due : Load) (hand : Nat) (m : Moment) :
    Prop where
  tickets : (↑(m.granted ++ m.queue) : Multiset Nat) = load.1
  inFlight : m.meter.inFlight = start.inFlight + load.2.1
  permits : m.free + m.granted.length + load.2.1 + hand = limits.permits
  peak : m.meter.peak ≤ max start.peak (start.inFlight + limits.permits)
  busy : m.free = 0 ∨ m.queue = []
  ascending : (m.granted ++ m.queue).Pairwise (· < ·)
  fresh : ∀ ticket ∈ m.granted ++ m.queue, ticket < m.nextTicket
  due : m.woken = true ∨ (∀ ticket ∈ m.granted, ticket ∈ due.1) ∧ load.2.2 ≤ due.2.2

theorem Moment.release_of_nil {m : Moment} (h : m.queue = []) :
    m.release = { m with free := m.free + 1 } := by
  rw [release, h]

theorem Moment.release_of_cons {m : Moment} {ticket : Nat} {queue : List Nat}
    (h : m.queue = ticket :: queue) :
    m.release = { m with queue, granted := m.granted ++ [ticket], woken := true } := by
  rw [release, h]

namespace Moment.Carries
variable {limits : Limits} {start : Meter} {load due due' : Load} {hand : Nat} {m : Moment}

theorem of_eq {load' : Load} (h : m.Carries limits start load due hand) (hload : load = load')
    (hdue : due = due') : m.Carries limits start load' due' hand := hload ▸ hdue ▸ h

/-- Of two loads that are due, the first one stands last. -/
theorem split {first second : Load} (h : m.Carries limits start (load + (first + second))
    (due + (first + second)) hand) :
    m.Carries limits start (load + second + first) (due + second + first) hand :=
  h.of_eq (by abel) (by abel)

/-- What is held may be due as well. -/
theorem allDue {more : Load} (h : m.Carries limits start (load + more) due hand) :
    m.Carries limits start (load + more) (due + more) hand := by
  refine { h with due := h.due.imp_right fun ⟨hall, hpauses⟩ => ⟨fun t ht => ?_, ?_⟩ }
  · exact Multiset.mem_add.mpr (.inl (hall t ht))
  · exact hpauses.trans (Nat.le_add_right _ _)

theorem nodup (h : m.Carries limits start load due hand) : (m.granted ++ m.queue).Nodup :=
  h.ascending.imp fun hlt => Nat.ne_of_lt hlt

theorem take (h : m.Carries limits start load due hand) (hfree : m.free ≠ 0) :
    m.take.Carries limits start load due (hand + 1) where
  tickets := h.tickets
  inFlight := h.inFlight
  permits := by
    have := h.permits
    simp only [Moment.take]
    omega
  peak := h.peak
  busy := .inr (h.busy.resolve_left hfree)
  ascending := h.ascending
  fresh := h.fresh
  due := h.due

/-- A permit in hand is used for a read. -/
theorem issue (h : m.Carries limits start load due (hand + 1)) (request : Request) :
    (m.issue request).Carries limits start (load + (0, 1, 0)) due hand where
  tickets := by
    rw [Prod.fst_add, add_zero]
    exact h.tickets
  inFlight := by
    have := h.inFlight
    simp only [Moment.issue, Prod.snd_add, Prod.fst_add]
    omega
  permits := by
    have := h.permits
    simp only [Moment.issue, Prod.snd_add, Prod.fst_add]
    omega
  peak := by
    have hpeak := h.peak
    have hinFlight := h.inFlight
    have hpermits := h.permits
    simp only [Moment.issue]
    omega
  busy := h.busy
  ascending := h.ascending
  fresh := h.fresh
  due := h.due

/-- A permit in hand goes to the first ticket that waits, or is free. -/
theorem release (h : m.Carries limits start load due (hand + 1)) :
    m.release.Carries limits start load due hand := by
  have hpermits := h.permits
  cases hqueue : m.queue with
  | nil =>
    rw [release_of_nil hqueue]
    exact ⟨h.tickets, h.inFlight, by dsimp only; omega, h.peak, .inr hqueue, h.ascending, h.fresh, h.due⟩
  | cons ticket queue =>
    have hline : m.granted ++ [ticket] ++ queue = m.granted ++ m.queue := by
      rw [hqueue, List.append_assoc, List.singleton_append]
    have hfree : m.free = 0 := h.busy.resolve_right (by rw [hqueue]; exact List.cons_ne_nil _ _)
    rw [release_of_cons hqueue]
    refine ⟨?_, h.inFlight, ?_, h.peak, .inl hfree, ?_, ?_, .inl rfl⟩
    · rw [hline, h.tickets]
    · dsimp only
      rw [List.length_append, List.length_singleton]
      omega
    · rw [hline]
      exact h.ascending
    · rw [hline]
      exact h.fresh

/-- A read in flight need not be looked at. -/
theorem keepFlight (h : m.Carries limits start load (due + (0, 1, 0)) hand) :
    m.Carries limits start load due hand := by
  have hdue := h.due
  rw [Prod.fst_add, add_zero] at hdue
  exact { h with due := hdue }

theorem finish (h : m.Carries limits start (load + (0, 1, 0)) (due + (0, 1, 0)) hand) :
    m.finish.Carries limits start load due hand := by
  refine release ⟨?_, ?_, ?_, h.peak, h.busy, h.ascending, h.fresh, h.keepFlight.due⟩
  · have := h.tickets
    rwa [Prod.fst_add, add_zero] at this
  · have := h.inFlight
    rw [Prod.snd_add, Prod.fst_add] at this
    dsimp only at this ⊢
    omega
  · have := h.permits
    rw [Prod.snd_add, Prod.fst_add] at this
    dsimp only at this ⊢
    omega

theorem enqueue (h : m.Carries limits start load due hand) (hfree : m.free = 0) :
    m.enqueue.Carries limits start (load + ({m.nextTicket}, 0)) due hand where
  tickets := by
    rw [Moment.enqueue, ← List.append_assoc, ← Multiset.coe_add, h.tickets, Prod.fst_add]
    rfl
  inFlight := h.inFlight
  permits := h.permits
  peak := h.peak
  busy := .inl hfree
  ascending := by
    rw [Moment.enqueue, ← List.append_assoc, List.pairwise_append]
    refine ⟨h.ascending, List.pairwise_singleton _ _, fun t ht s hs => ?_⟩
    rw [List.mem_singleton.mp hs]
    exact h.fresh t ht
  fresh := by
    intro ticket hticket
    rw [Moment.enqueue, ← List.append_assoc, List.mem_append, List.mem_singleton] at hticket
    show ticket < m.nextTicket + 1
    rcases hticket with hold | rfl
    · exact Nat.lt_succ_of_lt (h.fresh ticket hold)
    · exact Nat.lt_succ_self _
  due := h.due

/-- A granted ticket is given for a permit in hand. -/
theorem redeem {ticket : Nat}
    (h : m.Carries limits start (load + ({ticket}, 0)) (due + ({ticket}, 0)) hand)
    (hgranted : ticket ∈ m.granted) :
    (m.redeem ticket).Carries limits start load due (hand + 1) := by
  have hline : m.granted.erase ticket ++ m.queue = (m.granted ++ m.queue).erase ticket :=
    (List.erase_append_left _ hgranted).symm
  refine ⟨?_, h.inFlight, ?_, h.peak, h.busy, ?_, ?_,
    h.due.imp_right fun ⟨hall, hpauses⟩ => ⟨fun s hs => ?_, hpauses⟩⟩
  · rw [Moment.redeem, hline, ← Multiset.coe_erase, h.tickets, Prod.fst_add, add_comm,
      Multiset.singleton_add, Multiset.erase_cons_head]
  · have := h.permits
    have hpos := List.length_pos_of_mem hgranted
    rw [Prod.snd_add, Prod.fst_add] at this
    simp only [Moment.redeem, List.length_erase_of_mem hgranted]
    simp only [Prod.fst_zero] at this
    omega
  · rw [Moment.redeem, hline]
    exact h.ascending.sublist List.erase_sublist
  · intro s hs
    rw [Moment.redeem, hline] at hs
    exact h.fresh s (List.mem_of_mem_erase hs)
  · have hnodup : m.granted.Nodup := (List.nodup_append.mp h.nodup).1
    obtain ⟨hne, hold⟩ := hnodup.mem_erase_iff.mp hs
    exact (Multiset.mem_add.mp (hall s hold)).resolve_right fun heq =>
      hne (Multiset.mem_singleton.mp heq)

/-- A ticket that is not granted is no longer due. -/
theorem keep {ticket : Nat} (h : m.Carries limits start load (due + ({ticket}, 0)) hand)
    (hgranted : ticket ∉ m.granted) : m.Carries limits start load due hand := by
  refine { h with due := h.due.imp_right fun ⟨hall, hpauses⟩ => ⟨fun s hs => ?_, hpauses⟩ }
  refine (Multiset.mem_add.mp (hall s hs)).resolve_right fun heq => hgranted ?_
  rwa [← Multiset.mem_singleton.mp heq]

theorem withdraw {ticket : Nat}
    (h : m.Carries limits start (load + ({ticket}, 0)) (due + ({ticket}, 0)) hand) :
    (m.withdraw ticket).Carries limits start load due hand := by
  unfold Moment.withdraw
  split
  · next hgranted => exact (h.redeem hgranted).release
  · next hgranted =>
    have hkept := h.keep hgranted
    have hline : m.granted ++ m.queue.erase ticket = (m.granted ++ m.queue).erase ticket :=
      (List.erase_append_right _ hgranted).symm
    refine ⟨?_, hkept.inFlight, hkept.permits, hkept.peak, hkept.busy.imp_right fun hnil => ?_, ?_, ?_,
      hkept.due⟩
    · dsimp only
      rw [hline, ← Multiset.coe_erase, h.tickets, Prod.fst_add, add_comm, Multiset.singleton_add,
        Multiset.erase_cons_head]
    · dsimp only
      rw [hnil]
      rfl
    · dsimp only
      rw [hline]
      exact h.ascending.sublist List.erase_sublist
    · intro s hs
      dsimp only at hs
      rw [hline] at hs
      exact h.fresh s (List.mem_of_mem_erase hs)

/-- A pause is over. -/
theorem resumed (h : m.Carries limits start (load + (0, 0, 1)) (due + (0, 0, 1)) hand) :
    m.Carries limits start load due hand := by
  refine ⟨?_, h.inFlight, h.permits, h.peak, h.busy, h.ascending, h.fresh,
    h.due.imp_right fun ⟨hall, hpauses⟩ => ⟨?_, Nat.le_of_add_le_add_right hpauses⟩⟩
  · have := h.tickets
    rwa [Prod.fst_add, add_zero] at this
  · rwa [Prod.fst_add, add_zero] at hall

/-- One more round is asked for. -/
theorem pause (h : m.Carries limits start load due hand) :
    { m with woken := true }.Carries limits start (load + (0, 0, 1)) due hand := by
  refine ⟨?_, h.inFlight, h.permits, h.peak, h.busy, h.ascending, h.fresh, .inl rfl⟩
  rw [Prod.fst_add, add_zero]
  exact h.tickets

theorem countCutOff (h : m.Carries limits start load due hand) :
    m.countCutOff.Carries limits start load due hand :=
  ⟨h.tickets, h.inFlight, h.permits, h.peak, h.busy, h.ascending, h.fresh, h.due⟩

/-- At the start of a round every ticket and every pause is due. -/
theorem atRound (h : m.Carries limits start load due hand) (now : Nat) :
    { m with now := now, woken := false }.Carries limits start load load hand := by
  refine ⟨h.tickets, h.inFlight, h.permits, h.peak, h.busy, h.ascending, h.fresh,
    .inr ⟨?_, Nat.le_refl _⟩⟩
  intro ticket hticket
  rw [← h.tickets]
  exact Multiset.mem_coe.mpr (List.mem_append_left _ hticket)

/-- A run that has ended has every permit back. -/
theorem idle (h : m.Carries limits start 0 due 0) :
    m.free = limits.permits ∧ m.granted = [] ∧ m.queue = [] ∧
      m.meter.inFlight = start.inFlight := by
  have hline : m.granted ++ m.queue = [] := Multiset.coe_eq_zero _ |>.mp h.tickets
  obtain ⟨hgranted, hqueue⟩ := List.append_eq_nil_iff.mp hline
  refine ⟨?_, hgranted, hqueue, h.inFlight⟩
  have hpermits := h.permits
  rw [hgranted] at hpermits
  exact hpermits

end Moment.Carries

variable {limits : Limits} {start : Meter} {load due : Load} {m : Moment}

/-! ### Dropped programs -/

/-- A program that is dropped gives back what it holds. -/
theorem Running.drop_carries {α : Type} (r : Running α)
    (h : m.Carries limits start (load + r.load) (due + r.load) 0) :
    (r.drop m).Carries limits start load due 0 := by
  induction r generalizing load due m with
  | done value => exact h.of_eq (add_zero load) (add_zero due)
  | paused rest => exact h.resumed
  | waiting ticket request next => exact h.withdraw
  | inFlight ends request next => exact h.finish
  | fork held left right next ihl ihr => exact ihr (ihl h.split)
  | @gather α n β turn members next ih =>
    have hplaces : ∀ (places : List (Fin n)) {load due : Load} {m : Moment},
        m.Carries limits start (load + (places.map fun i => (members i).load).sum)
          (due + (places.map fun i => (members i).load).sum) 0 →
        (places.foldl (fun m i => (members i).drop m) m).Carries limits start load due 0 := by
      intro places
      induction places with
      | nil =>
        intro load due m h
        exact h.of_eq (add_zero load) (add_zero due)
      | cons i places ihplaces =>
        intro load due m h
        rw [List.foldl_cons]
        rw [List.map_cons, List.sum_cons] at h
        exact ihplaces (ih i h.split)
    rw [Running.load, Fin.sum_univ_def] at h
    exact hplaces _ h

/-- A program that has ended holds nothing. -/
theorem Running.load_of_error {ε β : Type} {r : Running (Except ε β)} {e : ε}
    (h : r.error? = some e) : r.load = 0 := by
  rw [eq_done_of_error? h]
  rfl

/-- Of a fork that has come to something, the right side holds nothing. -/
theorem Running.load_of_decided {ε β γ : Type} {held : Bool} {l : Running (Except ε β)}
    {r : Running (Except ε γ)} {result : Except ε (β × γ)} (h : l.decided? held r = some result) :
    r.load = 0 := by
  obtain ⟨b, c, rfl, rfl, -⟩ | ⟨e, -, rfl, -, -⟩ := decided?_eq_some h <;> rfl

theorem Running.load_of_allValues {n : Nat} {β : Fin n → Type} {members : (i : Fin n) → Running (β i)}
    {values : (i : Fin n) → β i} (h : allValues? members = some values) :
    ∑ i, (members i).load = 0 := by
  refine Finset.sum_eq_zero fun i _ => ?_
  rw [allValues?_eq_some h i]
  rfl

/-! ### Sweeps -/

section Sweep
variable {n : Nat} {β : Fin n → Type} {visit : (i : Fin n) → Moment → Running (β i) × Moment}

/-- A place that is not swept keeps its member. -/
theorem sweep_of_not_mem {places : List (Fin n)} {i : Fin n} (h : i ∉ places)
    (members : (i : Fin n) → Running (β i)) (m : Moment) :
    (sweep visit places members m).1 i = members i := by
  induction places generalizing members m with
  | nil => rfl
  | cons j places ih =>
    obtain ⟨hij, hi⟩ := not_or.mp (mt List.mem_cons.mpr h)
    rw [sweep, ih hi, dif_neg fun h => hij h.symm]

theorem sum_placesFrom {M : Type} [AddCommMonoid M] (turn : Nat) (f : Fin n → M) :
    ((placesFrom n turn).map f).sum = ∑ i, f i := by
  have hperm : (placesFrom n turn).Perm (List.finRange n) := by
    rw [placesFrom]
    exact List.perm_append_comm.trans (.of_eq (List.take_append_drop _ _))
  rw [Fin.sum_univ_def]
  exact (hperm.map f).sum_eq

/-- Members that are visited one after another, each of which holds `before` until it is visited. -/
theorem sweep_carries (before : Fin n → Load)
    (hvisit : ∀ i {load due : Load} {m : Moment},
      m.Carries limits start (load + before i) (due + before i) 0 →
        (visit i m).2.Carries limits start (load + (visit i m).1.load) due 0)
    {places : List (Fin n)} (hnodup : places.Nodup) (members : (i : Fin n) → Running (β i))
    (h : m.Carries limits start (load + (places.map before).sum) (due + (places.map before).sum) 0) :
    (sweep visit places members m).2.Carries limits start
      (load + (places.map fun i => ((sweep visit places members m).1 i).load).sum) due 0 := by
  induction places generalizing load due members m with
  | nil => exact h.of_eq rfl (add_zero due)
  | cons i places ih =>
    obtain ⟨hi, hrest⟩ := List.nodup_cons.mp hnodup
    rw [List.map_cons, List.sum_cons] at h
    have hvisited : (visit i m).2.Carries limits start
        (load + (visit i m).1.load + (places.map before).sum) (due + (places.map before).sum) 0 :=
      (hvisit i h.split).of_eq (by abel) rfl
    have hswept := ih hrest (fun j => if h : i = j then h ▸ (visit i m).1 else members j) hvisited
    -- the places are distinct, so no later visit changes this member
    have hplace : (sweep visit (i :: places) members m).1 i = (visit i m).1 := by
      rw [sweep, sweep_of_not_mem hi, dif_pos rfl]
    refine hswept.of_eq ?_ rfl
    rw [List.map_cons, List.sum_cons, hplace, add_assoc]
    rfl

end Sweep

/-! ### Rounds -/

section Run
variable {client : Client}

/-- A program that is started takes a permit or a ticket for each of its reads. -/
theorem launch_carries {α : Type} (x : Reading α) (h : m.Carries limits start load due 0) :
    (launch client limits x m).2.Carries limits start
      (load + (launch client limits x m).1.load) due 0 := by
  induction x generalizing load due m with
  | done value => exact h.of_eq (add_zero load).symm rfl
  | read request next ih =>
    rw [launch]
    split
    · exact ih _ h.countCutOff
    · split
      · next hfree => exact h.enqueue hfree
      · next hfree =>
        have hissued := (h.take hfree).issue request
        split
        · exact ih _ hissued.allDue.finish
        · exact hissued
  | fork held left right next ihl ihr ih =>
    rw [launch]
    have hleft := ihl h
    dsimp only
    split
    · next e herror =>
      rw [Running.load_of_error herror, add_zero] at hleft
      exact ih _ hleft
    · have hright := ihr hleft
      split
      · next result hdecided =>
        rw [Running.load_of_decided hdecided, add_zero] at hright
        exact ih _ (Running.drop_carries _ hright.allDue)
      · exact hright.of_eq (add_assoc _ _ _) rfl
  | @gather α n β members next ihm ih =>
    rw [launch]
    have hready : m.Carries limits start (load + ((placesFrom n 0).map fun _ => (0 : Load)).sum)
        (due + ((placesFrom n 0).map fun _ => (0 : Load)).sum) 0 := by
      rw [sum_placesFrom, Finset.sum_const_zero, add_zero]
      exact h.of_eq rfl (add_zero due).symm
    have hswept := sweep_carries (fun _ => 0)
      (fun i {load due m} h => ihm i (h.of_eq (add_zero load) (add_zero due)))
      (nodup_placesFrom n 0) (fun i => (launch client limits (members i) m).1) hready
    rw [sum_placesFrom] at hswept
    split
    · next values hvalues =>
      rw [Running.load_of_allValues hvalues, add_zero] at hswept
      exact ih _ hswept
    · exact hswept
  | pause rest ih =>
    rw [launch]
    split
    · exact ih h
    · exact h.pause

variable (client) in
/-- A program that is carried through a round holds a permit or a ticket for each of its reads. -/
theorem resume_carries {α : Type} (event : Event) (r : Running α)
    (h : m.Carries limits start (load + r.load) (due + r.load) 0) :
    (resume client limits event r m).2.Carries limits start
      (load + (resume client limits event r m).1.load) due 0 := by
  induction r generalizing load due m with
  | done value => exact h.of_eq rfl (add_zero due)
  | paused rest => exact launch_carries rest h.resumed
  | waiting ticket request next =>
    cases event with
    | stopped stop => exact launch_carries _ h.withdraw.countCutOff
    | woken | finished =>
      simp only [resume]
      split
      · next hgranted => exact (h.redeem hgranted).issue request
      · next hgranted => exact h.keep hgranted
  | inFlight ends request next =>
    have hkept : m.Carries limits start (load + (0, 1, 0)) due 0 := h.keepFlight
    cases event with
    | woken => exact hkept
    | finished =>
      rw [resume]
      split
      · exact launch_carries _ h.finish
      · exact hkept
    | stopped stop => exact launch_carries _ h.finish.countCutOff
  | fork held left right next ihl ihr =>
    rw [resume]
    have hleft := ihl h.split
    dsimp only
    split
    · next e herror =>
      rw [Running.load_of_error herror, add_zero] at hleft
      exact launch_carries _ (Running.drop_carries _ hleft)
    · have hmiddle : (resume client limits event left m).2.Carries limits start
          (load + (resume client limits event left m).1.load + right.load) (due + right.load) 0 :=
        hleft.of_eq (by abel) rfl
      have hright := ihr hmiddle
      split
      · next result hdecided =>
        rw [Running.load_of_decided hdecided, add_zero] at hright
        exact launch_carries _ (Running.drop_carries _ hright.allDue)
      · exact hright.of_eq (add_assoc _ _ _) rfl
  | @gather α n β turn members next ih =>
    rw [resume]
    have hready : m.Carries limits start
        (load + ((placesFrom n turn).map fun i => (members i).load).sum)
        (due + ((placesFrom n turn).map fun i => (members i).load).sum) 0 := by
      rw [sum_placesFrom]
      exact h
    have hswept := sweep_carries (fun i => (members i).load) (fun i => ih i)
      (nodup_placesFrom n turn) members hready
    rw [sum_placesFrom] at hswept
    split
    · next values hvalues =>
      rw [Running.load_of_allValues hvalues, add_zero] at hswept
      exact launch_carries _ hswept
    · exact hswept

theorem begin_carries (limits : Limits) (start : Meter) :
    (begin limits start).Carries limits start 0 0 0 where
  tickets := rfl
  inFlight := rfl
  permits := rfl
  peak := le_max_left _ _
  busy := .inr rfl
  ascending := .nil
  fresh := nofun
  due := .inr ⟨nofun, Nat.le_refl _⟩

end Run

end DevicePoll.Reading
