import DevicePoll.Proofs.Reading.Ensures
import Mathlib.Logic.Function.Basic
import Mathlib.Tactic.Choose

/-! Runs and what a program ensures. Until reads are stopped, every part of a run only issues reads,
and none is cut off. From then on every part comes to its end in the round that stops it: no read is
issued any more, and each that is still asked for is refused. -/
namespace DevicePoll

namespace Limits

/-- What stops the reads: the cancellation, unless the deadline comes before it. -/
def stopper (limits : Limits) : Failure.Stop :=
  match limits.cancelAt, limits.deadline with
  | none, _ => .deadline
  | some _, none => .cancelled
  | some cancelled, some deadline => if cancelled ≤ deadline then .cancelled else .deadline

variable {limits : Limits}

/-- Nothing stops the reads before the first instant at which they are stopped. -/
theorem stop?_eq_none_iff {now : Nat} :
    limits.stop? now = none ↔ ∀ instant, limits.stopAt? = some instant → now < instant := by
  obtain ⟨permits, _, cancelAt, deadline⟩ := limits
  cases cancelAt <;> cases deadline <;> simp [stop?, stopAt?]
  split <;> simp <;> omega

theorem stop?_stopAt {instant : Nat} (h : limits.stopAt? = some instant) :
    limits.stop? instant = some limits.stopper := by
  obtain ⟨permits, _, cancelAt, deadline⟩ := limits
  cases cancelAt with
  | none => cases deadline <;> simp_all [stop?, stopAt?, stopper]
  | some c =>
    cases deadline with
    | none => simp_all [stop?, stopAt?, stopper]
    | some d =>
      obtain rfl : min c d = instant := by simpa [stopAt?] using h
      by_cases hle : c ≤ d
      · simp [stop?, stopper, hle]
      · simp [stop?, stopper, hle, Nat.le_of_not_le hle]

/-- Reads that are stopped from the start are stopped by what stops them in the end. -/
theorem stop?_zero {stop : Failure.Stop} (h : limits.stop? 0 = some stop) :
    limits.stop? 0 = some limits.stopper := by
  have hstopped : ¬∀ instant, limits.stopAt? = some instant → 0 < instant := by
    rw [← stop?_eq_none_iff, h]
    simp
  obtain ⟨instant, hstopped⟩ := not_forall.1 hstopped
  obtain ⟨hinstant, hzero⟩ := Classical.not_imp.1 hstopped
  obtain rfl : instant = 0 := by omega
  exact stop?_stopAt hinstant

theorem refusal?_open {now : Nat} (h : limits.stop? now = none) (request : Request) :
    limits.refusal? now request = none := by rw [refusal?, h]

theorem refusal?_stopped {now : Nat} {stop : Failure.Stop} (h : limits.stop? now = some stop)
    (request : Request) : ∃ stage, limits.refusal? now request =
      some (.because (.cutOff stop stage request.oid.absolute)) := by
  rw [refusal?, h]
  cases stop with
  | cancelled => exact ⟨.before, rfl⟩
  | deadline => exact ⟨.waiting, rfl⟩

end Limits

/-- What a part of a run adds to a meter: reads issued at instants at which nothing had stopped
them, and reads cut off only if the flag tells so. -/
structure Meter.Grows (limits : Limits) (cut : Bool) (before after : Meter) : Prop where
  issued : ∃ new, after.issued = new ++ before.issued ∧ ∀ e ∈ new, limits.stop? e.1 = none
  cutOff : cut = false → after.cutOff = before.cutOff

namespace Meter.Grows
variable {limits : Limits} {cut cut' : Bool} {a b c : Meter}

theorem refl (a : Meter) : Grows limits cut a a := ⟨⟨[], rfl, by simp⟩, fun _ => rfl⟩

theorem trans (hab : Grows limits cut a b) (hbc : Grows limits cut' b c) :
    Grows limits (cut || cut') a c := by
  obtain ⟨new, hnew, hopen⟩ := hab.issued
  obtain ⟨more, hmore, hopen'⟩ := hbc.issued
  refine ⟨⟨more ++ new, by rw [hmore, hnew, List.append_assoc], ?_⟩, fun hcut => ?_⟩
  · intro e he
    exact (List.mem_append.1 he).elim (hopen' e) (hopen e)
  · rw [Bool.or_eq_false_iff] at hcut
    rw [hbc.cutOff hcut.2, hab.cutOff hcut.1]

end Meter.Grows

namespace Reading

/-- A part of a run that stays at its instant. -/
structure Moment.Adds (limits : Limits) (cut : Bool) (m m' : Moment) : Prop where
  now : m'.now = m.now
  meter : m.meter.Grows limits cut m'.meter

namespace Moment.Adds
variable {limits : Limits} {cut cut' : Bool} {m m' m'' : Moment}

theorem refl (m : Moment) : Adds limits cut m m := ⟨rfl, .refl _⟩

theorem trans (h : Adds limits cut m m') (h' : Adds limits cut' m' m'') :
    Adds limits (cut || cut') m m'' := ⟨h'.now.trans h.now, h.meter.trans h'.meter⟩

/-- A part in which nothing is cut off, and what follows it. -/
theorem andThen (h : Adds limits false m m') (h' : Adds limits cut m' m'') :
    Adds limits cut m m'' := cut.false_or ▸ h.trans h'

theorem stop?_eq (h : Adds limits cut m m') : limits.stop? m'.now = limits.stop? m.now := by
  rw [h.now]

theorem release (m : Moment) : Adds limits false m m.release := by
  unfold Moment.release
  cases m.queue <;> exact ⟨rfl, .refl _⟩

theorem finish (m : Moment) : Adds limits false m m.finish :=
  have hmeter : Adds limits false m
      { m with meter := { m.meter with inFlight := m.meter.inFlight - 1 } } :=
    ⟨rfl, ⟨⟨[], rfl, by simp⟩, fun _ => rfl⟩⟩
  hmeter.andThen (release _)

theorem redeem (m : Moment) (ticket : Nat) : Adds limits false m (m.redeem ticket) :=
  ⟨rfl, .refl _⟩

theorem withdraw (m : Moment) (ticket : Nat) : Adds limits false m (m.withdraw ticket) := by
  unfold Moment.withdraw
  split
  · exact (redeem m ticket).andThen (release _)
  · exact ⟨rfl, .refl _⟩

/-- A read is issued while nothing stops it. -/
theorem issue (hopen : limits.stop? m.now = none) (request : Request) :
    Adds limits false m (m.issue request) := by
  refine ⟨rfl, ⟨[(m.now, request)], rfl, ?_⟩, fun _ => rfl⟩
  intro e he
  rw [List.mem_singleton.1 he]
  exact hopen

theorem takeIssue (hopen : limits.stop? m.now = none) (request : Request) :
    Adds limits false m (m.take.issue request) :=
  have htaken : Adds limits false m m.take := ⟨rfl, .refl _⟩
  htaken.andThen (issue (m := m.take) hopen request)

theorem countCutOff (m : Moment) : Adds limits true m m.countCutOff :=
  ⟨rfl, ⟨⟨[], rfl, by simp⟩, nofun⟩⟩

theorem foldl {ι : Type} {f : Moment → ι → Moment}
    (h : ∀ m i, Adds limits false m (f m i)) (is : List ι) (m : Moment) :
    Adds limits false m (is.foldl f m) := by
  induction is generalizing m with
  | nil => exact refl m
  | cons i is ih => exact (h m i).andThen (ih _)

theorem drop {α : Type} (r : Running α) (m : Moment) : Adds limits false m (r.drop m) := by
  induction r generalizing m with
  | done value => exact refl m
  | paused rest => exact refl m
  | waiting ticket request next => exact withdraw m ticket
  | inFlight ends request next => exact finish m
  | fork held left right next ihl ihr => exact (ihl m).andThen (ihr _)
  | gather turn members next ih => exact foldl (fun m i => ih i m) _ m

end Moment.Adds

namespace Running

theorem eq_done_of_error? {ε β : Type} {r : Running (Except ε β)} {e : ε}
    (h : r.error? = some e) : r = .done (.error e) := by
  cases r with
  | done value =>
    cases value with
    | error e' => cases h; rfl
    | ok b => cases h
  | _ => cases h

theorem value?_eq_some {α : Type} {r : Running α} {value : α} (h : r.value? = some value) :
    r = .done value := by
  cases r with
  | done _ => cases h; rfl
  | _ => cases h

/-- What a fork has come to is the end of both its sides, or an error of the right one. -/
theorem decided?_eq_some {ε β γ : Type} {held : Bool} {l : Running (Except ε β)}
    {r : Running (Except ε γ)} {result : Except ε (β × γ)} (h : l.decided? held r = some result) :
    (∃ b c, l = .done b ∧ r = .done c ∧ result = joined b c) ∨
      ∃ e, l.value? = none ∧ r = .done (.error e) ∧ held = false ∧ result = .error e := by
  unfold decided? at h
  split at h
  · rename_i b c hb hc
    cases h
    exact .inl ⟨b, c, value?_eq_some hb, value?_eq_some hc, rfl⟩
  · rename_i e hb hc
    cases held with
    | true => cases h
    | false =>
      cases h
      exact .inr ⟨e, hb, value?_eq_some hc, rfl, rfl⟩
  · cases h

/-- Without an error on the right, a fork that has come to something has come to the end of both sides. -/
theorem done_of_decided? {ε β γ : Type} {held : Bool} {l : Running (Except ε β)}
    {r : Running (Except ε γ)} {result : Except ε (β × γ)} (h : l.decided? held r = some result)
    (hright : r.error? = none) : ∃ b c, l = .done b ∧ r = .done c ∧ result = joined b c := by
  refine (decided?_eq_some h).resolve_right ?_
  rintro ⟨e, -, rfl, -, -⟩
  cases hright

@[simp] theorem decided?_done {ε β γ : Type} (held : Bool) (b : Except ε β) (c : Except ε γ) :
    (Running.done b).decided? held (.done c) = some (joined b c) := rfl

theorem allValues?_eq_some {n : Nat} {β : Fin n → Type} {members : (i : Fin n) → Running (β i)}
    {values : (i : Fin n) → β i} (h : allValues? members = some values) (i : Fin n) :
    members i = .done (values i) := by
  unfold allValues? at h
  split at h
  · rename_i hall
    cases h
    exact value?_eq_some (Option.some_get _).symm
  · cases h

theorem allValues?_done {n : Nat} {β : Fin n → Type} {members : (i : Fin n) → Running (β i)}
    {values : (i : Fin n) → β i} (h : ∀ i, members i = .done (values i)) :
    allValues? members = some values := by
  obtain rfl : members = fun i => .done (values i) := funext h
  unfold allValues?
  exact dif_pos fun i => rfl

@[simp] theorem ensures_done {replies : Replies} {α : Type} {P : α → Bool → Prop} {value : α} :
    Running.Ensures replies P (.done value) ↔ P value false :=
  ⟨fun | .done h => h, .done⟩

end Running

namespace Running.Ensures
variable {replies : Replies} {ε β γ : Type} {L : Except ε β → Bool → Prop}
  {U : Except ε γ → Bool → Prop}

theorem error {r : Running (Except ε β)} (h : r.Ensures replies L) {e : ε}
    (herror : r.error? = some e) : L (.error e) false := by
  rwa [eq_done_of_error? herror, ensures_done] at h

theorem decided {held : Bool} {l : Running (Except ε β)} {r : Running (Except ε γ)}
    (hl : l.Ensures replies L) (hr : r.Ensures replies U) {result : Except ε (β × γ)}
    (hdecided : l.decided? held r = some result) : Sides L U result false := by
  obtain ⟨b, c, rfl, rfl, rfl⟩ | ⟨e, -, rfl, -, rfl⟩ := decided?_eq_some hdecided
  · rw [ensures_done] at hl hr
    exact .joined_open hl hr
  · rw [ensures_done] at hr
    exact .right hr

theorem allValues {n : Nat} {β : Fin n → Type} {Q : (i : Fin n) → β i → Bool → Prop}
    {members : (i : Fin n) → Running (β i)} (h : ∀ i, (members i).Ensures replies (Q i))
    {values : (i : Fin n) → β i} (hvalues : allValues? members = some values) (i : Fin n) :
    Q i (values i) false := by
  have hvalue := h i
  rwa [allValues?_eq_some hvalues i, ensures_done] at hvalue

end Running.Ensures

section Sweep
variable {limits : Limits} {n : Nat} {β : Fin n → Type} {Q : (i : Fin n) → β i → Bool → Prop}
  {visit : (i : Fin n) → Moment → Running (β i) × Moment}

theorem sweep_open {replies : Replies}
    (hvisit : ∀ i m, limits.stop? m.now = none →
      (visit i m).1.Ensures replies (Q i) ∧ m.Adds limits false (visit i m).2)
    (places : List (Fin n)) {members : (i : Fin n) → Running (β i)}
    (hmembers : ∀ i, (members i).Ensures replies (Q i)) {m : Moment}
    (hopen : limits.stop? m.now = none) :
    (∀ i, ((sweep visit places members m).1 i).Ensures replies (Q i)) ∧
      m.Adds limits false (sweep visit places members m).2 := by
  induction places generalizing members m with
  | nil => exact ⟨hmembers, .refl m⟩
  | cons i places ih =>
    obtain ⟨hvisited, hadds⟩ := hvisit i m hopen
    have hstep : ∀ j, Running.Ensures replies (Q j)
        (if h : i = j then h ▸ (visit i m).1 else members j) := by
      intro j
      by_cases hij : i = j
      · subst hij
        simpa only [↓reduceDIte] using hvisited
      · simpa only [hij, ↓reduceDIte] using hmembers j
    obtain ⟨hswept, hmore⟩ := ih hstep (hadds.stop?_eq.trans hopen)
    exact ⟨hswept, hadds.andThen hmore⟩

/-- Once reads are stopped, every visited member has ended, and the flags of all of them tell
whether a read was cut off. -/
theorem sweep_stopped {stop : Failure.Stop}
    (hvisit : ∀ i m, limits.stop? m.now = some stop → ∃ value cut,
      (visit i m).1 = .done value ∧ Q i value cut ∧ m.Adds limits cut (visit i m).2)
    (places : List (Fin n)) (hnodup : places.Nodup) (members : (i : Fin n) → Running (β i))
    {m : Moment} (hstopped : limits.stop? m.now = some stop) :
    ∃ cuts : Fin n → Bool,
      (∀ i ∈ places, ∃ value, (sweep visit places members m).1 i = .done value ∧
        Q i value (cuts i)) ∧
      (∀ i ∉ places, (sweep visit places members m).1 i = members i) ∧
      m.Adds limits (places.any cuts) (sweep visit places members m).2 := by
  induction places generalizing members m with
  | nil => exact ⟨fun _ => false, by simp, fun _ _ => rfl, .refl m⟩
  | cons i places ih =>
    obtain ⟨value, cut, hdone, hvalue, hadds⟩ := hvisit i m hstopped
    obtain ⟨hnew, hrest⟩ := List.nodup_cons.1 hnodup
    -- the places are distinct, so no later visit changes this member or its flag
    obtain ⟨cuts, hvisited, hkept, hmore⟩ := ih hrest
      (fun j => if h : i = j then h ▸ (visit i m).1 else members j)
      (hadds.stop?_eq.trans hstopped)
    have hplace : (sweep visit (i :: places) members m).1 i = .done value := by
      rw [sweep, hkept i hnew]
      simpa only [↓reduceDIte] using hdone
    have hother : ∀ j ∈ places, Function.update cuts i cut j = cuts j := fun j hj =>
      Function.update_of_ne (fun h : j = i => hnew (h ▸ hj)) _ _
    have hcuts : places.any (Function.update cuts i cut) = places.any cuts := by
      rw [Bool.eq_iff_iff, List.any_eq_true, List.any_eq_true]
      exact exists_congr fun j => and_congr_right fun hj => by rw [hother j hj]
    refine ⟨Function.update cuts i cut, fun j hj => ?_, fun j hj => ?_, ?_⟩
    · by_cases hij : j = i
      · subst hij
        exact ⟨value, hplace, by rwa [Function.update_self]⟩
      · rw [Function.update_of_ne hij]
        exact hvisited j ((List.mem_cons.1 hj).resolve_left hij)
    · obtain ⟨hij, hj⟩ := not_or.1 (mt List.mem_cons.2 hj)
      rw [sweep, hkept j hj, dif_neg fun h => hij h.symm]
    · rw [List.any_cons, Function.update_self, hcuts]
      exact hadds.trans hmore

theorem nodup_placesFrom (n turn : Nat) : (placesFrom n turn).Nodup := by
  have hperm : (placesFrom n turn).Perm (List.finRange n) := by
    rw [placesFrom]
    exact List.perm_append_comm.trans (.of_eq (List.take_append_drop _ _))
  exact hperm.nodup_iff.2 (List.nodup_finRange n)

theorem mem_placesFrom {n : Nat} (turn : Nat) (i : Fin n) : i ∈ placesFrom n turn := by
  have hi := List.mem_finRange i
  rw [← List.take_append_drop turn (List.finRange n), List.mem_append] at hi
  exact List.mem_append.2 hi.symm

/-- Once reads are stopped, a visit of all members ends in all their values. -/
theorem sweep_all_stopped {stop : Failure.Stop}
    (hvisit : ∀ i m, limits.stop? m.now = some stop → ∃ value cut,
      (visit i m).1 = .done value ∧ Q i value cut ∧ m.Adds limits cut (visit i m).2)
    (turn : Nat) (members : (i : Fin n) → Running (β i)) {m : Moment}
    (hstopped : limits.stop? m.now = some stop) :
    ∃ (values : (i : Fin n) → β i) (cuts : Fin n → Bool),
      Running.allValues? (sweep visit (placesFrom n turn) members m).1 = some values ∧
      (∀ i, Q i (values i) (cuts i)) ∧
      m.Adds limits (decide (∃ i, cuts i = true))
        (sweep visit (placesFrom n turn) members m).2 := by
  obtain ⟨cuts, hvisited, -, hadds⟩ :=
    sweep_stopped hvisit _ (nodup_placesFrom n turn) members hstopped
  choose values hdone hvalues using fun i => hvisited i (mem_placesFrom turn i)
  have hany : (placesFrom n turn).any cuts = decide (∃ i, cuts i = true) := by
    rw [Bool.eq_iff_iff, List.any_eq_true, decide_eq_true_eq]
    exact exists_congr fun i => and_iff_right (mem_placesFrom turn i)
  exact ⟨values, cuts, Running.allValues?_done hdone, hvalues, hany ▸ hadds⟩

end Sweep

section Run
variable {client : Client} {limits : Limits}

/-- How requests are answered in a run. -/
abbrev repliesOf (client : Client) (limits : Limits) : Replies := .during client limits.stopper

/-- Until reads are stopped, nothing is cut off. -/
theorem Ensures.launch_open {α : Type} {P : α → Bool → Prop} {x : Reading α}
    (h : x.Ensures (repliesOf client limits) P) {m : Moment} (hopen : limits.stop? m.now = none) :
    (launch client limits x m).1.Ensures (repliesOf client limits) P ∧
      m.Adds limits false (launch client limits x m).2 := by
  induction h generalizing m with
  | done hvalue => exact ⟨.done hvalue, .refl m⟩
  | @read α P request next hnext ih =>
    rw [Reading.launch]
    simp only [Limits.refusal?_open hopen]
    -- the read waits for a permit, is in flight, or is answered within this instant
    by_cases hfree : m.free = 0
    · simp only [hfree, ↓reduceIte]
      exact ⟨.waiting hnext, rfl, .refl _⟩
    · have hissued := Moment.Adds.takeIssue hopen request
      by_cases hlatency : client.latency request = 0
      · simp only [hfree, hlatency, ↓reduceIte]
        have hfinished := hissued.andThen (.finish (m.take.issue request))
        obtain ⟨hensures, hadds⟩ := ih _ _ (.answered request) (hfinished.stop?_eq.trans hopen)
        exact ⟨after_false P ▸ hensures, hfinished.andThen hadds⟩
      · simp only [hfree, hlatency, ↓reduceIte]
        exact ⟨.inFlight hnext, hissued⟩
  | @fork α ε β γ P L U held left right next _ _ hnext ihl ihr ih =>
    rw [Reading.launch]
    obtain ⟨hleft, hadds⟩ := ihl hopen
    dsimp only
    -- an error of the left side keeps the right one from being started at all
    split
    · rename_i e herror
      obtain ⟨hensures, hmore⟩ := ih _ _ (.left (hleft.error herror)) (hadds.stop?_eq.trans hopen)
      exact ⟨after_false P ▸ hensures, hadds.andThen hmore⟩
    · obtain ⟨hright, hmore⟩ := ihr (hadds.stop?_eq.trans hopen)
      have hboth := hadds.andThen hmore
      split
      · rename_i result hdecided
        have hdropped := hboth.andThen (.drop (Reading.launch client limits left m).1 _)
        obtain ⟨hensures, hlast⟩ := ih _ _ (hleft.decided hright hdecided)
          (hdropped.stop?_eq.trans hopen)
        exact ⟨after_false P ▸ hensures, hdropped.andThen hlast⟩
      · exact ⟨.fork hleft hright hnext, hboth⟩
  | @gather α n β P Q members next _ hnext ihm ih =>
    rw [Reading.launch]
    obtain ⟨hswept, hadds⟩ := sweep_open (fun i m hopen => ihm i hopen) (placesFrom n 0)
      (fun i => (ihm i hopen).1) hopen
    split
    · rename_i values hvalues
      obtain ⟨hensures, hmore⟩ := ih values (fun _ => false)
        (fun i => Running.Ensures.allValues hswept hvalues i) (hadds.stop?_eq.trans hopen)
      exact ⟨by simpa using hensures, hadds.andThen hmore⟩
    · exact ⟨.gather hswept hnext, hadds⟩
  | pause hrest ih =>
    rw [Reading.launch]
    split
    · exact ih hopen
    · exact ⟨.paused hrest, rfl, .refl _⟩

/-- Once reads are stopped, a program that is started comes to its end. -/
theorem Ensures.launch_stopped {α : Type} {P : α → Bool → Prop} {x : Reading α}
    (h : x.Ensures (repliesOf client limits) P) {m : Moment}
    (hstopped : limits.stop? m.now = some limits.stopper) :
    ∃ value cut, (launch client limits x m).1 = .done value ∧ P value cut ∧
      m.Adds limits cut (launch client limits x m).2 := by
  induction h generalizing m with
  | done hvalue => exact ⟨_, false, rfl, hvalue, .refl m⟩
  | @read α P request next hnext ih =>
    -- the request is refused at once, so the program goes on within this instant
    obtain ⟨stage, hrefusal⟩ := Limits.refusal?_stopped hstopped request
    obtain ⟨value, cut, hdone, hvalue, hadds⟩ := ih _ _ (.cutOff stage request)
      (m := m.countCutOff) hstopped
    rw [Reading.launch]
    simp only [hrefusal]
    exact ⟨value, true || cut, hdone, hvalue, (Moment.Adds.countCutOff m).trans hadds⟩
  | @fork α ε β γ P L U held left right next _ _ hnext ihl ihr ih =>
    obtain ⟨b, cut, hleft, hb, hadds⟩ := ihl hstopped
    rw [Reading.launch]
    simp only [hleft]
    cases b with
    | error e =>
      obtain ⟨value, later, hdone, hvalue, hmore⟩ := ih _ _ (.left hb)
        (hadds.stop?_eq.trans hstopped)
      exact ⟨value, cut || later, hdone, hvalue, hadds.trans hmore⟩
    | ok b =>
      obtain ⟨c, cut', hright, hc, hmore⟩ := ihr (hadds.stop?_eq.trans hstopped)
      have hboth := hadds.trans hmore
      obtain ⟨value, later, hdone, hvalue, hlast⟩ := ih _ _ (Sides.joined hb hc)
        (hboth.stop?_eq.trans hstopped)
      simp only [hright, Running.decided?_done]
      exact ⟨value, (cut || cut') || later, hdone, hvalue, hboth.trans hlast⟩
  | @gather α n β P Q members next _ hnext ihm ih =>
    obtain ⟨values, cuts, hvalues, hall, hadds⟩ := sweep_all_stopped
      (fun i m hstopped => ihm i hstopped) 0
      (fun i => (Reading.launch client limits (members i) m).1) hstopped
    obtain ⟨value, later, hdone, hvalue, hmore⟩ := ih values cuts hall
      (hadds.stop?_eq.trans hstopped)
    rw [Reading.launch]
    simp only [hvalues]
    exact ⟨value, _, hdone, hvalue, hadds.trans hmore⟩
  | pause _ ih =>
    rw [Reading.launch, if_pos (.inr (Option.isSome_of_eq_some hstopped))]
    exact ih hstopped

/-- What a part of a run goes on with after other parts of the same instant. -/
theorem Ensures.goOn_open {α : Type} {P : α → Bool → Prop} {x : Reading α} {m m' : Moment}
    (h : x.Ensures (repliesOf client limits) (after false P)) (hadds : m.Adds limits false m')
    (hopen : limits.stop? m.now = none) :
    (launch client limits x m').1.Ensures (repliesOf client limits) P ∧
      m.Adds limits false (launch client limits x m').2 := by
  obtain ⟨hensures, hmore⟩ := h.launch_open (hadds.stop?_eq.trans hopen)
  exact ⟨after_false P ▸ hensures, hadds.andThen hmore⟩

theorem Ensures.goOn_stopped {α : Type} {P : α → Bool → Prop} {x : Reading α} {m m' : Moment}
    {cut : Bool} (h : x.Ensures (repliesOf client limits) (after cut P))
    (hadds : m.Adds limits cut m') (hstopped : limits.stop? m.now = some limits.stopper) :
    ∃ value cut, (launch client limits x m').1 = .done value ∧ P value cut ∧
      m.Adds limits cut (launch client limits x m').2 := by
  obtain ⟨value, later, hdone, hvalue, hmore⟩ :=
    h.launch_stopped (hadds.stop?_eq.trans hstopped)
  exact ⟨value, cut || later, hdone, hvalue, hadds.trans hmore⟩

namespace Running.Ensures

/-- A round before reads are stopped: permits are used, or the reads in flight finish. -/
theorem resume_open {event : Event} (hevent : ∀ stop, event ≠ .stopped stop) {α : Type}
    {P : α → Bool → Prop} {r : Running α} (h : r.Ensures (repliesOf client limits) P) {m : Moment}
    (hopen : limits.stop? m.now = none) :
    (resume client limits event r m).1.Ensures (repliesOf client limits) P ∧
      m.Adds limits false (resume client limits event r m).2 := by
  induction h generalizing m with
  | done hvalue => exact ⟨.done hvalue, .refl m⟩
  | paused hrest => exact hrest.launch_open hopen
  | @waiting α P ticket request next hnext =>
    have hredeemed := (Moment.Adds.redeem m ticket).andThen
      (.issue (m := m.redeem ticket) hopen request)
    cases event with
    | stopped stop => exact absurd rfl (hevent stop)
    | woken | finished =>
      simp only [Reading.resume]
      split
      · exact ⟨.inFlight hnext, hredeemed⟩
      · exact ⟨.waiting hnext, .refl m⟩
  | inFlight hnext =>
    cases event with
    | woken => exact ⟨.inFlight hnext, .refl m⟩
    | finished =>
      rw [Reading.resume]
      split
      · exact (hnext _ _ (.answered _)).goOn_open (.finish m) hopen
      · exact ⟨.inFlight hnext, .refl m⟩
    | stopped stop => exact absurd rfl (hevent stop)
  | @fork α ε β γ P L U held left right next _ hr hnext ihl ihr =>
    rw [Reading.resume]
    obtain ⟨hleft, hadds⟩ := ihl hopen
    dsimp only
    split
    · rename_i e herror
      exact (hnext _ _ (.left (hleft.error herror))).goOn_open (hadds.andThen (.drop right _)) hopen
    · obtain ⟨hright, hmore⟩ := ihr (hadds.stop?_eq.trans hopen)
      have hboth := hadds.andThen hmore
      split
      · rename_i result hdecided
        exact (hnext _ _ (hleft.decided hright hdecided)).goOn_open (hboth.andThen (.drop _ _)) hopen
      · exact ⟨.fork hleft hright hnext, hboth⟩
  | @gather α n β P Q turn members next hmembers hnext ih =>
    rw [Reading.resume]
    obtain ⟨hswept, hadds⟩ := sweep_open (fun i m hopen => ih i hopen) (placesFrom n turn)
      hmembers hopen
    split
    · rename_i values hvalues
      have hgoesOn := hnext values (fun _ => false)
        (fun i => Running.Ensures.allValues hswept hvalues i)
      exact Reading.Ensures.goOn_open (by simpa using hgoesOn) hadds hopen
    · exact ⟨.gather hswept hnext, hadds⟩

/-- The round that stops the reads ends the program. -/
theorem resume_stopped {α : Type} {P : α → Bool → Prop} {r : Running α}
    (h : r.Ensures (repliesOf client limits) P) {m : Moment}
    (hstopped : limits.stop? m.now = some limits.stopper) :
    ∃ value cut, (resume client limits (.stopped limits.stopper) r m).1 = .done value ∧
      P value cut ∧
      m.Adds limits cut (resume client limits (.stopped limits.stopper) r m).2 := by
  induction h generalizing m with
  | done hvalue => exact ⟨_, false, rfl, hvalue, .refl m⟩
  | paused hrest => exact hrest.launch_stopped hstopped
  | @waiting α P ticket request next hnext =>
    exact (hnext _ _ (.cutOff .waiting request)).goOn_stopped
      ((Moment.Adds.withdraw m ticket).andThen (.countCutOff _)) hstopped
  | @inFlight α P ends request next hnext =>
    exact (hnext _ _ (.cutOff .reading request)).goOn_stopped
      ((Moment.Adds.finish m).andThen (.countCutOff _)) hstopped
  | @fork α ε β γ P L U held left right next _ hr hnext ihl ihr =>
    obtain ⟨b, cut, hleft, hb, hadds⟩ := ihl hstopped
    rw [Reading.resume]
    simp only [hleft]
    cases b with
    | error e =>
      have hdropped := hadds.trans (.drop right _)
      rw [Bool.or_false] at hdropped
      exact (hnext _ _ (.left hb)).goOn_stopped hdropped hstopped
    | ok b =>
      obtain ⟨c, cut', hright, hc, hmore⟩ := ihr (hadds.stop?_eq.trans hstopped)
      have hended := (hnext _ _ (Sides.joined hb hc)).goOn_stopped (hadds.trans hmore) hstopped
      simp only [hright, Running.decided?_done]
      exact hended
  | @gather α n β P Q turn members next hmembers hnext ih =>
    obtain ⟨values, cuts, hvalues, hall, hadds⟩ := sweep_all_stopped
      (fun i m hstopped => ih i hstopped) turn members hstopped
    rw [Reading.resume]
    simp only [hvalues]
    exact (hnext values cuts hall).goOn_stopped hadds hstopped

end Running.Ensures

theorem Ensures.eval {α : Type} {P : α → Bool → Prop} {x : Reading α}
    (h : x.Ensures (repliesOf client limits) P) : P (x.eval client.answer) false := by
  induction h with
  | done hvalue => exact hvalue
  | read _ ih => exact ih _ _ (.answered _)
  | @fork α ε β γ P L U held left right next _ _ _ ihl ihr ih =>
    rw [eval_fork]
    have hsides : Sides L U (joined (left.eval client.answer) (right.eval client.answer)) false :=
      Sides.joined_open ihl ihr
    simpa only [after_false] using ih _ _ hsides
  | gather _ _ ihm ih => simpa using ih _ (fun _ => false) ihm
  | pause _ ih => exact ih

theorem Running.Ensures.settle {α : Type} {P : α → Bool → Prop} {r : Running α}
    (h : r.Ensures (repliesOf client limits) P) : P (r.settle client.answer) false := by
  induction h with
  | done hvalue => exact hvalue
  | paused hrest => exact hrest.eval
  | waiting hnext => exact (hnext _ _ (.answered _)).eval
  | inFlight hnext => exact (hnext _ _ (.answered _)).eval
  | fork _ _ hnext ihl ihr =>
    simpa only [after_false, Running.settle] using (hnext _ _ (Sides.joined_open ihl ihr)).eval
  | gather _ hnext ih => simpa [Running.settle] using (hnext _ (fun _ => false) ih).eval

theorem nextEvent_of_woken {α : Type} (limits : Limits) (r : Running α) {m : Moment}
    (h : m.woken = true) : nextEvent limits r m = (.woken, m.now) := if_pos h

/-- When nothing asks for one more round, the first reads in flight come to their end, unless the reads are
stopped by then. -/
theorem nextEvent_of_quiet {α : Type} (limits : Limits) (r : Running α) {m : Moment}
    (h : m.woken = false) :
    (nextEvent limits r m = (.finished, r.landing m) ∧ limits.stop? (r.landing m) = none) ∨
      ∃ instant, limits.stopAt? = some instant ∧ instant ≤ r.landing m ∧
        nextEvent limits r m = (.stopped limits.stopper, instant) := by
  unfold nextEvent
  rw [if_neg (by simp [h])]
  cases hstop : limits.stopAt? with
  | none => exact .inl ⟨rfl, Limits.stop?_eq_none_iff.mpr (by simp [hstop])⟩
  | some instant =>
    dsimp only
    by_cases hle : instant ≤ r.landing m
    · rw [if_pos hle, Limits.stop?_stopAt hstop, Option.getD_some]
      exact .inr ⟨instant, rfl, hle, rfl⟩
    · rw [if_neg hle]
      refine .inl ⟨rfl, Limits.stop?_eq_none_iff.mpr fun other hother => ?_⟩
      obtain rfl : instant = other := Option.some.inj (hstop.symm.trans hother)
      omega

/-- What a round starts from: either reads are not stopped, or this is the round that stops them. -/
theorem nextEvent_cases {α : Type} (r : Running α) {m : Moment} (hopen : limits.stop? m.now = none) :
    (∃ event, (∀ stop, event ≠ .stopped stop) ∧ (nextEvent limits r m).1 = event ∧
        limits.stop? (nextEvent limits r m).2 = none) ∨
      ((nextEvent limits r m).1 = .stopped limits.stopper ∧
        limits.stop? (nextEvent limits r m).2 = some limits.stopper) := by
  cases hwoken : m.woken with
  | true =>
    rw [nextEvent_of_woken limits r hwoken]
    exact .inl ⟨.woken, by simp, rfl, hopen⟩
  | false =>
    rcases nextEvent_of_quiet limits r hwoken with ⟨hnext, hopen'⟩ | ⟨instant, hstop, -, hnext⟩
    · rw [hnext]
      exact .inl ⟨.finished, by simp, rfl, hopen'⟩
    · rw [hnext]
      exact .inr ⟨rfl, Limits.stop?_stopAt hstop⟩

theorem Running.Ensures.of_forall {replies : Replies} {α : Type} {P : α → Bool → Prop}
    (r : Running α) (h : ∀ value cut, P value cut) : r.Ensures replies P := by
  induction r with
  | done value => exact .done (h value false)
  | paused rest => exact .paused (.of_forall rest h)
  | waiting ticket request next =>
    exact .waiting fun reply cut _ => .of_forall _ fun value later => h value _
  | inFlight ends request next =>
    exact .inFlight fun reply cut _ => .of_forall _ fun value later => h value _
  | fork held left right next ihl ihr =>
    exact .fork (ihl (P := fun _ _ => True) fun _ _ => trivial)
      (ihr (P := fun _ _ => True) fun _ _ => trivial)
      fun result cut _ => .of_forall _ fun value later => h value _
  | gather turn members next ih =>
    exact .gather (fun i => ih i (P := fun _ _ => True) fun _ _ => trivial)
      fun values cuts _ => .of_forall _ fun value later => h value _

variable (client) in
/-- A program that is started stays at its instant. -/
theorem launch_adds {α : Type} (x : Reading α) {m : Moment} (hopen : limits.stop? m.now = none) :
    m.Adds limits false (launch client limits x m).2 :=
  have hensures : x.Ensures (repliesOf client limits) fun _ _ => True := .of_forall x fun _ _ => trivial
  (hensures.launch_open hopen).2

variable (client) in
/-- A round stays at its instant. -/
theorem resume_adds {event : Event} (hevent : ∀ stop, event ≠ .stopped stop) {α : Type} (r : Running α)
    {m : Moment} (hopen : limits.stop? m.now = none) :
    m.Adds limits false (resume client limits event r m).2 :=
  have hensures : r.Ensures (repliesOf client limits) fun _ _ => True := .of_forall r fun _ _ => trivial
  (hensures.resume_open hevent hopen).2

theorem Running.Ensures.runSteps {α : Type} {P : α → Bool → Prop} {r : Running α}
    (h : r.Ensures (repliesOf client limits) P) (rounds : Nat) {m : Moment}
    (hopen : limits.stop? m.now = none) :
    ∃ cut, P (runSteps client limits rounds r m).1 cut ∧
      m.meter.Grows limits cut (runSteps client limits rounds r m).2.meter := by
  induction rounds generalizing r m with
  | zero =>
    cases h with
    | done hvalue => exact ⟨false, hvalue, .refl _⟩
    | paused hrest => exact ⟨false, (paused hrest).settle, .refl _⟩
    | waiting hnext => exact ⟨false, (waiting hnext).settle, .refl _⟩
    | inFlight hnext => exact ⟨false, (inFlight hnext).settle, .refl _⟩
    | fork hl hr hnext => exact ⟨false, (fork hl hr hnext).settle, .refl _⟩
    | gather hmembers hnext => exact ⟨false, (gather hmembers hnext).settle, .refl _⟩
  | succ rounds ih =>
    have hround : ∃ cut,
        P (Reading.runSteps client limits rounds (step client limits r m).1
          (step client limits r m).2).1 cut ∧
        m.meter.Grows limits cut (Reading.runSteps client limits rounds (step client limits r m).1
          (step client limits r m).2).2.meter := by
      -- only the round that stops the reads cuts any off, and no round follows it
      obtain ⟨event, hevent, hnext, hopen'⟩ | ⟨hnext, hstopped⟩ :=
        nextEvent_cases r hopen
      · obtain ⟨hensures, hadds⟩ := h.resume_open hevent
          (m := { m with now := (nextEvent limits r m).2, woken := false }) hopen'
        obtain ⟨cut, hvalue, hgrows⟩ := ih hensures (hadds.stop?_eq.trans hopen')
        rw [step, hnext]
        exact ⟨cut, hvalue, cut.false_or ▸ hadds.meter.trans hgrows⟩
      · obtain ⟨value, cut, hdone, hvalue, hadds⟩ := h.resume_stopped
          (m := { m with now := (nextEvent limits r m).2, woken := false }) hstopped
        rw [step, hnext]
        simp only [hdone]
        refine ⟨cut, ?_⟩
        cases rounds <;> exact ⟨hvalue, hadds.meter⟩
    cases h with
    | done hvalue => exact ⟨false, hvalue, .refl _⟩
    | _ => exact hround

/-- A run ends in a value that the program ensures, whatever the number of its rounds. The client
has seen no read at an instant at which reads were stopped. -/
theorem Ensures.runWithin {α : Type} {P : α → Bool → Prop} {x : Reading α}
    (h : x.Ensures (repliesOf client limits) P) (rounds : Nat) (meter : Meter) :
    ∃ cut, P (runWithin client limits rounds x meter).1 cut ∧
      meter.Grows limits cut (runWithin client limits rounds x meter).2 := by
  cases hstart : limits.stop? (begin limits meter).now with
  | none =>
    obtain ⟨hensures, hadds⟩ := h.launch_open hstart
    obtain ⟨cut, hvalue, hgrows⟩ := hensures.runSteps rounds (hadds.stop?_eq.trans hstart)
    exact ⟨cut, hvalue, cut.false_or ▸ hadds.meter.trans hgrows⟩
  | some stop =>
    obtain ⟨value, cut, hdone, hvalue, hadds⟩ :=
      h.launch_stopped (m := begin limits meter) (Limits.stop?_zero hstart)
    refine ⟨cut, ?_⟩
    rw [Reading.runWithin, hdone]
    cases rounds <;> exact ⟨hvalue, hadds.meter⟩

end Run
end Reading
end DevicePoll
