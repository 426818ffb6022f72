import DevicePoll.Reading.Schedule
import Mathlib.Data.List.Forall2

/-! Programs that run alike. Two programs are similar if they ask the same requests in the same
places and their values are related, also those of what runs side by side within them, wherever the
one is answered like the other. Similar programs go through the same moments in all runs with clients
that answer alike after the same times, and end in related values. -/
namespace DevicePoll

/-- Both are errors or both are values, and related as such. -/
inductive Agree {ε ε' β β' : Type} (E : ε → ε' → Prop) (S : β → β' → Prop) :
    Except ε β → Except ε' β' → Prop
  | error {e : ε} {e' : ε'} : E e e' → Agree E S (.error e) (.error e')
  | ok {b : β} {b' : β'} : S b b' → Agree E S (.ok b) (.ok b')

/-- Pairs with related parts. -/
def Paired {β β' γ γ' : Type} (S : β → β' → Prop) (U : γ → γ' → Prop) (a : β × γ) (b : β' × γ') :
    Prop := S a.1 b.1 ∧ U a.2 b.2

namespace Reading

/-- Which replies to a request count as the same as which others. -/
def Likeness : Type := (request : Request) → Outcome request.Reply → Outcome request.Reply → Prop

/-- The clients answer every request alike and after the same time, and what is cut off is cut off in
both. -/
structure Likeness.Between (L : Likeness) (client client' : Client) : Prop where
  answer : ∀ request, L request (client.answer request) (client'.answer request)
  latency : ∀ request, client.latency request = client'.latency request
  cutOff : ∀ request failure, L request (.error failure) (.error failure)

/-- Every reply counts as itself. -/
def Likeness.exact : Likeness := fun _ => Eq

theorem Likeness.Between.exact (client : Client) : Likeness.exact.Between client client :=
  ⟨fun _ => rfl, fun _ => rfl, fun _ _ => rfl⟩

/-- A reply counts as what is answered in its place, and a failure also as itself. -/
inductive Likeness.Given (answer answer' : (request : Request) → Outcome request.Reply) :
    (request : Request) → Outcome request.Reply → Outcome request.Reply → Prop
  | answered (request : Request) : Given answer answer' request (answer request) (answer' request)
  | cutOff (request : Request) (failure : Failure) :
      Given answer answer' request (.error failure) (.error failure)

def Likeness.given (answer answer' : (request : Request) → Outcome request.Reply) : Likeness :=
  Given answer answer'

theorem Likeness.Between.given {client client' : Client} (h : client.latency = client'.latency) :
    (Likeness.given client.answer client'.answer).Between client client' :=
  ⟨.answered, congrFun h, .cutOff⟩

/-- The programs ask the same, and end in related values if they are answered alike. -/
inductive Similar (L : Likeness) : {α α' : Type} → (α → α' → Prop) → Reading α → Reading α' → Prop
  | done {α α' : Type} {R : α → α' → Prop} {a : α} {a' : α'} : R a a' →
      Similar L R (.done a) (.done a')
  | read {α α' : Type} {R : α → α' → Prop} {request : Request}
      {next : Outcome request.Reply → Reading α} {next' : Outcome request.Reply → Reading α'} :
      (∀ reply reply', L request reply reply' → Similar L R (next reply) (next' reply')) →
      Similar L R (.read request next) (.read request next')
  | fork {α α' ε ε' β β' γ γ' : Type} {R : α → α' → Prop} {E : ε → ε' → Prop}
      {S : β → β' → Prop} {U : γ → γ' → Prop} {held : Bool} {left : Reading (Except ε β)}
      {left' : Reading (Except ε' β')} {right : Reading (Except ε γ)}
      {right' : Reading (Except ε' γ')} {next : Except ε (β × γ) → Reading α}
      {next' : Except ε' (β' × γ') → Reading α'} :
      Similar L (Agree E S) left left' → Similar L (Agree E U) right right' →
      (∀ result result', Agree E (Paired S U) result result' →
        Similar L R (next result) (next' result')) →
      Similar L R (.fork held left right next) (.fork held left' right' next')
  | gather {α α' : Type} {n : Nat} {β β' : Fin n → Type} {R : α → α' → Prop}
      {S : (i : Fin n) → β i → β' i → Prop} {members : (i : Fin n) → Reading (β i)}
      {members' : (i : Fin n) → Reading (β' i)} {next : ((i : Fin n) → β i) → Reading α}
      {next' : ((i : Fin n) → β' i) → Reading α'} :
      (∀ i, Similar L (S i) (members i) (members' i)) →
      (∀ values values', (∀ i, S i (values i) (values' i)) →
        Similar L R (next values) (next' values')) →
      Similar L R (.gather members next) (.gather members' next')
  | pause {α α' : Type} {R : α → α' → Prop} {rest : Reading α} {rest' : Reading α'} :
      Similar L R rest rest' → Similar L R (.pause rest) (.pause rest')

/-- Programs under way that wait for the same, hold the same and go on alike. -/
inductive Running.Similar (L : Likeness) : {α α' : Type} → (α → α' → Prop) → Running α → Running α' → Prop
  | done {α α' : Type} {R : α → α' → Prop} {a : α} {a' : α'} : R a a' →
      Running.Similar L R (.done a) (.done a')
  | paused {α α' : Type} {R : α → α' → Prop} {rest : Reading α} {rest' : Reading α'} :
      rest.Similar L R rest' → Running.Similar L R (.paused rest) (.paused rest')
  | waiting {α α' : Type} {R : α → α' → Prop} {ticket : Nat} {request : Request}
      {next : Outcome request.Reply → Reading α} {next' : Outcome request.Reply → Reading α'} :
      (∀ reply reply', L request reply reply' → (next reply).Similar L R (next' reply')) →
      Running.Similar L R (.waiting ticket request next) (.waiting ticket request next')
  | inFlight {α α' : Type} {R : α → α' → Prop} {ends : Nat} {request : Request}
      {next : Outcome request.Reply → Reading α} {next' : Outcome request.Reply → Reading α'} :
      (∀ reply reply', L request reply reply' → (next reply).Similar L R (next' reply')) →
      Running.Similar L R (.inFlight ends request next) (.inFlight ends request next')
  | fork {α α' ε ε' β β' γ γ' : Type} {R : α → α' → Prop} {E : ε → ε' → Prop}
      {S : β → β' → Prop} {U : γ → γ' → Prop} {held : Bool} {left : Running (Except ε β)}
      {left' : Running (Except ε' β')} {right : Running (Except ε γ)}
      {right' : Running (Except ε' γ')} {next : Except ε (β × γ) → Reading α}
      {next' : Except ε' (β' × γ') → Reading α'} :
      Running.Similar L (Agree E S) left left' → Running.Similar L (Agree E U) right right' →
      (∀ result result', Agree E (Paired S U) result result' →
        (next result).Similar L R (next' result')) →
      Running.Similar L R (.fork held left right next) (.fork held left' right' next')
  | gather {α α' : Type} {n : Nat} {β β' : Fin n → Type} {R : α → α' → Prop}
      {S : (i : Fin n) → β i → β' i → Prop} {turn : Nat} {members : (i : Fin n) → Running (β i)}
      {members' : (i : Fin n) → Running (β' i)} {next : ((i : Fin n) → β i) → Reading α}
      {next' : ((i : Fin n) → β' i) → Reading α'} :
      (∀ i, Running.Similar L (S i) (members i) (members' i)) →
      (∀ values values', (∀ i, S i (values i) (values' i)) →
        (next values).Similar L R (next' values')) →
      Running.Similar L R (.gather turn members next) (.gather turn members' next')

/-- The same moment, and programs under way that are similar. -/
def Alike (L : Likeness) {α α' : Type} (R : α → α' → Prop) (a : Running α × Moment)
    (b : Running α' × Moment) : Prop := a.1.Similar L R b.1 ∧ a.2 = b.2

namespace Running.Similar
variable {L : Likeness} {α α' ε ε' β β' γ γ' : Type} {E : ε → ε' → Prop} {S : β → β' → Prop}
  {U : γ → γ' → Prop}

theorem value? {R : α → α' → Prop} {r : Running α} {r' : Running α'} (h : r.Similar L R r') :
    (∃ a a', r.value? = some a ∧ r'.value? = some a' ∧ R a a') ∨
      (r.value? = none ∧ r'.value? = none) := by
  cases h with
  | done hvalues => exact .inl ⟨_, _, rfl, rfl, hvalues⟩
  | _ => exact .inr ⟨rfl, rfl⟩

/-- A side has ended in an error if the other one has. -/
theorem error? {r : Running (Except ε β)} {r' : Running (Except ε' β')}
    (h : r.Similar L (Agree E S) r') :
    (∃ e e', r.error? = some e ∧ r'.error? = some e' ∧ E e e') ∨
      (r.error? = none ∧ r'.error? = none) := by
  unfold Running.error?
  obtain ⟨a, a', ha, ha', hvalues⟩ | ⟨hnone, hnone'⟩ := h.value?
  · rw [ha, ha']
    cases hvalues with
    | error he => exact .inl ⟨_, _, rfl, rfl, he⟩
    | ok hb => exact .inr ⟨rfl, rfl⟩
  · rw [hnone, hnone']
    exact .inr ⟨rfl, rfl⟩

theorem joined {a : Except ε β} {a' : Except ε' β'} {b : Except ε γ} {b' : Except ε' γ'}
    (ha : Agree E S a a') (hb : Agree E U b b') :
    Agree E (Paired S U) (Reading.joined a b) (Reading.joined a' b') := by
  cases ha with
  | error he => exact .error he
  | ok hvalue =>
    cases hb with
    | error he => exact .error he
    | ok hvalue' => exact .ok ⟨hvalue, hvalue'⟩

/-- Two forks have come to something alike, or none of them has. -/
theorem decided? (held : Bool) {l : Running (Except ε β)} {l' : Running (Except ε' β')}
    {r : Running (Except ε γ)} {r' : Running (Except ε' γ')} (hl : l.Similar L (Agree E S) l')
    (hr : r.Similar L (Agree E U) r') :
    (∃ p p', l.decided? held r = some p ∧ l'.decided? held r' = some p' ∧
        Agree E (Paired S U) p p') ∨
      (l.decided? held r = none ∧ l'.decided? held r' = none) := by
  unfold Running.decided?
  obtain ⟨a, a', ha, ha', hleft⟩ | ⟨hnone, hnone'⟩ := hl.value?
  · obtain ⟨b, b', hb, hb', hright⟩ | ⟨hnone, hnone'⟩ := hr.value?
    · rw [ha, ha', hb, hb']
      exact .inl ⟨_, _, rfl, rfl, joined hleft hright⟩
    · rw [ha, ha', hnone, hnone']
      exact .inr ⟨rfl, rfl⟩
  · rw [hnone, hnone']
    obtain ⟨b, b', hb, hb', hright⟩ | ⟨hnone, hnone'⟩ := hr.value?
    · rw [hb, hb']
      cases hright with
      | error he =>
        cases held with
        | true => exact .inr ⟨rfl, rfl⟩
        | false => exact .inl ⟨_, _, rfl, rfl, .error he⟩
      | ok _ => exact .inr ⟨rfl, rfl⟩
    · rw [hnone, hnone']
      exact .inr ⟨rfl, rfl⟩

theorem allValues? {n : Nat} {β β' : Fin n → Type} {S : (i : Fin n) → β i → β' i → Prop}
    {members : (i : Fin n) → Running (β i)} {members' : (i : Fin n) → Running (β' i)}
    (h : ∀ i, (members i).Similar L (S i) (members' i)) :
    (∃ values values', Running.allValues? members = some values ∧
        Running.allValues? members' = some values' ∧ ∀ i, S i (values i) (values' i)) ∨
      (Running.allValues? members = none ∧ Running.allValues? members' = none) := by
  have hsome : ∀ i, (members i).value?.isSome = (members' i).value?.isSome := by
    intro i
    obtain ⟨a, a', ha, ha', -⟩ | ⟨hnone, hnone'⟩ := (h i).value?
    · rw [ha, ha', Option.isSome_some, Option.isSome_some]
    · rw [hnone, hnone']
      rfl
  unfold Running.allValues?
  by_cases hall : ∀ i, (members i).value?.isSome
  · have hall' : ∀ i, (members' i).value?.isSome := fun i => hsome i ▸ hall i
    rw [dif_pos hall, dif_pos hall']
    refine .inl ⟨_, _, rfl, rfl, fun i => ?_⟩
    obtain ⟨a, a', ha, ha', hvalues⟩ | ⟨hnone, -⟩ := (h i).value?
    · simpa only [ha, ha', Option.get_some] using hvalues
    · have hdone := hall i
      rw [hnone] at hdone
      cases hdone
  · have hall' : ¬∀ i, (members' i).value?.isSome := fun hdone => hall fun i => hsome i ▸ hdone i
    rw [dif_neg hall, dif_neg hall']
    exact .inr ⟨rfl, rfl⟩

/-- Similar programs hold the same tickets and permits. -/
theorem drop_eq {R : α → α' → Prop} {r : Running α} {r' : Running α'} (h : r.Similar L R r')
    (m : Moment) : r.drop m = r'.drop m := by
  induction h generalizing m with
  | fork _ _ _ ihl ihr => rw [Running.drop, Running.drop, ihl, ihr]
  | gather _ _ ih =>
    have hdrop : ∀ m i, _ := fun m i => ih i m
    simp only [Running.drop, hdrop]
  | _ => rfl

/-- Their reads in flight end at the same instants. -/
theorem flights_eq {R : α → α' → Prop} {r : Running α} {r' : Running α'} (h : r.Similar L R r') :
    r.flights = r'.flights := by
  induction h with
  | fork _ _ _ ihl ihr => rw [Running.flights, Running.flights, ihl, ihr]
  | gather _ _ ih => simp only [Running.flights, ih]
  | _ => rfl

theorem nextEvent_eq {R : α → α' → Prop} {r : Running α} {r' : Running α'} (h : r.Similar L R r')
    (limits : Limits) (m : Moment) : nextEvent limits r m = nextEvent limits r' m := by
  rw [nextEvent, nextEvent, Running.landing, Running.landing, h.flights_eq]

end Running.Similar

section Values
variable {L : Likeness} {answer answer' : (request : Request) → Outcome request.Reply}

theorem Similar.eval {α α' : Type} {R : α → α' → Prop} {x : Reading α} {y : Reading α'}
    (h : x.Similar L R y) (hanswer : ∀ request, L request (answer request) (answer' request)) :
    R (x.eval answer) (y.eval answer') := by
  induction h with
  | done hvalues => exact hvalues
  | read _ ih => exact ih _ _ (hanswer _)
  | fork _ _ _ ihl ihr ih =>
    rw [eval_fork, eval_fork]
    exact ih _ _ (Running.Similar.joined ihl ihr)
  | gather _ _ ihm ih => exact ih _ _ ihm
  | pause _ ih => exact ih

theorem Running.Similar.settle {α α' : Type} {R : α → α' → Prop} {r : Running α}
    {r' : Running α'} (h : r.Similar L R r')
    (hanswer : ∀ request, L request (answer request) (answer' request)) :
    R (r.settle answer) (r'.settle answer') := by
  induction h with
  | done hvalues => exact hvalues
  | paused hrest => exact hrest.eval hanswer
  | waiting hnext => exact (hnext _ _ (hanswer _)).eval hanswer
  | inFlight hnext => exact (hnext _ _ (hanswer _)).eval hanswer
  | fork _ _ hnext ihl ihr => exact (hnext _ _ (joined ihl ihr)).eval hanswer
  | gather _ hnext ih => exact (hnext _ _ ih).eval hanswer

end Values

section Run
variable {L : Likeness} {client client' : Client}

theorem sweep_alike {n : Nat} {β β' : Fin n → Type} {S : (i : Fin n) → β i → β' i → Prop}
    {visit : (i : Fin n) → Moment → Running (β i) × Moment}
    {visit' : (i : Fin n) → Moment → Running (β' i) × Moment}
    (hvisit : ∀ i m, Alike L (S i) (visit i m) (visit' i m)) (places : List (Fin n))
    {members : (i : Fin n) → Running (β i)} {members' : (i : Fin n) → Running (β' i)}
    (hmembers : ∀ i, (members i).Similar L (S i) (members' i)) (m : Moment) :
    (∀ i, ((sweep visit places members m).1 i).Similar L (S i)
        ((sweep visit' places members' m).1 i)) ∧
      (sweep visit places members m).2 = (sweep visit' places members' m).2 := by
  induction places generalizing members members' m with
  | nil => exact ⟨hmembers, rfl⟩
  | cons i places ih =>
    obtain ⟨hsimilar, hmoment⟩ := hvisit i m
    rw [sweep, sweep, hmoment]
    refine ih (fun j => ?_) _
    by_cases hij : i = j
    · subst hij
      simpa only [↓reduceDIte] using hsimilar
    · simpa only [hij, ↓reduceDIte] using hmembers j

/-- Similar programs start alike. -/
theorem Similar.launch {α α' : Type} {R : α → α' → Prop} {x : Reading α} {y : Reading α'}
    (h : x.Similar L R y) (hclients : L.Between client client') (limits : Limits) (m : Moment) :
    Alike L R (launch client limits x m) (launch client' limits y m) := by
  induction h generalizing m with
  | done hvalues => exact ⟨.done hvalues, rfl⟩
  | @read α α' R request next next' hnext ih =>
    rw [Reading.launch, Reading.launch]
    cases limits.refusal? m.now request with
    | some failure => exact ih _ _ (hclients.cutOff request failure) _
    | none =>
      rw [← hclients.latency request]
      by_cases hfree : m.free = 0
      · simp only [hfree, ↓reduceIte]
        exact ⟨.waiting hnext, rfl⟩
      · by_cases hlatency : client.latency request = 0
        · simp only [hfree, hlatency, ↓reduceIte]
          exact ih _ _ (hclients.answer request) _
        · simp only [hfree, hlatency, ↓reduceIte]
          exact ⟨.inFlight hnext, rfl⟩
  | @fork α α' ε ε' β β' γ γ' R E S U held left left' right right' next next' _ _ hnext ihl ihr ih =>
    rw [Reading.launch, Reading.launch]
    obtain ⟨hleft, hmoment⟩ := ihl m
    simp only [← hmoment]
    obtain ⟨e, e', he, he', herror⟩ | ⟨hnone, hnone'⟩ := hleft.error?
    · simp only [he, he']
      exact ih _ _ (.error herror) _
    · simp only [hnone, hnone']
      obtain ⟨hright, hmoment'⟩ := ihr (Reading.launch client limits left m).2
      simp only [← hmoment']
      obtain ⟨p, p', hp, hp', hpair⟩ | ⟨hopen, hopen'⟩ := hleft.decided? held hright
      · simp only [hp, hp', hleft.drop_eq]
        exact ih _ _ hpair _
      · simp only [hopen, hopen']
        exact ⟨.fork hleft hright hnext, rfl⟩
  | @gather α α' n β β' R S members members' next next' _ hnext ihm ih =>
    rw [Reading.launch, Reading.launch]
    obtain ⟨hswept, hmoment⟩ := sweep_alike (fun i m => ihm i m) (placesFrom n 0)
      (fun i => (ihm i m).1) m
    simp only [← hmoment]
    obtain ⟨values, values', hvalues, hvalues', hall⟩ | ⟨hnone, hnone'⟩ :=
      Running.Similar.allValues? hswept
    · simp only [hvalues, hvalues']
      exact ih _ _ hall _
    · simp only [hnone, hnone']
      exact ⟨.gather hswept hnext, rfl⟩
  | @pause α α' R rest rest' hrest ih =>
    rw [Reading.launch, Reading.launch]
    split
    · exact ih m
    · exact ⟨.paused hrest, rfl⟩

/-- Similar programs go through a round alike. -/
theorem Running.Similar.resume {α α' : Type} {R : α → α' → Prop} {r : Running α}
    {r' : Running α'} (h : r.Similar L R r') (hclients : L.Between client client')
    (limits : Limits) (event : Event) (m : Moment) :
    Alike L R (resume client limits event r m) (resume client' limits event r' m) := by
  induction h generalizing m with
  | done hvalues => exact ⟨.done hvalues, rfl⟩
  | paused hrest => exact hrest.launch hclients limits m
  | @waiting α α' R ticket request next next' hnext =>
    cases event with
    | stopped stop => exact (hnext _ _ (hclients.cutOff request _)).launch hclients limits _
    | woken | finished =>
      simp only [Reading.resume, ← hclients.latency request]
      by_cases hgranted : ticket ∈ m.granted
      · simp only [hgranted, ↓reduceIte]
        exact ⟨.inFlight hnext, rfl⟩
      · simp only [hgranted, ↓reduceIte]
        exact ⟨.waiting hnext, rfl⟩
  | @inFlight α α' R ends request next next' hnext =>
    cases event with
    | woken => exact ⟨.inFlight hnext, rfl⟩
    | finished =>
      rw [Reading.resume, Reading.resume]
      split
      · exact (hnext _ _ (hclients.answer request)).launch hclients limits _
      · exact ⟨.inFlight hnext, rfl⟩
    | stopped stop => exact (hnext _ _ (hclients.cutOff request _)).launch hclients limits _
  | @fork α α' ε ε' β β' γ γ' R E S U held left left' right right' next next' _ hr hnext ihl ihr =>
    rw [Reading.resume, Reading.resume]
    obtain ⟨hleft, hmoment⟩ := ihl m
    simp only [← hmoment]
    obtain ⟨e, e', he, he', herror⟩ | ⟨hnone, hnone'⟩ := hleft.error?
    · simp only [he, he', hr.drop_eq]
      exact (hnext _ _ (.error herror)).launch hclients limits _
    · simp only [hnone, hnone']
      obtain ⟨hright, hmoment'⟩ := ihr (Reading.resume client limits event left m).2
      simp only [← hmoment']
      obtain ⟨p, p', hp, hp', hpair⟩ | ⟨hopen, hopen'⟩ := hleft.decided? held hright
      · simp only [hp, hp', hleft.drop_eq]
        exact (hnext _ _ hpair).launch hclients limits _
      · simp only [hopen, hopen']
        exact ⟨.fork hleft hright hnext, rfl⟩
  | @gather α α' n β β' R S turn members members' next next' hmembers hnext ih =>
    rw [Reading.resume, Reading.resume]
    obtain ⟨hswept, hmoment⟩ := sweep_alike (fun i m => ih i m) (placesFrom n turn) hmembers m
    simp only [← hmoment]
    obtain ⟨values, values', hvalues, hvalues', hall⟩ | ⟨hnone, hnone'⟩ :=
      Running.Similar.allValues? hswept
    · simp only [hvalues, hvalues']
      exact (hnext _ _ hall).launch hclients limits _
    · simp only [hnone, hnone']
      exact ⟨.gather hswept hnext, rfl⟩

theorem Running.Similar.runSteps {α α' : Type} {R : α → α' → Prop} {r : Running α}
    {r' : Running α'} (h : r.Similar L R r') (hclients : L.Between client client')
    (limits : Limits) (rounds : Nat) (m : Moment) :
    R (runSteps client limits rounds r m).1 (runSteps client' limits rounds r' m).1 ∧
      (runSteps client limits rounds r m).2 = (runSteps client' limits rounds r' m).2 := by
  induction rounds generalizing r r' m with
  | zero =>
    cases h with
    | done hvalues => exact ⟨hvalues, rfl⟩
    | paused hrest => exact ⟨(paused hrest).settle hclients.answer, rfl⟩
    | waiting hnext => exact ⟨(waiting hnext).settle hclients.answer, rfl⟩
    | inFlight hnext => exact ⟨(inFlight hnext).settle hclients.answer, rfl⟩
    | fork hl hr hnext => exact ⟨(fork hl hr hnext).settle hclients.answer, rfl⟩
    | gather hmembers hnext => exact ⟨(gather hmembers hnext).settle hclients.answer, rfl⟩
  | succ rounds ih =>
    have hround : ∀ m, R (Reading.runSteps client limits rounds (step client limits r m).1
          (step client limits r m).2).1
        (Reading.runSteps client' limits rounds (step client' limits r' m).1
          (step client' limits r' m).2).1 ∧
      (Reading.runSteps client limits rounds (step client limits r m).1
          (step client limits r m).2).2 =
        (Reading.runSteps client' limits rounds (step client' limits r' m).1
          (step client' limits r' m).2).2 := by
      intro m
      obtain ⟨hsimilar, hmoment⟩ := h.resume hclients limits (nextEvent limits r m).1
        { m with now := (nextEvent limits r m).2, woken := false }
      rw [step, step, ← h.nextEvent_eq limits m, hmoment]
      exact ih hsimilar _
    cases h with
    | done hvalues => exact ⟨hvalues, rfl⟩
    | _ => exact hround m

/-- Similar programs end in related values, and the clients have seen the same. -/
theorem Similar.runWithin {α α' : Type} {R : α → α' → Prop} {x : Reading α} {y : Reading α'}
    (h : x.Similar L R y) (hclients : L.Between client client') (limits : Limits) (rounds : Nat)
    (meter : Meter) :
    R (runWithin client limits rounds x meter).1 (runWithin client' limits rounds y meter).1 ∧
      (runWithin client limits rounds x meter).2 = (runWithin client' limits rounds y meter).2 := by
  obtain ⟨hsimilar, hmoment⟩ := h.launch hclients limits (begin limits meter)
  obtain ⟨hvalues, hended⟩ := hsimilar.runSteps hclients limits rounds
    (Reading.launch client limits x (begin limits meter)).2
  rw [Reading.runWithin, Reading.runWithin, ← hmoment]
  exact ⟨hvalues, congrArg Moment.meter hended⟩

end Run

namespace Similar
variable {L : Likeness} {α α' β β' : Type} {R : α → α' → Prop}

theorem mono {R' : α → α' → Prop} (hsub : ∀ a a', R a a' → R' a a') {x : Reading α}
    {y : Reading α'} (h : x.Similar L R y) : x.Similar L R' y := by
  induction h with
  | done hvalues => exact .done (hsub _ _ hvalues)
  | read _ ih => exact .read fun reply reply' hreply => ih reply reply' hreply hsub
  | fork hl hr _ _ _ ih => exact .fork hl hr fun result result' h => ih result result' h hsub
  | gather hm _ _ ih => exact .gather hm fun values values' h => ih values values' h hsub
  | pause _ ih => exact .pause (ih hsub)

theorem refl (x : Reading α) : x.Similar .exact Eq x := by
  induction x with
  | done value => exact .done rfl
  | read request next ih => exact .read fun reply reply' hreply => hreply ▸ ih reply
  | fork held left right next ihl ihr ih =>
    have hagree : ∀ {ε β : Type} (a a' : Except ε β), a = a' → Agree Eq Eq a a' := by
      rintro ε β (e | b) _ rfl
      · exact .error rfl
      · exact .ok rfl
    refine .fork (ihl.mono hagree) (ihr.mono hagree) fun result result' h => ?_
    have heq : result = result' := by
      cases h with
      | error he => rw [he]
      | ok hb => rw [Prod.ext hb.1 hb.2]
    rw [← heq]
    exact ih result
  | gather members next ihm ih =>
    refine .gather ihm fun values values' h => ?_
    rw [← funext h]
    exact ih values
  | pause rest ih => exact .pause ih

theorem bind {S : β → β' → Prop} {x : Reading β} {y : Reading β'} {f : β → Reading α}
    {g : β' → Reading α'} (h : x.Similar L S y) (hnext : ∀ b b', S b b' → (f b).Similar L R (g b')) :
    (x >>= f).Similar L R (y >>= g) := by
  induction h with
  | done hvalues => exact hnext _ _ hvalues
  | read _ ih => exact .read fun reply reply' hreply => ih reply reply' hreply hnext
  | fork hl hr _ _ _ ih => exact .fork hl hr fun result result' h => ih result result' h hnext
  | gather hm _ _ ih => exact .gather hm fun values values' h => ih values values' h hnext
  | pause _ ih => exact .pause (ih hnext)

/-- A change of the value on one side alone. -/
theorem map {S : β → β' → Prop} {R : α → β' → Prop} {x : Reading β} {y : Reading β'}
    {f : β → α} (h : x.Similar L S y) (hf : ∀ b b', S b b' → R (f b) b') :
    (x >>= fun b => .done (f b)).Similar L R y := by
  have hmapped : (x >>= fun b => .done (f b)).Similar L R (y >>= pure) :=
    h.bind fun b b' hb => .done (hf b b' hb)
  rwa [bind_pure] at hmapped

theorem both {γ γ' : Type} {S : β → β' → Prop} {U : γ → γ' → Prop} {left : Reading β}
    {left' : Reading β'} {right : Reading γ} {right' : Reading γ'} (hl : left.Similar L S left')
    (hr : right.Similar L U right') :
    (Reading.both left right).Similar L (Paired S U) (Reading.both left' right') := by
  refine .fork (E := Eq) (S := S) (U := U) (hl.bind fun b b' h => .done (.ok h))
    (hr.bind fun c c' h => .done (.ok h)) fun result result' h => ?_
  cases h with
  | @error e e' _ => exact e.elim
  | ok hpair => exact .done hpair

theorem all {S : β → β' → Prop} {xs : List (Reading β)} {ys : List (Reading β')}
    (h : List.Forall₂ (Similar L S) xs ys) :
    (Reading.all xs).Similar L (List.Forall₂ S) (Reading.all ys) := by
  induction h with
  | nil => exact .done .nil
  | cons hhead _ ih => exact (hhead.both ih).bind fun p p' h => .done (.cons h.1 h.2)

theorem inTurns {S : β → β' → Prop} {xs : List (Reading β)} {ys : List (Reading β')}
    (h : List.Forall₂ (Similar L S) xs ys) :
    (Reading.inTurns xs).Similar L (List.Forall₂ S) (Reading.inTurns ys) := by
  rw [inTurns_eq ys h.length_eq]
  refine .gather (S := fun _ => S) (fun i => ?_) fun values values' hvalues => .done ?_
  · exact h.get i.2 (h.length_eq ▸ i.2)
  · refine List.forall₂_iff_get.mpr ⟨by simp, fun i hi hi' => ?_⟩
    simpa using hvalues _

/-- Two relations by the places of two sides. -/
def sidesRelated {γ γ' : Type} (S : β → β' → Prop) (U : γ → γ' → Prop) :
    (i : Fin 2) → SideType β γ i → SideType β' γ' i → Prop
  | 0 => S
  | 1 => U

theorem alternate {γ γ' : Type} {S : β → β' → Prop} {U : γ → γ' → Prop} {left : Reading β}
    {left' : Reading β'} {right : Reading γ} {right' : Reading γ'} (hl : left.Similar L S left')
    (hr : right.Similar L U right') :
    (Reading.alternate left right).Similar L (Paired S U) (Reading.alternate left' right') := by
  have hsides : ∀ i, (sides left right i).Similar L (sidesRelated S U i) (sides left' right' i)
    | 0 => hl
    | 1 => hr
  exact .gather hsides fun values values' hvalues => .done ⟨hvalues 0, hvalues 1⟩

end Similar
end Reading
end DevicePoll
