import DevicePoll.Query.Request

/-! Programs that read from a device. A program is finished, or asks one request and goes on with
the outcome, or runs other programs side by side, or lets those that were started before it go first.
`eval` gives the value of a program whose requests are answered one after another. -/
namespace DevicePoll

/-- A program that reads from a device and ends in a value. The two sides of a fork run at the same
time; as soon as one of them ends in an error the other one is dropped, but an error of the right side
may be held back until the left side has ended. The members of a gathering run at the same time, each to
its end, and take turns at being the first that is looked at. A pause leaves the rest to a later look of
the same instant. -/
inductive Reading : Type → Type 1 where
  | done {α : Type} (value : α) : Reading α
  | read {α : Type} (request : Request) (next : Outcome request.Reply → Reading α) : Reading α
  | fork {ε α β γ : Type} (held : Bool) (left : Reading (Except ε β)) (right : Reading (Except ε γ))
      (next : Except ε (β × γ) → Reading α) : Reading α
  | gather {α : Type} {n : Nat} {β : Fin n → Type} (members : (i : Fin n) → Reading (β i))
      (next : ((i : Fin n) → β i) → Reading α) : Reading α
  | pause {α : Type} (rest : Reading α) : Reading α

namespace Reading

def bind {α δ : Type} : Reading α → (α → Reading δ) → Reading δ
  | done value, f => f value
  | read request next, f => read request fun reply => (next reply).bind f
  | fork held left right next, f => fork held left right fun result => (next result).bind f
  | gather members next, f => gather members fun values => (next values).bind f
  | pause rest, f => pause (rest.bind f)

instance : Monad Reading where
  pure := done
  bind := bind

@[simp] theorem pure_eq {α : Type} (value : α) : (pure value : Reading α) = done value := rfl

@[simp] theorem done_bind {α δ : Type} (value : α) (f : α → Reading δ) :
    done value >>= f = f value := rfl

@[simp] theorem read_bind {α δ : Type} (request : Request)
    (next : Outcome request.Reply → Reading α) (f : α → Reading δ) :
    read request next >>= f = read request fun reply => next reply >>= f := rfl

@[simp] theorem fork_bind {ε α β γ δ : Type} (held : Bool) (left : Reading (Except ε β))
    (right : Reading (Except ε γ)) (next : Except ε (β × γ) → Reading α) (f : α → Reading δ) :
    fork held left right next >>= f = fork held left right fun result => next result >>= f := rfl

@[simp] theorem gather_bind {α δ : Type} {n : Nat} {β : Fin n → Type}
    (members : (i : Fin n) → Reading (β i)) (next : ((i : Fin n) → β i) → Reading α)
    (f : α → Reading δ) :
    gather members next >>= f = gather members fun values => next values >>= f := rfl

@[simp] theorem pause_bind {α δ : Type} (rest : Reading α) (f : α → Reading δ) :
    pause rest >>= f = pause (rest >>= f) := rfl

private theorem bind_done_eq {α : Type} (x : Reading α) : x.bind done = x := by
  induction x with
  | done value => rfl
  | read request next ih => simp only [bind, ih]
  | fork held left right next _ _ ih => simp only [bind, ih]
  | gather members next _ ih => simp only [bind, ih]
  | pause rest ih => simp only [bind, ih]

private theorem bind_assoc_eq {α β γ : Type} (x : Reading α) (f : α → Reading β)
    (g : β → Reading γ) : (x.bind f).bind g = x.bind fun a => (f a).bind g := by
  induction x with
  | done value => rfl
  | read request next ih => simp only [bind, ih]
  | fork held left right next _ _ ih => simp only [bind, ih]
  | gather members next _ ih => simp only [bind, ih]
  | pause rest ih => simp only [bind, ih]

instance : LawfulMonad Reading :=
  LawfulMonad.mk' Reading bind_done_eq (fun _ _ => rfl) bind_assoc_eq

/-- What a fork ends in, when the left side is looked at first. -/
def joined {ε β γ : Type} : Except ε β → Except ε γ → Except ε (β × γ)
  | .error e, _ => .error e
  | .ok _, .error e => .error e
  | .ok b, .ok c => .ok (b, c)

/-- Two programs side by side, each to its end, where the left one is always looked at first. -/
def both {β γ : Type} (left : Reading β) (right : Reading γ) : Reading (β × γ) :=
  fork false (left >>= fun b => done (.ok b)) (right >>= fun c => done (.ok c)) fun
    | .ok pair => done pair
    | .error (e : Empty) => e.elim

/-- Programs side by side, each to its end, which are always looked at in their order. -/
def all {β : Type} : List (Reading β) → Reading (List β)
  | [] => done []
  | x :: xs => both x (all xs) >>= fun pair => done (pair.1 :: pair.2)

/-- Programs side by side, each to its end, which take turns at being the first. -/
def inTurns {β : Type} (xs : List (Reading β)) : Reading (List β) :=
  gather (fun i : Fin xs.length => xs[i]) fun values => done (List.ofFn values)

/-- The places of a list may be counted by any number that is its length. -/
theorem inTurns_eq {β : Type} {n : Nat} (xs : List (Reading β)) (hn : n = xs.length) :
    inTurns xs = gather (fun i : Fin n => xs[i]) fun values => done (List.ofFn values) := by
  subst hn
  rfl

/-- The types of two sides by their places. -/
@[reducible] def SideType (β γ : Type) : Fin 2 → Type
  | 0 => β
  | 1 => γ

/-- Two programs by their places. -/
def sides {β γ : Type} (left : Reading β) (right : Reading γ) :
    (i : Fin 2) → Reading (SideType β γ i)
  | 0 => left
  | 1 => right

/-- Two programs side by side, each to its end, which take turns at being the first. -/
def alternate {β γ : Type} (left : Reading β) (right : Reading γ) : Reading (β × γ) :=
  gather (sides left right) fun values => done (values 0, values 1)

/-- All of some counts together. -/
def total (counts : List Nat) : Nat := counts.foldr (· + ·) 0

@[simp] theorem total_nil : total [] = 0 := rfl

@[simp] theorem total_cons (count : Nat) (counts : List Nat) :
    total (count :: counts) = count + total counts := rfl

section Eval
variable (answer : (request : Request) → Outcome request.Reply)

/-- The value of a program whose requests are answered one after another; the right side of a fork
is not run after an error on the left. -/
def eval {α : Type} : Reading α → α
  | done value => value
  | read request next => eval (next (answer request))
  | fork _ left right next =>
    eval (next (match eval left with
      | .error e => .error e
      | .ok b =>
        match eval right with
        | .error e => .error e
        | .ok c => .ok (b, c)))
  | gather members next => eval (next fun i => eval (members i))
  | pause rest => eval rest

/-- The value of a program, with the number of rounds that it needs when all that runs side by side runs
to its end. Every read takes two rounds at most, one for its permit and one for its end, and every pause
takes one. -/
def tally {α : Type} : Reading α → α × Nat
  | done value => (value, 0)
  | read request next =>
    let rest := tally (next (answer request))
    (rest.1, rest.2 + 2)
  | fork _ left right next =>
    let l := tally left
    let r := tally right
    let rest := tally (next (joined l.1 r.1))
    (rest.1, l.2 + r.2 + rest.2)
  | gather (n := n) members next =>
    let rest := tally (next fun i => (tally (members i)).1)
    (rest.1, total ((List.finRange n).map fun i => (tally (members i)).2) + rest.2)
  | pause rest =>
    let later := tally rest
    (later.1, later.2 + 1)

@[simp] theorem eval_done {α : Type} (value : α) : eval answer (done value) = value := rfl

@[simp] theorem eval_read {α : Type} (request : Request)
    (next : Outcome request.Reply → Reading α) :
    eval answer (read request next) = eval answer (next (answer request)) := rfl

@[simp] theorem eval_fork {ε α β γ : Type} (held : Bool) (left : Reading (Except ε β))
    (right : Reading (Except ε γ)) (next : Except ε (β × γ) → Reading α) :
    eval answer (fork held left right next) =
      eval answer (next (joined (eval answer left) (eval answer right))) := by
  rw [eval]
  cases eval answer left with
  | error e => rfl
  | ok b => cases eval answer right <;> rfl

@[simp] theorem eval_gather {α : Type} {n : Nat} {β : Fin n → Type}
    (members : (i : Fin n) → Reading (β i)) (next : ((i : Fin n) → β i) → Reading α) :
    eval answer (gather members next) =
      eval answer (next fun i => eval answer (members i)) := rfl

@[simp] theorem eval_pause {α : Type} (rest : Reading α) :
    eval answer (pause rest) = eval answer rest := rfl

theorem tally_fst {α : Type} (x : Reading α) : (tally answer x).1 = eval answer x := by
  induction x with
  | done value => rfl
  | read request next ih => exact ih _
  | fork held left right next ihl ihr ih => rw [eval_fork, ← ihl, ← ihr, ← ih]; rfl
  | gather members next ihm ih => rw [eval_gather, ← funext ihm, ← ih]; rfl
  | pause rest ih => exact ih

@[simp] theorem eval_bind {α β : Type} (x : Reading α) (f : α → Reading β) :
    eval answer (x >>= f) = eval answer (f (eval answer x)) := by
  induction x with
  | done value => rfl
  | read request next ih => exact ih _ f
  | fork held left right next _ _ ih => rw [fork_bind, eval_fork, eval_fork]; exact ih _ f
  | gather members next _ ih => rw [gather_bind, eval_gather, eval_gather]; exact ih _ f
  | pause rest ih => exact ih f

/-- The rounds of a program are followed by those of what it goes on with. -/
theorem tally_bind_snd {α β : Type} (x : Reading α) (f : α → Reading β) :
    (tally answer (x >>= f)).2 = (tally answer x).2 + (tally answer (f (eval answer x))).2 := by
  induction x with
  | done value => exact (Nat.zero_add _).symm
  | read request next ih =>
    rw [read_bind, eval_read, tally, tally, ih]
    exact Nat.add_right_comm _ _ _
  | fork held left right next _ _ ih =>
    rw [fork_bind, eval_fork, tally, tally, ih, ← tally_fst answer left, ← tally_fst answer right]
    exact (Nat.add_assoc _ _ _).symm
  | gather members next _ ih =>
    rw [gather_bind, eval_gather, tally, tally, ih,
      ← funext fun i => tally_fst answer (members i)]
    exact (Nat.add_assoc _ _ _).symm
  | pause rest ih =>
    rw [pause_bind, eval_pause, tally, tally, ih]
    exact Nat.add_right_comm _ _ _

@[simp] theorem eval_inTurns {β : Type} (xs : List (Reading β)) :
    eval answer (inTurns xs) = xs.map (eval answer) := by
  rw [inTurns, eval_gather, eval_done]
  exact List.ext_getElem (by simp) (by simp)

@[simp] theorem eval_alternate {β γ : Type} (left : Reading β) (right : Reading γ) :
    eval answer (alternate left right) = (eval answer left, eval answer right) := rfl

end Eval

/-- The program asks for one more look when it is first looked at, unless it comes to its end then: it
holds errors back somewhere in what it starts with. -/
def asks {α : Type} : Reading α → Bool
  | done _ => false
  | read _ _ => false
  | fork held left right _ => held || left.asks || right.asks
  | gather (n := n) members _ => (List.finRange n).any fun i => (members i).asks
  | pause rest => rest.asks

/-- The most programs that are looked at each time that one of them is. More of them have a queue of
those that there is something new about. -/
def mostTogether : Nat := 30

end Reading

/-- A program that can fail. -/
abbrev Poll : Type → Type 1 := ExceptT Failure Reading

namespace Poll

def request (q : Request) : Poll q.Reply := ExceptT.mk (.read q .done)

def ofOutcome {α : Type} (outcome : Outcome α) : Poll α := ExceptT.mk (.done outcome)

def fails {α : Type} (cause : Failure.Cause) : Poll α := ofOutcome (Outcome.fails cause)

/-- The program with its outcome changed. -/
def mapOutcome {α β : Type} (f : Outcome α → Outcome β) (p : Poll α) : Poll β :=
  ExceptT.mk (p.run >>= fun outcome => .done (f outcome))

/-- Programs side by side, where a failure drops the others. -/
def row {α : Type} (held : Bool) : List (Poll α) → Poll (List α)
  | [] => pure []
  | p :: ps =>
    ExceptT.mk (.fork held p.run (row held ps).run fun result =>
      .done (result.map fun e => e.1 :: e.2))

/-- The program after some pauses. -/
def later {α : Type} : Nat → Poll α → Poll α
  | 0, p => p
  | pauses + 1, p => ExceptT.mk (.pause (later pauses p).run)

/-- The programs of a queue, which is left for a moment when two programs of it have asked for one more
look: the others behind them are started in the next round. -/
def spread {α : Type} (asked : Nat) : List (Poll α) → List (Poll α)
  | [] => []
  | p :: ps => p.later (asked / 2) :: spread (asked + p.run.asks.toNat) ps

/-- Programs side by side, where a failure drops the others: the first failure in time if they are looked
at together, and else the first one in their order. A queue is looked at in that order as well, not in the
order in which the programs in it are woken. -/
def all {α : Type} (ps : List (Poll α)) : Poll (List α) :=
  if ps.length ≤ Reading.mostTogether then row false ps else row true (spread 0 ps)

theorem exists_of_mem_spread {α : Type} {asked : Nat} {ps : List (Poll α)} {q : Poll α}
    (h : q ∈ spread asked ps) : ∃ p ∈ ps, ∃ pauses, q = p.later pauses := by
  induction ps generalizing asked with
  | nil => cases h
  | cons p ps ih =>
    rcases List.mem_cons.mp h with rfl | hrest
    · exact ⟨p, List.mem_cons_self, _, rfl⟩
    · obtain ⟨found, hfound, pauses, rfl⟩ := ih hrest
      exact ⟨found, List.mem_cons_of_mem p hfound, pauses, rfl⟩

/-- What holds of the programs side by side. The programs of a queue may pause before they start. -/
theorem all_induction {α : Type} {ps : List (Poll α)} {good : Poll α → Prop}
    {motive : Poll (List α) → Prop} (later : ∀ p, good p → good (ExceptT.mk (.pause p.run)))
    (nil : motive (pure []))
    (cons : ∀ held p rest, good p → motive rest →
      motive (ExceptT.mk (.fork held p.run rest.run fun result =>
        .done (result.map fun e => e.1 :: e.2))))
    (h : ∀ p ∈ ps, good p) : motive (all ps) := by
  have hlater : ∀ p, good p → ∀ pauses, good (p.later pauses) := by
    intro p hp pauses
    induction pauses with
    | zero => exact hp
    | succ pauses ih => exact later _ ih
  have hrow : ∀ held (qs : List (Poll α)), (∀ q ∈ qs, good q) → motive (row held qs) := by
    intro held qs hqs
    induction qs with
    | nil => exact nil
    | cons q qs ih =>
      obtain ⟨hhead, htail⟩ := List.forall_mem_cons.mp hqs
      exact cons held q _ hhead (ih htail)
  rw [all]
  split
  · exact hrow false ps h
  · refine hrow true _ fun q hq => ?_
    obtain ⟨p, hp, pauses, rfl⟩ := exists_of_mem_spread hq
    exact hlater p (h p hp) pauses

end Poll
end DevicePoll
