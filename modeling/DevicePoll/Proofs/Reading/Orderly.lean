import DevicePoll.Reading.Basic

/-! Orderly programs. Wherever an error of one side drops the other, nothing is read after a read, and
all is asked for at once: such sides come to their ends in their order if their reads do. The reads of most
groups are of this kind, and everything else that runs side by side is carried to its end. -/
namespace DevicePoll

namespace Reading

/-- No read follows another one, and nothing pauses. What comes after a read or a fork only turns its
outcome into the result, and a value into a value. -/
inductive Flat : {ε β : Type} → Reading (Except ε β) → Prop
  | done {ε β : Type} (b : β) : Flat (.done (.ok b) : Reading (Except ε β))
  | read {ε β : Type} {request : Request} {next : Outcome request.Reply → Reading (Except ε β)}
      (ends : ∀ reply, ∃ result, next reply = .done result) : Flat (.read request next)
  | fork {ε ε' β γ δ : Type} {held : Bool} {left : Reading (Except ε β)}
      {right : Reading (Except ε γ)} {next : Except ε (β × γ) → Reading (Except ε' δ)}
      (hleft : Flat left) (hright : Flat right)
      (values : ∀ pair, ∃ value, next (.ok pair) = .done (.ok value))
      (errors : ∀ e, ∃ result, next (.error e) = .done result) : Flat (.fork held left right next)

/-- Only flat programs drop one another, if any may do so. -/
inductive Orderly (races : Prop) : {α : Type} → Reading α → Prop
  | done {α : Type} (value : α) : Orderly races (.done value)
  | read {α : Type} {request : Request} {next : Outcome request.Reply → Reading α}
      (hnext : ∀ reply, Orderly races (next reply)) : Orderly races (.read request next)
  | group {α ε β γ : Type} {held : Bool} {left : Reading (Except ε β)} {right : Reading (Except ε γ)}
      {next : Except ε (β × γ) → Reading α} (allowed : races) (hleft : left.Flat) (hright : right.Flat)
      (hnext : ∀ result, Orderly races (next result)) : Orderly races (.fork held left right next)
  | both {α ε β γ : Type} {held : Bool} {left : Reading (Except ε β)} {right : Reading (Except ε γ)}
      {next : Except ε (β × γ) → Reading α} (noError : ε → False) (hleft : Orderly races left)
      (hright : Orderly races right) (hnext : ∀ result, Orderly races (next result)) :
      Orderly races (.fork held left right next)
  | gather {α : Type} {n : Nat} {β : Fin n → Type} {members : (i : Fin n) → Reading (β i)}
      {next : ((i : Fin n) → β i) → Reading α} (hmembers : ∀ i, Orderly races (members i))
      (hnext : ∀ values, Orderly races (next values)) : Orderly races (.gather members next)

variable {races : Prop} {α β γ : Type}

theorem Flat.orderly {ε : Type} {x : Reading (Except ε β)} (h : x.Flat) (allowed : races) :
    x.Orderly races := by
  cases h with
  | done b => exact .done _
  | read ends =>
    refine .read fun reply => ?_
    obtain ⟨result, hresult⟩ := ends reply
    exact hresult ▸ .done result
  | fork hleft hright values errors =>
    refine .group allowed hleft hright fun result => ?_
    cases result with
    | ok pair =>
      obtain ⟨value, hvalue⟩ := values pair
      exact hvalue ▸ .done _
    | error e =>
      obtain ⟨result, hresult⟩ := errors e
      exact hresult ▸ .done result

/-- A flat program with its outcome changed, a value into a value. -/
theorem Flat.map {ε ε' δ : Type} {x : Reading (Except ε β)} (h : x.Flat)
    {f : Except ε β → Except ε' δ} (hf : ∀ b, ∃ d, f (.ok b) = .ok d) :
    (x >>= fun outcome => .done (f outcome)).Flat := by
  cases h with
  | done b =>
    obtain ⟨d, hd⟩ := hf b
    rw [done_bind, hd]
    exact .done d
  | read ends =>
    refine .read fun reply => ?_
    obtain ⟨result, hresult⟩ := ends reply
    rw [hresult]
    exact ⟨f result, rfl⟩
  | fork hleft hright values errors =>
    refine .fork hleft hright (fun pair => ?_) fun e => ?_
    · obtain ⟨value, hvalue⟩ := values pair
      obtain ⟨d, hd⟩ := hf value
      rw [hvalue]
      exact ⟨d, congrArg Reading.done hd⟩
    · obtain ⟨result, hresult⟩ := errors e
      rw [hresult]
      exact ⟨f result, rfl⟩

namespace Orderly

theorem bind {x : Reading β} {f : β → Reading α} (h : x.Orderly races) (hf : ∀ b, (f b).Orderly races) :
    (x >>= f).Orderly races := by
  induction h with
  | done value => exact hf value
  | read _ ih => exact .read fun reply => ih reply hf
  | group allowed hleft hright _ ih => exact .group allowed hleft hright fun result => ih result hf
  | both noError hleft hright _ _ _ ih =>
    exact .both noError hleft hright fun result => ih result hf
  | gather hmembers _ _ ih => exact .gather hmembers fun values => ih values hf

theorem map {x : Reading β} (h : x.Orderly races) (f : β → α) :
    (x >>= fun b => .done (f b)).Orderly races :=
  h.bind fun b => .done (f b)

theorem both' {left : Reading β} {right : Reading γ} (hleft : left.Orderly races)
    (hright : right.Orderly races) : (Reading.both left right).Orderly races := by
  refine .both Empty.elim (hleft.map _) (hright.map _) fun result => ?_
  cases result with
  | ok pair => exact .done pair
  | error e => exact e.elim

theorem all {xs : List (Reading β)} (h : ∀ x ∈ xs, x.Orderly races) : (Reading.all xs).Orderly races := by
  induction xs with
  | nil => exact .done []
  | cons x xs ih =>
    obtain ⟨hhead, htail⟩ := List.forall_mem_cons.mp h
    exact (hhead.both' (ih htail)).map _

theorem inTurns {xs : List (Reading β)} (h : ∀ x ∈ xs, x.Orderly races) :
    (Reading.inTurns xs).Orderly races :=
  .gather (fun i => h _ (List.getElem_mem i.isLt)) fun _ => .done _

theorem alternate {left : Reading β} {right : Reading γ} (hleft : left.Orderly races)
    (hright : right.Orderly races) : (Reading.alternate left right).Orderly races := by
  have hsides : ∀ i, (sides left right i).Orderly races
    | 0 => hleft
    | 1 => hright
  exact .gather hsides fun _ => .done _

end Orderly
end Reading

end DevicePoll
