import DevicePoll.Reading.Schedule
import Mathlib.Data.Fin.Tuple.Basic

/-! What holds at the end of every run. A program ensures a condition if the condition holds of every
value in which the program can end, however its requests are answered and in whatever order what
runs side by side comes to its end. The condition also knows whether a read was cut off. A run ends
in such a value, and once reads are stopped it issues no more of them. -/
namespace DevicePoll

/-- How requests may be answered; the flag tells that the read was cut off. -/
abbrev Replies : Type := (request : Request) → Outcome request.Reply → Bool → Prop

/-- The replies of a run: the answers of the client, and the failures of reads that are cut off. -/
inductive Replies.during (client : Client) (stop : Failure.Stop) : Replies
  | answered (request : Request) : during client stop request (client.answer request) false
  | cutOff (stage : Failure.Stage) (request : Request) :
      during client stop request (Outcome.fails (.cutOff stop stage request.oid.absolute)) true

namespace Reading

/-- The condition once it is known whether a read was cut off before. -/
def after {α : Type} (cut : Bool) (P : α → Bool → Prop) : α → Bool → Prop :=
  fun value later => P value (cut || later)

/-- What a fork can end in. An error of one side drops the other one, which has ended in a value or
is still under way. -/
inductive Sides {ε β γ : Type} (L : Except ε β → Bool → Prop) (U : Except ε γ → Bool → Prop) :
    Except ε (β × γ) → Bool → Prop
  | left {e : ε} {cut : Bool} : L (.error e) cut → Sides L U (.error e) cut
  | right {e : ε} {cut : Bool} : U (.error e) cut → Sides L U (.error e) cut
  | late {b : β} {e : ε} {cut cut' : Bool} : L (.ok b) cut → U (.error e) cut' →
      Sides L U (.error e) (cut || cut')
  | both {b : β} {c : γ} {cut cut' : Bool} : L (.ok b) cut → U (.ok c) cut' →
      Sides L U (.ok (b, c)) (cut || cut')

/-- The condition holds of every value in which the program can end. -/
inductive Ensures (replies : Replies) : {α : Type} → (α → Bool → Prop) → Reading α → Prop
  | done {α : Type} {P : α → Bool → Prop} {value : α} : P value false →
      Ensures replies P (.done value)
  | read {α : Type} {P : α → Bool → Prop} {request : Request}
      {next : Outcome request.Reply → Reading α} :
      (∀ reply cut, replies request reply cut → Ensures replies (after cut P) (next reply)) →
      Ensures replies P (.read request next)
  | fork {α ε β γ : Type} {P : α → Bool → Prop} {L : Except ε β → Bool → Prop}
      {U : Except ε γ → Bool → Prop} {held : Bool} {left : Reading (Except ε β)}
      {right : Reading (Except ε γ)} {next : Except ε (β × γ) → Reading α} :
      Ensures replies L left → Ensures replies U right →
      (∀ result cut, Sides L U result cut → Ensures replies (after cut P) (next result)) →
      Ensures replies P (.fork held left right next)
  | gather {α : Type} {n : Nat} {β : Fin n → Type} {P : α → Bool → Prop}
      {Q : (i : Fin n) → β i → Bool → Prop} {members : (i : Fin n) → Reading (β i)}
      {next : ((i : Fin n) → β i) → Reading α} :
      (∀ i, Ensures replies (Q i) (members i)) →
      (∀ (values : (i : Fin n) → β i) (cuts : Fin n → Bool), (∀ i, Q i (values i) (cuts i)) →
        Ensures replies (after (decide (∃ i, cuts i = true)) P) (next values)) →
      Ensures replies P (.gather members next)
  | pause {α : Type} {P : α → Bool → Prop} {rest : Reading α} : Ensures replies P rest →
      Ensures replies P (.pause rest)

/-- The condition holds of every value in which a program under way can end. -/
inductive Running.Ensures (replies : Replies) :
    {α : Type} → (α → Bool → Prop) → Running α → Prop
  | done {α : Type} {P : α → Bool → Prop} {value : α} : P value false →
      Running.Ensures replies P (.done value)
  | paused {α : Type} {P : α → Bool → Prop} {rest : Reading α} : rest.Ensures replies P →
      Running.Ensures replies P (.paused rest)
  | waiting {α : Type} {P : α → Bool → Prop} {ticket : Nat} {request : Request}
      {next : Outcome request.Reply → Reading α} :
      (∀ reply cut, replies request reply cut → (next reply).Ensures replies (after cut P)) →
      Running.Ensures replies P (.waiting ticket request next)
  | inFlight {α : Type} {P : α → Bool → Prop} {ends : Nat} {request : Request}
      {next : Outcome request.Reply → Reading α} :
      (∀ reply cut, replies request reply cut → (next reply).Ensures replies (after cut P)) →
      Running.Ensures replies P (.inFlight ends request next)
  | fork {α ε β γ : Type} {P : α → Bool → Prop} {L : Except ε β → Bool → Prop}
      {U : Except ε γ → Bool → Prop} {held : Bool} {left : Running (Except ε β)}
      {right : Running (Except ε γ)} {next : Except ε (β × γ) → Reading α} :
      Running.Ensures replies L left → Running.Ensures replies U right →
      (∀ result cut, Sides L U result cut → (next result).Ensures replies (after cut P)) →
      Running.Ensures replies P (.fork held left right next)
  | gather {α : Type} {n : Nat} {β : Fin n → Type} {P : α → Bool → Prop}
      {Q : (i : Fin n) → β i → Bool → Prop} {turn : Nat} {members : (i : Fin n) → Running (β i)}
      {next : ((i : Fin n) → β i) → Reading α} :
      (∀ i, Running.Ensures replies (Q i) (members i)) →
      (∀ (values : (i : Fin n) → β i) (cuts : Fin n → Bool), (∀ i, Q i (values i) (cuts i)) →
        (next values).Ensures replies (after (decide (∃ i, cuts i = true)) P)) →
      Running.Ensures replies P (.gather turn members next)

@[simp] theorem after_false {α : Type} (P : α → Bool → Prop) : after false P = P := by
  funext value later
  rw [after, Bool.false_or]

section Laws
variable {replies : Replies} {α β γ : Type} {P P' : α → Bool → Prop}

/-- A fork whose left side has ended in a value ends as its right side does. -/
theorem Sides.joined {ε : Type} {L : Except ε β → Bool → Prop} {U : Except ε γ → Bool → Prop}
    {b : β} {c : Except ε γ} {cut cut' : Bool} (hb : L (.ok b) cut) (hc : U c cut') :
    Sides L U (Reading.joined (.ok b) c) (cut || cut') := by
  cases c with
  | error e => exact .late hb hc
  | ok c => exact .both hb hc

theorem Sides.joined_open {ε : Type} {L : Except ε β → Bool → Prop}
    {U : Except ε γ → Bool → Prop} {b : Except ε β} {c : Except ε γ} (hb : L b false)
    (hc : U c false) : Sides L U (Reading.joined b c) false := by
  cases b with
  | error e => exact .left hb
  | ok b => exact .joined hb hc

namespace Ensures

theorem mono {x : Reading α} (h : x.Ensures replies P) (hsub : ∀ a cut, P a cut → P' a cut) :
    x.Ensures replies P' := by
  induction h with
  | done hvalue => exact .done (hsub _ _ hvalue)
  | read _ ih => exact .read fun reply cut hreply => ih reply cut hreply fun a later => hsub a _
  | fork hl hr _ _ _ ih =>
    exact .fork hl hr fun result cut hsides => ih result cut hsides fun a later => hsub a _
  | gather hm _ _ ih =>
    exact .gather hm fun values cuts hall => ih values cuts hall fun a later => hsub a _
  | pause _ ih => exact .pause (ih hsub)

/-- What holds of every value holds of every value in which a program can end. -/
theorem of_forall (x : Reading α) (h : ∀ value cut, P value cut) : x.Ensures replies P := by
  induction x with
  | done value => exact .done (h value false)
  | read request next ih => exact .read fun reply cut _ => ih reply fun value later => h value _
  | fork held left right next ihl ihr ih =>
    exact .fork (ihl (P := fun _ _ => True) fun _ _ => trivial)
      (ihr (P := fun _ _ => True) fun _ _ => trivial)
      fun result cut _ => ih result fun value later => h value _
  | gather members next ihm ih =>
    exact .gather (fun i => ihm i (P := fun _ _ => True) fun _ _ => trivial)
      fun values cuts _ => ih values fun value later => h value _
  | pause rest ih => exact .pause (ih h)

theorem bind {Q : β → Bool → Prop} {x : Reading β} {f : β → Reading α} (h : x.Ensures replies Q)
    (hnext : ∀ b cut, Q b cut → (f b).Ensures replies (after cut P)) :
    (x >>= f).Ensures replies P := by
  induction h generalizing P with
  | done hvalue => exact after_false P ▸ hnext _ _ hvalue
  | read _ ih =>
    refine .read fun reply cut hreply => ih reply cut hreply fun b later hb => ?_
    exact (hnext b _ hb).mono fun a last => by simp only [after, Bool.or_assoc, imp_self]
  | fork hl hr _ _ _ ih =>
    refine .fork hl hr fun result cut hsides => ih result cut hsides fun b later hb => ?_
    exact (hnext b _ hb).mono fun a last => by simp only [after, Bool.or_assoc, imp_self]
  | gather hm _ _ ih =>
    refine .gather hm fun values cuts hall => ih values cuts hall fun b later hb => ?_
    exact (hnext b _ hb).mono fun a last => by simp only [after, Bool.or_assoc, imp_self]
  | pause _ ih => exact .pause (ih hnext)

end Ensures
end Laws

/-- The conditions on two values that come of programs side by side. -/
inductive Both {β γ : Type} (L : β → Bool → Prop) (U : γ → Bool → Prop) : β × γ → Bool → Prop
  | mk {b : β} {c : γ} {cut cut' : Bool} : L b cut → U c cut' → Both L U (b, c) (cut || cut')

/-- The conditions on the values of some items, one after another. -/
inductive Each {ι β : Type} (P : ι → β → Bool → Prop) : List ι → List β → Bool → Prop
  | nil : Each P [] [] false
  | cons {i : ι} {b : β} {is : List ι} {bs : List β} {cut cut' : Bool} : P i b cut →
      Each P is bs cut' → Each P (i :: is) (b :: bs) (cut || cut')

theorem Each.ofFn {ι β : Type} {P : ι → β → Bool → Prop} (is : List ι)
    {values : Fin is.length → β} {cuts : Fin is.length → Bool}
    (h : ∀ i, P is[i] (values i) (cuts i)) :
    Each P is (List.ofFn values) (decide (∃ i, cuts i = true)) := by
  induction is with
  | nil =>
    have hnone : decide (∃ i, cuts i = true) = false := by simp
    rw [hnone, List.ofFn_zero]
    exact .nil
  | cons i is ih =>
    have hcuts : decide (∃ i, cuts i = true) = (cuts 0 || decide (∃ i, cuts (Fin.succ i) = true)) := by
      rw [Bool.eq_iff_iff, Bool.or_eq_true, decide_eq_true_eq, decide_eq_true_eq]
      exact Fin.exists_fin_succ
    rw [hcuts, List.ofFn_succ]
    exact .cons (h 0) (ih fun j => h j.succ)

/-- Items that the conditions tell are the items of the conditions, in their order. -/
theorem Each.map_eq {ι β : Type} {P : ι → β → Bool → Prop} {f : β → ι}
    (hf : ∀ i b cut, P i b cut → f b = i) {is : List ι} {bs : List β} {cut : Bool}
    (h : Each P is bs cut) : bs.map f = is := by
  induction h with
  | nil => rfl
  | cons hhead _ ih => rw [List.map_cons, hf _ _ _ hhead, ih]

/-- Each value meets the condition of its item. -/
theorem Each.of_mem {ι β : Type} {P : ι → β → Bool → Prop} {is : List ι} {bs : List β} {cut : Bool}
    (h : Each P is bs cut) {b : β} (hb : b ∈ bs) :
    ∃ i ∈ is, ∃ own, P i b own := by
  induction h with
  | nil => cases hb
  | cons hhead _ ih =>
    obtain rfl | hb := List.mem_cons.1 hb
    · exact ⟨_, List.mem_cons_self, _, hhead⟩
    · obtain ⟨i, hi, own, hown⟩ := ih hb
      exact ⟨i, List.mem_cons_of_mem _ hi, own, hown⟩

/-- If the values together were cut off, one of them was. -/
theorem Each.exists_of_cut {ι β : Type} {P : ι → β → Bool → Prop} {is : List ι} {bs : List β}
    (h : Each P is bs true) : ∃ i ∈ is, ∃ b ∈ bs, P i b true := by
  generalize hcut : true = cut at h
  induction h with
  | nil => cases hcut
  | @cons i b is bs own others hhead _ ih =>
    cases own with
    | true => exact ⟨i, List.mem_cons_self, b, List.mem_cons_self, hhead⟩
    | false =>
      obtain ⟨j, hj, d, hd, hcondition⟩ := ih hcut
      exact ⟨j, List.mem_cons_of_mem _ hj, d, List.mem_cons_of_mem _ hd, hcondition⟩

namespace Ensures
variable {replies : Replies} {ι β γ : Type}

theorem both {L : β → Bool → Prop} {U : γ → Bool → Prop} {left : Reading β} {right : Reading γ}
    (hl : left.Ensures replies L) (hr : right.Ensures replies U) :
    (Reading.both left right).Ensures replies (Both L U) := by
  refine .fork (hl.bind (P := fun x cut => ∃ b, x = .ok b ∧ L b cut) fun b cut hb => .done ?_)
    (hr.bind (P := fun x cut => ∃ c, x = .ok c ∧ U c cut) fun c cut hc => .done ?_)
    fun result cut hsides => ?_
  · exact ⟨b, rfl, by rwa [Bool.or_false]⟩
  · exact ⟨c, rfl, by rwa [Bool.or_false]⟩
  · cases hsides with
    | @left e => exact e.elim
    | @right e => exact e.elim
    | @late _ e => exact e.elim
    | both hb hc =>
      obtain ⟨b, hb, hl⟩ := hb
      obtain ⟨c, hc, hr⟩ := hc
      cases hb
      cases hc
      exact .done (by simpa only [after, Bool.or_false] using .mk hl hr)

theorem all {P : ι → β → Bool → Prop} {program : ι → Reading β} (is : List ι)
    (h : ∀ i ∈ is, (program i).Ensures replies (P i)) :
    (Reading.all (is.map program)).Ensures replies (Each P is) := by
  induction is with
  | nil => exact .done .nil
  | cons i is ih =>
    obtain ⟨hhead, htail⟩ := List.forall_mem_cons.1 h
    refine (hhead.both (ih htail)).bind fun pair cut hpair => .done ?_
    cases hpair with
    | mk hb hbs => simpa only [after, Bool.or_false] using .cons hb hbs

theorem inTurns {P : ι → β → Bool → Prop} {program : ι → Reading β} (is : List ι)
    (h : ∀ i ∈ is, (program i).Ensures replies (P i)) :
    (Reading.inTurns (is.map program)).Ensures replies (Each P is) := by
  rw [inTurns_eq (is.map program) (List.length_map program).symm]
  refine .gather (Q := fun i => P is[i]) (fun i => ?_) fun values cuts hall => .done ?_
  · simpa using h is[i] (List.getElem_mem _)
  · simpa only [after, Bool.or_false] using Each.ofFn is hall

/-- Two conditions by the places of two sides. -/
def sidesHold (L : β → Bool → Prop) (U : γ → Bool → Prop) :
    (i : Fin 2) → SideType β γ i → Bool → Prop
  | 0 => L
  | 1 => U

theorem alternate {L : β → Bool → Prop} {U : γ → Bool → Prop} {left : Reading β}
    {right : Reading γ} (hl : left.Ensures replies L) (hr : right.Ensures replies U) :
    (Reading.alternate left right).Ensures replies (Both L U) := by
  have hsides : ∀ i, (sides left right i).Ensures replies (sidesHold L U i)
    | 0 => hl
    | 1 => hr
  refine .gather hsides fun values cuts hall => .done ?_
  have hcuts : decide (∃ i, cuts i = true) = (cuts 0 || cuts 1) := by
    rw [Bool.eq_iff_iff, Bool.or_eq_true, decide_eq_true_eq]
    exact Fin.exists_fin_two
  rw [after, hcuts, Bool.or_false]
  exact .mk (hall 0) (hall 1)

end Ensures
end Reading
end DevicePoll
