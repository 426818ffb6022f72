import DevicePoll.Proofs.Source.Scan
import DevicePoll.Communicator

/-! Accounts of how a property was resolved: what it came to, together with the failures of the
sources that were asked on the way. Resolving a property with an account of it asks the same requests
in the same places as resolving it. -/
namespace DevicePoll

/-- The failure of an outcome, if it is one. -/
def Outcome.failures {α : Type} : Outcome α → List Failure
  | .ok _ => []
  | .error failure => [failure]

/-- What the sources of a property came to, with the failures of those that were asked. A hard
failure has its kind from one of them. -/
structure Account (α : Type) where
  outcome : Outcome α
  failures : List Failure
  founded : ∀ failure, outcome = .error failure → failure.kind.isHard = true →
    ∃ cause ∈ failures, cause.kind = failure.kind

/-- A verdict with the failures of the candidates that were asked for it. -/
structure Hearing (α : Type) where
  verdict : Verdict α
  failures : List Failure
  founded : ∀ level failure ends, verdict = .decided level (.error failure) ends →
    failure ∈ failures

namespace Hearing
variable {α : Type}

def silent : Hearing α := ⟨.exhausted false, [], nofun⟩

def decided (level : Nat) (outcome : Outcome α) (ends : outcome.decides = true) : Hearing α where
  verdict := .decided level outcome ends
  failures := outcome.failures
  founded := by
    rintro level failure ends h
    cases h
    exact List.mem_singleton_self failure

/-- The hearing after a candidate that did not decide. -/
def after (outcome : Outcome α) (h : Hearing α) : Hearing α where
  verdict := h.verdict.after outcome.isNotFound
  failures := outcome.failures ++ h.failures
  founded := by
    intro level failure ends heq
    refine List.mem_append_right _ (h.founded level failure ends ?_)
    cases hverdict : h.verdict with
    | decided level outcome ends => rwa [hverdict] at heq
    | exhausted found =>
      rw [hverdict] at heq
      cases heq

/-- What the head of a chain makes of a hearing. -/
def conclude {p : Property} (h : Hearing p.Value) : Account p.Value where
  outcome := p.conclude true h.verdict
  failures := h.failures
  founded := by
    intro failure heq hhard
    cases hverdict : h.verdict with
    | exhausted found =>
      rw [hverdict] at heq
      cases heq
      cases found <;> cases hhard
    | decided level outcome ends =>
      rw [hverdict] at heq
      cases outcome with
      | error cause =>
        cases heq
        exact ⟨failure, h.founded level failure ends hverdict, rfl⟩
      | ok value =>
        simp only [Property.conclude, Property.settle] at heq
        split at heq
        · cases heq
          rw [p.kind_blankFailure] at hhard
          cases hhard
        · cases heq

end Hearing

/-- Asks one candidate after another, as `scan` does, and keeps the failures. -/
def hear {α : Type} : List (Candidate α) → Reading (Hearing α)
  | [] => .done .silent
  | c :: rest => c.ask >>= fun outcome =>
    if ends : outcome.decides then .done (.decided c.level outcome ends)
    else hear rest >>= fun hearing => .done (hearing.after outcome)

theorem scan_eq_hear {α : Type} (cs : List (Candidate α)) :
    scan cs = hear cs >>= fun hearing => .done hearing.verdict := by
  induction cs with
  | nil => rfl
  | cons c rest ih =>
    simp only [scan, hear, ih, bind_assoc]
    congr 1
    funext outcome
    split
    · rfl
    · simp only [bind_assoc, Reading.done_bind]
      rfl

/-- The account of a property whose component is not advertised. -/
def Account.absent {α : Type} (component : Component) : Account α where
  outcome := Outcome.fails (.componentAbsent component.label)
  failures := []
  founded := by
    intro failure heq hhard
    cases heq
    cases hhard

namespace Communicator
variable (c : Communicator) (p : Property) (identity : Identity)

/-- The account of a property whose sources are asked. -/
def heard : Reading (Account p.Value) :=
  hear (candidates c.registry p identity c.deviceClass.tiers) >>= fun hearing =>
    .done hearing.conclude

/-- The account of a property at the head of the chain. -/
def account : Reading (Account p.Value) :=
  match p.component? with
  | none => c.heard p identity
  | some component =>
    if c.advertises component then c.heard p identity else .done (.absent component)

/-- The component of the property, if it has one, is advertised. -/
def answersFor : Prop := ∀ component, p.component? = some component → c.advertises component = true

variable {c p}

theorem account_of_answersFor (h : c.answersFor p) : c.account p identity = c.heard p identity := by
  unfold account
  cases hcomponent : p.component? with
  | none => rfl
  | some component => simp only [h component hcomponent, ↓reduceIte]

theorem head_run_of_answersFor (h : c.answersFor p) :
    (c.head p identity).run = c.heard p identity >>= fun a => .done a.outcome := by
  have hgate : p.gate c.deviceClass.hasComponent = .ok () := by
    unfold Property.gate
    cases hcomponent : p.component? with
    | none => rfl
    | some component => exact if_pos (h component hcomponent)
  rw [head, headSource_run c.registry p identity c.deviceClass hgate, scan_eq_hear, heard,
    bind_assoc, bind_assoc]
  rfl

variable (c p)

/-- Resolving a property is giving an account of it and keeping what it came to. -/
theorem head_run : (c.head p identity).run = c.account p identity >>= fun a => .done a.outcome := by
  by_cases h : c.answersFor p
  · rw [account_of_answersFor identity h, head_run_of_answersFor identity h]
  · obtain ⟨component, hcomponent, hadvertised⟩ : ∃ component, p.component? = some component ∧
        ¬c.advertises component = true := by
      simpa only [answersFor, Classical.not_forall, exists_prop] using h
    have hgate : p.gate c.deviceClass.head.components =
        Outcome.fails (.componentAbsent component.label) := by
      simp only [Property.gate, hcomponent]
      exact if_neg hadvertised
    simp only [head, headSource, nodeSource, ↓reduceIte, hgate, account, hcomponent, hadvertised]
    rfl

end Communicator
end DevicePoll
