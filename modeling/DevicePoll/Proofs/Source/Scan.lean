import DevicePoll.Source.Node

/-! Resolution along a chain of nodes as one scan. Every node of a chain collapses what its own
sources and its parent come to before the node below it sees that. These collapses never change
which source decides: the head of a chain answers as one scan over the classes and overrides of the
lineage, the head first, each class before the override that is registered for it. -/
namespace DevicePoll

namespace Outcome
variable {α : Type}

/-- A value, or a failure of a kind that no later source may hide. -/
def decides : Outcome α → Bool
  | .ok _ => true
  | .error failure => !failure.yields

/-- The source has the property, but no value for it. -/
def isNotFound : Outcome α → Bool
  | .ok _ => false
  | .error failure => failure.isNotFound

@[simp] theorem decides_error (failure : Failure) :
    decides (.error failure : Outcome α) = !failure.yields := rfl

@[simp] theorem isNotFound_error (failure : Failure) :
    isNotFound (.error failure : Outcome α) = failure.isNotFound := rfl

end Outcome

@[simp] theorem yields_undecided (property : String) (found : Bool) :
    (undecided property found).yields = true := by cases found <;> rfl

@[simp] theorem isNotFound_undecided (property : String) (found : Bool) :
    (undecided property found).isNotFound = found := by cases found <;> rfl

theorem kind_undecided (property : String) (found : Bool) :
    (undecided property found).kind = if found then .notFound else .notImplemented := by
  cases found <;> rfl

/-- What a scan of sources comes to: the first outcome that decides, with how many nodes its source
stands below the first one, or whether any source told of no value. -/
inductive Verdict (α : Type) where
  | decided (level : Nat) (outcome : Outcome α) (ends : outcome.decides = true)
  | exhausted (foundNothing : Bool)

namespace Verdict
variable {α : Type}

/-- The verdict after a source that did not decide. -/
def after (foundNothing : Bool) : Verdict α → Verdict α
  | decided level outcome ends => decided level outcome ends
  | exhausted found => exhausted (foundNothing || found)

/-- The verdict as it is seen from the node above. -/
def deeper : Verdict α → Verdict α
  | decided level outcome ends => decided (level + 1) outcome ends
  | exhausted found => exhausted found

@[simp] theorem after_false (v : Verdict α) : v.after false = v := by cases v <;> rfl

@[simp] theorem after_after (a b : Bool) (v : Verdict α) :
    (v.after b).after a = v.after (a || b) := by
  cases v <;> simp [after, Bool.or_assoc]

end Verdict

/-- A program that may have a value, and how many nodes it stands below the first one. -/
structure Candidate (α : Type) where
  level : Nat
  ask : Reading (Outcome α)

namespace Candidate

def deeper {α : Type} (c : Candidate α) : Candidate α := ⟨c.level + 1, c.ask⟩

end Candidate

/-- Asks one candidate after another and stops at the first one that decides. -/
def scan {α : Type} : List (Candidate α) → Reading (Verdict α)
  | [] => .done (.exhausted false)
  | c :: rest => c.ask >>= fun outcome =>
    if ends : outcome.decides then .done (.decided c.level outcome ends)
    else scan rest >>= fun verdict => .done (verdict.after outcome.isNotFound)

/-- The candidates of a lineage for a property: each class, and after it the override registered for
it, which may ask the node of the parent. -/
def candidates (registry : Registry) (p : Property) (identity : Identity) :
    List Tier → List (Candidate p.Value)
  | [] => []
  | tier :: ancestors =>
    ⟨0, (tier.property p).run⟩ ::
      ((registry.create tier.name (chainSource registry ancestors)).toList.map fun source =>
        ⟨0, (source p identity).run⟩) ++
      (candidates registry p identity ancestors).map Candidate.deeper

namespace Property

/-- An identity that is the empty text. -/
def isBlank : (p : Property) → p.Value → Bool
  | identity _, value => String.isEmpty value
  | _, _ => false

/-- A value as a node gives it: the head of a chain normalizes a listing of interfaces. -/
def shown (isHead : Bool) : (p : Property) → p.Value → p.Value
  | interfaces, value => if isHead then List.map Interface.normalize value else value
  | _, value => value

/-- The failure of a blank identity, at the node where it was found and at the nodes below that. -/
def blankFailure (p : Property) (level : Nat) : Failure :=
  if level = 0 then .because (.blankText p.wording) else undecided p.wording true

/-- What a node makes of an outcome that decides, a number of nodes above it. -/
def settle (p : Property) (isHead : Bool) (level : Nat) : Outcome p.Value → Outcome p.Value
  | .error failure => .error failure
  | .ok value =>
    if p.isBlank value then .error (p.blankFailure level) else .ok (p.shown isHead value)

/-- What a node makes of the verdict on its lineage. -/
def conclude (p : Property) (isHead : Bool) : Verdict p.Value → Outcome p.Value
  | .decided level outcome _ => p.settle isHead level outcome
  | .exhausted found => .error (undecided p.wording found)

/-- What the head of a chain may make of an outcome that decides. -/
def Settles (p : Property) : Outcome p.Value → Outcome p.Value → Prop
  | .error failure, result => result = .error failure
  | .ok value, result =>
    if p.isBlank value then ∃ failure, result = .error failure ∧ failure.kind = .notFound
    else result = .ok (p.shown true value)

theorem finish_eq (p : Property) (isHead : Bool) (value : p.Value) :
    p.finish isHead value =
      if p.isBlank value then .error (p.blankFailure 0) else .ok (p.shown isHead value) := by
  cases p <;> rfl

@[simp] theorem shown_false (p : Property) (value : p.Value) : p.shown false value = value := by
  cases p <;> rfl

theorem kind_blankFailure (p : Property) (level : Nat) :
    (p.blankFailure level).kind = .notFound := by
  cases level <;> rfl

@[simp] theorem yields_blankFailure (p : Property) (level : Nat) :
    (p.blankFailure level).yields = true := by cases level <;> rfl

@[simp] theorem isNotFound_blankFailure (p : Property) (level : Nat) :
    (p.blankFailure level).isNotFound = true := by cases level <;> rfl

theorem settles_settle (p : Property) (level : Nat) (outcome : Outcome p.Value) :
    p.Settles outcome (p.settle true level outcome) := by
  cases outcome with
  | error failure => rfl
  | ok value =>
    by_cases blank : p.isBlank value
    · simp only [Settles, settle, blank, ↓reduceIte]
      exact ⟨_, rfl, p.kind_blankFailure level⟩
    · simp [Settles, settle, blank]

end Property

/-- One step of a search: an outcome that decides ends it. -/
theorem tryFrom_cons {α : Type} (property : String) (found : Bool)
    (source : Reading (Outcome α)) (rest : List (Reading (Outcome α))) :
    tryFrom property found (source :: rest) = source >>= fun outcome =>
      if outcome.decides then .done outcome
      else tryFrom property (found || outcome.isNotFound) rest := by
  rw [tryFrom]
  congr 1
  funext outcome
  cases outcome with
  | ok value => rfl
  | error failure =>
    cases kind : failure.kind with
    | notImplemented =>
      have hfound : failure.isNotFound = false := by rw [Failure.isNotFound, kind]; rfl
      simp [Failure.yields, Failure.Kind.yields, kind, hfound]
    | notFound =>
      have hfound : failure.isNotFound = true := by rw [Failure.isNotFound, kind]; rfl
      simp [Failure.yields, Failure.Kind.yields, kind, hfound]
    | _ => simp [Failure.yields, Failure.Kind.yields, kind]

theorem run_mk_bind {α β : Type} (x : Reading (Outcome α)) (f : α → Outcome β) :
    (ExceptT.mk x >>= fun value => Poll.ofOutcome (f value)).run =
      x >>= fun outcome => .done (outcome >>= f) := by
  change x >>= ExceptT.bindCont (fun value => Poll.ofOutcome (f value)) = _
  congr 1
  funext outcome
  cases outcome <;> rfl

theorem scan_deeper {α : Type} (cs : List (Candidate α)) :
    scan (cs.map Candidate.deeper) = scan cs >>= fun verdict => .done verdict.deeper := by
  induction cs with
  | nil => rfl
  | cons c rest ih =>
    simp only [List.map_cons, scan, ih, bind_assoc]
    congr 1
    funext outcome
    by_cases ends : outcome.decides
    · simp [ends, Verdict.deeper, Candidate.deeper]
    · simp only [ends, Bool.false_eq_true, ↓reduceDIte, bind_assoc, Reading.done_bind]
      congr 1
      funext verdict
      cases verdict <;> rfl

/-- What a node makes of its parent's conclusion is its own conclusion, one level deeper. -/
theorem conclude_deeper (p : Property) (isHead found : Bool) (v : Verdict p.Value) :
    (if (p.conclude false v).decides then p.conclude false v
      else .error (undecided p.wording (found || (p.conclude false v).isNotFound))) >>=
        p.finish isHead = p.conclude isHead (v.deeper.after found) := by
  cases v with
  | exhausted further =>
    have hopen : Outcome.decides (p.conclude false (.exhausted further)) = false := by
      simp [Property.conclude]
    rw [hopen, Property.conclude, Outcome.isNotFound_error, isNotFound_undecided]
    rfl
  | decided level outcome ends =>
    cases outcome with
    | error failure =>
      have hsettled : p.conclude false (.decided level (.error failure) ends) = .error failure :=
        rfl
      rw [hsettled, ends]
      rfl
    | ok value =>
      by_cases blank : p.isBlank value
      · -- the parent turned the blank into a failure that yields, so this node ends its search
        have hsettled : p.conclude false (.decided level (.ok value) ends) =
            .error (p.blankFailure level) := by
          simp only [Property.conclude, Property.settle, blank, ↓reduceIte]
        have hdeeper : p.conclude isHead ((Verdict.decided level (.ok value) ends).deeper.after
            found) = .error (p.blankFailure (level + 1)) := by
          simp only [Verdict.deeper, Verdict.after, Property.conclude, Property.settle, blank,
            ↓reduceIte]
        rw [hsettled, hdeeper, Outcome.decides_error, Property.yields_blankFailure,
          Outcome.isNotFound_error, Property.isNotFound_blankFailure, Bool.or_true]
        rfl
      · have hsettled : p.conclude false (.decided level (.ok value) ends) = .ok value := by
          simp only [Property.conclude, Property.settle, blank, Bool.false_eq_true, ↓reduceIte,
            Property.shown_false]
        have hfinish : p.finish isHead value = .ok (p.shown isHead value) := by
          rw [Property.finish_eq, if_neg blank]
        have hdeeper : p.conclude isHead ((Verdict.decided level (.ok value) ends).deeper.after
            found) = .ok (p.shown isHead value) := by
          simp only [Verdict.deeper, Verdict.after, Property.conclude, Property.settle, blank,
            Bool.false_eq_true, ↓reduceIte]
        rw [hsettled, hdeeper, ← hfinish]
        rfl

/-- What is left of a node's search once its own sources have not decided. -/
theorem tryFrom_parent (p : Property) (isHead found : Bool) (cs : List (Candidate p.Value)) :
    (tryFrom p.wording found [scan cs >>= fun v => .done (p.conclude false v)] >>=
        fun outcome => .done (outcome >>= p.finish isHead)) =
      scan (cs.map Candidate.deeper) >>= fun v => .done (p.conclude isHead (v.after found)) := by
  simp only [tryFrom_cons, scan_deeper, bind_assoc, Reading.done_bind]
  congr 1
  funext verdict
  rw [← conclude_deeper]
  by_cases decides : (p.conclude false verdict).decides
  · simp [decides]
  · simp [decides, tryFrom]

theorem conclude_own (p : Property) (isHead : Bool) (outcome : Outcome p.Value)
    (ends : outcome.decides = true) :
    outcome >>= p.finish isHead = p.conclude isHead (.decided 0 outcome ends) := by
  cases outcome with
  | error failure => rfl
  | ok value => exact p.finish_eq isHead value

/-- A node's search over its own sources and its parent is one scan over its own sources and those
of its parent. -/
theorem tryFrom_own (p : Property) (isHead found : Bool) (own : List (Reading (Outcome p.Value)))
    (cs : List (Candidate p.Value)) :
    (tryFrom p.wording found (own ++ [scan cs >>= fun v => .done (p.conclude false v)]) >>=
        fun outcome => .done (outcome >>= p.finish isHead)) =
      scan (own.map (Candidate.mk 0) ++ cs.map Candidate.deeper) >>= fun v =>
        .done (p.conclude isHead (v.after found)) := by
  induction own generalizing found with
  | nil => exact tryFrom_parent p isHead found cs
  | cons source rest ih =>
    simp only [List.cons_append, List.map_cons, tryFrom_cons, scan, bind_assoc]
    congr 1
    funext outcome
    by_cases ends : outcome.decides
    · simp only [ends, ↓reduceIte, ↓reduceDIte, Reading.done_bind, Verdict.after]
      rw [conclude_own p isHead outcome ends]
    · simp only [ends, Bool.false_eq_true, ↓reduceIte, ↓reduceDIte, bind_assoc,
        Reading.done_bind, Verdict.after_after]
      exact ih (found || outcome.isNotFound)

/-- A missing parent is as good as a parent that implements nothing. -/
theorem tryFrom_missing {α : Type} (property : String) (found : Bool)
    (own : List (Reading (Outcome α))) :
    tryFrom property found (own ++ [.done (.error (undecided property false))]) =
      tryFrom property found own := by
  induction own generalizing found with
  | nil => rfl
  | cons source rest ih => simp only [List.cons_append, tryFrom_cons, ih]

/-- A node whose component is advertised, or that is not the head of its chain, searches its class,
its override and its parent, and finishes what it finds. -/
theorem nodeSource_run_of_gate (isHead : Bool) (tier : Tier) (override parent : Option Source)
    (p : Property) (identity : Identity)
    (hgate : isHead = true → p.gate tier.components = .ok ()) :
    (nodeSource isHead tier override parent p identity).run =
      inOrder p.wording [some (tier.property p).run,
        override.map fun source => (source p identity).run,
        parent.map fun source => (source p identity).run] >>= fun outcome =>
          .done (outcome >>= p.finish isHead) := by
  rw [← run_mk_bind]
  cases isHead with
  | false => rfl
  | true =>
    simp only [nodeSource, ↓reduceIte, hgate rfl]
    rfl

/-- The search of a node whose parent is a scan of its own. -/
theorem inOrder_eq_scan (p : Property) (isHead : Bool) (ask : Reading (Outcome p.Value))
    (override parent : Option (Reading (Outcome p.Value))) (cs : List (Candidate p.Value))
    (hparent : parent.getD (.done (.error (undecided p.wording false))) =
      scan cs >>= fun v => .done (p.conclude false v)) :
    (inOrder p.wording [some ask, override, parent] >>= fun outcome =>
        .done (outcome >>= p.finish isHead)) =
      scan (⟨0, ask⟩ :: override.toList.map (Candidate.mk 0) ++ cs.map Candidate.deeper) >>=
        fun v => .done (p.conclude isHead v) := by
  have hsearch : inOrder p.wording [some ask, override, parent] =
      tryFrom p.wording false ((ask :: override.toList) ++
        [parent.getD (.done (.error (undecided p.wording false)))]) := by
    cases parent with
    | some program => cases override <;> rfl
    | none =>
      rw [Option.getD_none, tryFrom_missing]
      cases override <;> rfl
  rw [hsearch, hparent, tryFrom_own]
  simp only [Verdict.after_false, List.map_cons]

section Chain
variable (registry : Registry) (p : Property) (identity : Identity)

/-- The step up a chain: if the parent is a scan of its lineage, so is the node. -/
theorem nodeSource_run (isHead : Bool) (tier : Tier) (ancestors : List Tier)
    (hgate : isHead = true → p.gate tier.components = .ok ())
    (hparent : ((chainSource registry ancestors).map fun source => (source p identity).run).getD
      (.done (.error (undecided p.wording false))) =
        scan (candidates registry p identity ancestors) >>= fun v =>
          .done (p.conclude false v)) :
    (nodeSource isHead tier (registry.create tier.name (chainSource registry ancestors))
        (chainSource registry ancestors) p identity).run =
      scan (candidates registry p identity (tier :: ancestors)) >>= fun v =>
        .done (p.conclude isHead v) := by
  rw [nodeSource_run_of_gate _ _ _ _ _ _ hgate, inOrder_eq_scan p isHead _ _ _ _ hparent]
  simp only [candidates, Option.toList_map, List.map_map, Function.comp_def, List.cons_append]

/-- The nodes below the head of a chain, from the root up. -/
theorem chainSource_run (tiers : List Tier) :
    ((chainSource registry tiers).map fun source => (source p identity).run).getD
      (.done (.error (undecided p.wording false))) =
        scan (candidates registry p identity tiers) >>= fun v => .done (p.conclude false v) := by
  induction tiers with
  | nil => rfl
  | cons tier ancestors ih =>
    exact nodeSource_run registry p identity false tier ancestors (by simp) ih

theorem headSource_run (c : DeviceClass) (hgate : p.gate c.hasComponent = .ok ()) :
    (headSource registry c p identity).run =
      scan (candidates registry p identity c.tiers) >>= fun v => .done (p.conclude true v) :=
  nodeSource_run registry p identity true c.head c.ancestors (fun _ => hgate)
    (chainSource_run registry p identity c.ancestors)

end Chain

section Eval
variable {α : Type} (answer : (request : Request) → Outcome request.Reply)

theorem eval_tryFrom_cons (property : String) (found : Bool) (source : Reading (Outcome α))
    (rest : List (Reading (Outcome α))) : (tryFrom property found (source :: rest)).eval answer =
      if (source.eval answer).decides then source.eval answer
      else (tryFrom property (found || (source.eval answer).isNotFound) rest).eval answer := by
  rw [tryFrom_cons, Reading.eval_bind]
  split <;> rfl

theorem eval_scan_append {before : List (Candidate α)}
    (hbefore : ∀ b ∈ before, (b.ask.eval answer).decides = false) (rest : List (Candidate α)) :
    (scan (before ++ rest)).eval answer = ((scan rest).eval answer).after
      (before.any fun b => (b.ask.eval answer).isNotFound) := by
  induction before with
  | nil => simp
  | cons b before ih =>
    have hhead := hbefore b List.mem_cons_self
    have htail := ih fun d hd => hbefore d (List.mem_cons_of_mem _ hd)
    simp only [List.cons_append, scan, Reading.eval_bind, hhead, Bool.false_eq_true,
      ↓reduceDIte, Reading.eval_done, htail, Verdict.after_after, List.any_cons]

/-- The first candidate that decides gives the verdict. -/
theorem eval_scan_decided {before after : List (Candidate α)} {c : Candidate α}
    (hbefore : ∀ b ∈ before, (b.ask.eval answer).decides = false)
    (ends : (c.ask.eval answer).decides = true) :
    (scan (before ++ c :: after)).eval answer = .decided c.level (c.ask.eval answer) ends := by
  rw [eval_scan_append answer hbefore]
  simp [scan, ends, Verdict.after]

theorem eval_scan_exhausted {cs : List (Candidate α)}
    (hcs : ∀ c ∈ cs, (c.ask.eval answer).decides = false) :
    (scan cs).eval answer = .exhausted (cs.any fun c => (c.ask.eval answer).isNotFound) := by
  have h := eval_scan_append answer hcs []
  simpa [scan, Verdict.after] using h

/-- A scan issues the requests of its candidates up to the one that decides, and no others. -/
theorem tally_scan {before after : List (Candidate α)} {c : Candidate α}
    (hbefore : ∀ b ∈ before, (b.ask.eval answer).decides = false)
    (ends : (c.ask.eval answer).decides = true) :
    ((scan (before ++ c :: after)).tally answer).2 =
      Reading.total ((before ++ [c]).map fun b => (b.ask.tally answer).2) := by
  induction before with
  | nil => simp [scan, Reading.tally_bind_snd, ends, Reading.tally]
  | cons b before ih =>
    have hhead := hbefore b List.mem_cons_self
    have htail := ih fun d hd => hbefore d (List.mem_cons_of_mem _ hd)
    rw [List.cons_append, List.cons_append, List.map_cons, Reading.total_cons, ← htail]
    simp [scan, Reading.tally_bind_snd, hhead, Reading.tally]

end Eval

section Head
variable {registry : Registry} {c : DeviceClass} {p : Property} {identity : Identity}
  (hgate : p.gate c.hasComponent = .ok ()) (answer : (request : Request) → Outcome request.Reply)
include hgate

/-- The head of a chain gives what the first candidate that decides gives, for the requests up to
it. -/
theorem headSource_of_decider {before after : List (Candidate p.Value)}
    {decider : Candidate p.Value}
    (hsplit : candidates registry p identity c.tiers = before ++ decider :: after)
    (hbefore : ∀ b ∈ before, (b.ask.eval answer).decides = false)
    (ends : (decider.ask.eval answer).decides = true) :
    p.Settles (decider.ask.eval answer) ((headSource registry c p identity).run.eval answer) ∧
      ((headSource registry c p identity).run.tally answer).2 =
        Reading.total ((before ++ [decider]).map fun b => (b.ask.tally answer).2) := by
  rw [headSource_run registry p identity c hgate, hsplit]
  constructor
  · rw [Reading.eval_bind, eval_scan_decided answer hbefore ends]
    exact p.settles_settle _ _
  · rw [Reading.tally_bind_snd, tally_scan answer hbefore ends]
    rfl

theorem headSource_of_undecided
    (hnone : ∀ b ∈ candidates registry p identity c.tiers, (b.ask.eval answer).decides = false) :
    ∃ failure, (headSource registry c p identity).run.eval answer = .error failure ∧
      failure.kind = if (candidates registry p identity c.tiers).any
        (fun b => (b.ask.eval answer).isNotFound) then .notFound else .notImplemented := by
  rw [headSource_run registry p identity c hgate, Reading.eval_bind,
    eval_scan_exhausted answer hnone]
  exact ⟨_, rfl, kind_undecided _ _⟩

end Head

/-- Resolving a property at the head of a chain is one scan over the classes and overrides of the
lineage. The first of them whose outcome is a value or a failure that does not yield decides, and
nothing after it is asked; if none decides, the kind of the failure tells whether one of them found
no value. The equation is one of programs, so it holds in every context. -/
theorem head_resolution_is_flat_scan (registry : Registry) (c : DeviceClass) (p : Property)
    (identity : Identity) (hgate : p.gate c.hasComponent = .ok ()) :
    (headSource registry c p identity).run =
        (scan (candidates registry p identity c.tiers) >>= fun v =>
          .done (p.conclude true v)) ∧
    ∀ answer : (request : Request) → Outcome request.Reply,
      (∀ before decider after,
        candidates registry p identity c.tiers = before ++ decider :: after →
        (∀ b ∈ before, (b.ask.eval answer).decides = false) →
        (decider.ask.eval answer).decides = true →
        p.Settles (decider.ask.eval answer)
            ((headSource registry c p identity).run.eval answer) ∧
          ((headSource registry c p identity).run.tally answer).2 =
            Reading.total ((before ++ [decider]).map fun b => (b.ask.tally answer).2)) ∧
      ((∀ b ∈ candidates registry p identity c.tiers, (b.ask.eval answer).decides = false) →
        ∃ failure, (headSource registry c p identity).run.eval answer = .error failure ∧
          failure.kind = if (candidates registry p identity c.tiers).any
            (fun b => (b.ask.eval answer).isNotFound) then .notFound else .notImplemented) := by
  refine ⟨headSource_run registry p identity c hgate, fun answer => ⟨?_, ?_⟩⟩
  · intro before decider after hsplit hbefore ends
    exact headSource_of_decider hgate answer hsplit hbefore ends
  · intro hnone
    exact headSource_of_undecided hgate answer hnone

/-- An override that knows every identity to be empty. -/
def blankIdentity : Override := fun _ p identity =>
  match p with
  | .identity _ => Poll.ofOutcome (.ok "")
  | other => Source.unsupported other identity

/-- A class that reads its vendor, and two classes below it that declare nothing. -/
def bareHeir : DeviceClass :=
  let oid : Oid := ⟨[['1'], ['3']], by simp, by decide⟩
  let identify : QueryTree := LabelTree.empty.insert "vendor" (.leaf ⟨oid, []⟩)
  let generic := DeviceClass.root "generic" (LabelTree.empty.insert "identify" identify.toNode)
    fun _ => none
  (generic.derive "acme" LabelTree.empty fun _ => none).derive "acme/x" LabelTree.empty
    fun _ => none

/-- A device that answers nothing. -/
def silent : (request : Request) → Outcome request.Reply := fun request =>
  Outcome.fails (.noObject request.oid.absolute)

/-- The override of the parent decides, and the root, which declares the vendor, is not asked. -/
theorem blank_override_hides_declared_vendor :
    let registry := Registry.empty.insert "acme" blankIdentity
    let vendor := (headSource registry bareHeir (.identity .vendor) fun _ => none).run
    (Property.identity .vendor).gate bareHeir.hasComponent = .ok () ∧
      (∃ failure, vendor.eval silent = .error failure ∧ failure.kind = .notFound) ∧
      (vendor.tally silent).2 = 0 := by
  intro registry vendor
  have hgate : (Property.identity .vendor).gate bareHeir.hasComponent = .ok () := rfl
  obtain ⟨-, hscan⟩ := head_resolution_is_flat_scan registry bareHeir (.identity .vendor)
    (fun _ => none) hgate
  obtain ⟨hdecides, -⟩ := hscan silent
  obtain ⟨hresult, hreads⟩ := hdecides
    [⟨0, .done (.error (.because (.undeclared "identify.vendor" "acme/x")))⟩,
      ⟨1, .done (.error (.because (.undeclared "identify.vendor" "acme")))⟩]
    ⟨1, .done (.ok "")⟩ _ rfl (by decide) rfl
  exact ⟨hgate, hresult, hreads⟩

end DevicePoll
