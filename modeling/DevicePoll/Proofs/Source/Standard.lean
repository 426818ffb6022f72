import DevicePoll.Proofs.Query.Decoding
import DevicePoll.Proofs.Reading.Ensures
import DevicePoll.Proofs.Source.Account

/-! Standards for outcomes. A standard says which kinds of failures an outcome may have, and what a
read that was cut off must lead to. What a class reads and what a chain of nodes makes of its sources
meet every standard that the replies of the device and the registered overrides meet. -/
namespace DevicePoll

namespace Outcome

/-- The kind of a failure; a value has none. -/
def kind? {α : Type} : Outcome α → Option Failure.Kind
  | .ok _ => none
  | .error failure => some failure.kind

@[simp] theorem kind?_ok {α : Type} (value : α) : kind? (.ok value : Outcome α) = none := rfl

@[simp] theorem kind?_error {α : Type} (failure : Failure) :
    kind? (.error failure : Outcome α) = some failure.kind := rfl

theorem kind?_eq_some {α : Type} {outcome : Outcome α} {kind : Failure.Kind} :
    outcome.kind? = some kind ↔ ∃ failure, outcome = .error failure ∧ failure.kind = kind := by
  cases outcome <;> simp

theorem kind?_eq_none {α : Type} {outcome : Outcome α} :
    outcome.kind? = none ↔ ∃ value, outcome = .ok value := by
  cases outcome <;> simp

end Outcome

theorem Failure.yields_iff {failure : Failure} :
    failure.yields = true ↔ failure.kind = .notFound ∨ failure.kind = .notImplemented := by
  rw [yields]
  cases failure.kind <;> simp [Kind.yields]

theorem Failure.yields_of_isNotFound {failure : Failure} (h : failure.isNotFound = true) :
    failure.yields = true :=
  yields_iff.mpr (.inl (by simpa [isNotFound] using h))

/-- No failure tells of a component that is missing. -/
abbrev Outcome.Plain {α : Type} (outcome : Outcome α) : Prop :=
  outcome.FailsOnly (· ≠ .componentNotFound)

theorem Outcome.Decodes.plain {α : Type} {outcome : Outcome α} (h : outcome.Decodes) :
    outcome.Plain :=
  h.mono fun kind hkind => by rw [hkind]; exact nofun

theorem Outcome.Plain.kind?_ne {α : Type} {outcome : Outcome α} (h : outcome.Plain) :
    outcome.kind? ≠ some .componentNotFound := by
  intro habsent
  cases outcome with
  | ok value => cases habsent
  | error failure => exact h failure rfl (Option.some.inj habsent)

/-- Which outcomes are good enough, by the kind of their failure and by whether a read was cut off.
Without a cut, every outcome is, unless it tells of a component that is missing; a value and what
follows it count together; and a failure that yields is no worse than a value. -/
structure Standard where
  holds : Option Failure.Kind → Bool → Prop
  plain : ∀ kind?, kind? ≠ some .componentNotFound → holds kind? false
  join : ∀ kind? a b, holds none a → holds kind? b → holds kind? (a || b)
  ofYields : ∀ kind cut, kind.yields = true → holds (some kind) cut → holds none cut

namespace Standard
variable {α β : Type}

def met (S : Standard) (outcome : Outcome α) (cut : Bool) : Prop := S.holds outcome.kind? cut

variable {S : Standard}

/-- What is made of a value can fail, but not for a missing component. -/
theorem met_of_none {outcome : Outcome α} {cut : Bool} (h : S.holds none cut)
    (hplain : outcome.Plain) : S.met outcome cut := by
  have hmet : S.holds outcome.kind? false := S.plain _ hplain.kind?_ne
  exact cut.or_false ▸ S.join _ _ _ h hmet

theorem holds_none_of_yields {failure : Failure} {cut : Bool} (hyields : failure.yields = true)
    (h : S.met (.error failure : Outcome α) cut) : S.holds none cut := S.ofYields _ _ hyields h

theorem met_optional (property : String) {outcome : Outcome α} {cut : Bool}
    (h : S.met outcome cut) : S.met (optional property outcome) cut := by
  cases outcome with
  | ok value => exact h
  | error failure =>
    rw [optional]
    split
    · rename_i hyields
      exact holds_none_of_yields hyields h
    · exact h

/-- Every outcome is good enough. -/
def any : Standard where
  holds _ _ := True
  plain _ _ := trivial
  join _ _ _ _ _ := trivial
  ofYields _ _ _ _ := trivial

/-- No outcome tells of a component that is missing. -/
def present : Standard where
  holds kind? _ := kind? ≠ some .componentNotFound
  plain _ h := h
  join _ _ _ _ h := h
  ofYields _ _ _ _ := nofun

/-- A read that was cut off leads to a hard failure, and no outcome tells of a component that is
missing. -/
def candid : Standard where
  holds kind? cut := kind? ≠ some .componentNotFound ∧
    (cut = true → ∃ kind, kind? = some kind ∧ kind.isHard = true)
  plain _ h := ⟨h, nofun⟩
  join kind? a b := by
    rintro ⟨-, ha⟩ ⟨hpresent, hb⟩
    refine ⟨hpresent, fun hcut => ?_⟩
    cases a with
    | false => exact hb hcut
    | true =>
      obtain ⟨kind, hnone, -⟩ := ha rfl
      cases hnone
  ofYields kind cut hyields := by
    rintro ⟨-, hcut⟩
    refine ⟨nofun, fun h => ?_⟩
    obtain ⟨other, heq, hhard⟩ := hcut h
    cases heq
    simp [Failure.Kind.isHard, Failure.Kind.isUnavailable_of_yields hyields] at hhard

/-- A read that was cut off leads to a failure of the kind of what stopped the reads. -/
def stoppedBy (stop : Failure.Stop) : Standard where
  holds kind? cut := cut = true → kind? = some stop.category.kind
  plain _ _ := nofun
  join kind? a b ha hb hcut := by
    cases a with
    | false => exact hb hcut
    | true => cases ha rfl
  ofYields kind cut hyields h hcut := by
    cases h hcut
    cases stop <;> cases hyields

end Standard

/-- No request fails with this kind. A client fails where nothing is found, or for its transport and
its time, so that no failure of its own tells of a component. -/
def Client.NeverFails (client : Client) (kind : Failure.Kind) : Prop :=
  ∀ request, (client.answer request).FailsOnly (· ≠ kind)

/-- The replies meet a standard. -/
def Replies.Meet (replies : Replies) (S : Standard) : Prop :=
  ∀ request reply cut, replies request reply cut → S.met reply cut

namespace Replies
variable {client : Client} {stop : Failure.Stop}

theorem meet_any {replies : Replies} : replies.Meet .any := fun _ _ _ _ => trivial

theorem isHard_stop (stop : Failure.Stop) : stop.category.kind.isHard = true := by
  cases stop <;> rfl

theorem during_meet_candid (hclient : client.NeverFails .componentNotFound) :
    (during client stop).Meet .candid := by
  intro request reply cut hreply
  cases hreply with
  | answered => exact ⟨Outcome.Plain.kind?_ne (hclient request), nofun⟩
  | cutOff stage =>
    refine ⟨?_, fun _ => ⟨_, rfl, isHard_stop stop⟩⟩
    cases stop <;> exact nofun

theorem during_meet_present (hclient : client.NeverFails .componentNotFound) :
    (during client stop).Meet .present :=
  fun request reply cut hreply => (during_meet_candid hclient request reply cut hreply).1

theorem during_meet_stoppedBy : (during client stop).Meet (.stoppedBy stop) := by
  intro request reply cut hreply
  cases hreply with
  | answered => exact nofun
  | cutOff stage => exact fun _ => rfl

end Replies

/-- The outcome meets a standard in every run. -/
def Poll.Meets {α : Type} (replies : Replies) (S : Standard) (p : Poll α) : Prop :=
  p.run.Ensures replies S.met

namespace Poll.Meets
variable {replies : Replies} {S : Standard} {α β : Type}

theorem ofOutcome {outcome : Outcome α} (h : outcome.Plain) :
    (Poll.ofOutcome outcome).Meets replies S := .done (S.plain _ h.kind?_ne)

theorem fails {cause : Failure.Cause} (h : cause.kind ≠ .componentNotFound) :
    (Poll.fails cause : Poll α).Meets replies S := ofOutcome (.fails h)

theorem pure (value : α) : (Pure.pure value : Poll α).Meets replies S := ofOutcome (.ok value)

theorem request (hreplies : replies.Meet S) (q : Request) : (Poll.request q).Meets replies S := by
  refine .read fun reply cut hreply => .done ?_
  rw [Reading.after, Bool.or_false]
  exact hreplies q reply cut hreply

theorem mapOutcome {p : Poll α} {f : Outcome α → Outcome β} (h : p.Meets replies S)
    (hf : ∀ outcome cut, S.met outcome cut → S.met (f outcome) cut) :
    (p.mapOutcome f).Meets replies S := by
  refine h.bind fun outcome cut hmet => .done ?_
  rw [Reading.after, Bool.or_false]
  exact hf outcome cut hmet

theorem bind {p : Poll α} {f : α → Poll β} (h : p.Meets replies S)
    (hf : ∀ value, (f value).Meets replies S) : (p >>= f).Meets replies S := by
  refine Reading.Ensures.bind h fun outcome cut hmet => ?_
  cases outcome with
  | ok value => exact (hf value).mono fun result later hresult => S.join _ _ _ hmet hresult
  | error failure =>
    refine .done ?_
    rw [Reading.after, Bool.or_false]
    exact hmet

theorem all {ps : List (Poll α)} (h : ∀ p ∈ ps, p.Meets replies S) :
    (Poll.all ps).Meets replies S := by
  refine Poll.all_induction (fun _ => .pause) (pure []) (fun held p rest hp hrest => ?_) h
  refine .fork hp hrest fun result cut hsides => .done ?_
  rw [Reading.after, Bool.or_false]
  cases hsides with
  | left hfirst => exact hfirst
  | right hlater => exact hlater
  | late hfirst hlater => exact S.join _ _ _ hfirst hlater
  | both hfirst hlater => exact S.join _ _ _ hfirst hlater

end Poll.Meets

section Query
variable {replies : Replies} {S : Standard} (hreplies : replies.Meet S)
include hreplies

theorem Leaf.meets_read (leaf : Leaf) : leaf.read.Meets replies S := by
  refine (Poll.Meets.request hreplies (.walk leaf.oid)).mapOutcome fun outcome cut hmet => ?_
  cases outcome with
  | error failure => exact hmet
  | ok responses => exact Standard.met_of_none hmet (Leaf.decodes_collect _ _ _).plain

omit hreplies in
theorem meets_readGroup {columns : List (String × Poll Column)}
    (h : ∀ e ∈ columns, e.2.Meets replies S) : (readGroup columns).Meets replies S := by
  refine Poll.Meets.mapOutcome (Poll.Meets.all fun p hp => ?_) fun outcome cut hmet => ?_
  · obtain ⟨e, he, rfl⟩ := List.mem_map.1 hp
    refine (h e he).mapOutcome fun outcome cut hmet => ?_
    cases outcome with
    | ok column => exact hmet
    | error failure =>
      rw [labelOutcome]
      split
      · rename_i hnotFound
        exact Standard.holds_none_of_yields (Failure.yields_of_isNotFound hnotFound) hmet
      · exact hmet
  · cases outcome <;> exact hmet

theorem QueryTree.meets_readAll (tree : QueryTree) : tree.readAll.Meets replies S := by
  refine readAll_induction (fun p => p.Meets replies S) (fun path leaf _ => ?leaf)
    (fun columns => meets_readGroup) (fun p hp => ?nested)
  case leaf =>
    refine (leaf.meets_read hreplies).mapOutcome fun outcome cut hmet => ?_
    cases outcome <;> exact hmet
  case nested =>
    refine hp.mapOutcome fun outcome cut hmet => ?_
    cases outcome <;> exact hmet

namespace Tier

theorem meets_column (tier : Tier) (path : String) : (tier.column path).Meets replies S := by
  refine (Poll.Meets.ofOutcome ((tier.failsOnly_leafAt path).mono ?_)).bind fun leaf => ?_
  · rintro kind (rfl | rfl) <;> exact nofun
  · refine (leaf.meets_read hreplies).bind fun values => ?_
    split
    · exact .fails nofun
    · exact .pure _

theorem meets_rows (tier : Tier) (path : String) : (tier.rows path).Meets replies S := by
  refine (Poll.Meets.ofOutcome ((tier.failsOnly_groupAt path).mono ?_)).bind fun tree => ?_
  · rintro kind (rfl | rfl) <;> exact nofun
  · refine (tree.meets_readAll hreplies).bind fun rows => ?_
    split
    · exact .fails nofun
    · exact .pure _

theorem meets_readForm (tier : Tier) (path : String) (form : Form) :
    (tier.readForm path form).Meets replies S := by
  cases form with
  | scalar type =>
    refine (tier.meets_column hreplies path).bind fun values => ?_
    cases values with
    | nil => exact .fails nofun
    | cons value _ => exact .ofOutcome ((type.decodes_convert value).plain.within _)
  | reals =>
    refine (tier.meets_column hreplies path).bind fun values => .ofOutcome ?_
    exact .mapM fun value _ => value.decodes_toReal.plain.within _
  | interfaces =>
    refine (tier.meets_rows hreplies path).bind fun rows => .ofOutcome ?_
    exact .mapM fun e _ => (decodes_interfaceOfRow e.1 e.2).plain
  | table schema =>
    refine (tier.meets_rows hreplies path).bind fun rows => .ofOutcome ?_
    exact (rows.decodes_decode schema).plain.within _

/-- What a class reads meets the standard that the replies meet. -/
theorem meets_property (tier : Tier) (p : Property) : (tier.property p).Meets replies S :=
  tier.meets_readForm hreplies p.path p.form

end Tier
end Query

section Chain
variable (replies : Replies) (S : Standard)

def Source.Meets (source : Source) : Prop :=
  ∀ (p : Property) (identity : Identity), (source p identity).Meets replies S

/-- The override meets the standard beside every parent that does. -/
def Override.Meets (override : Override) : Prop :=
  ∀ parent : Option Source, (∀ source, parent = some source → Source.Meets replies S source) →
    Source.Meets replies S (override parent)

def Registry.Meets (registry : Registry) : Prop :=
  ∀ name override, registry.get? name = some override → Override.Meets replies S override

/-- The kind of the failure that decides, if it is a failure. -/
def Verdict.kind? {α : Type} : Verdict α → Option Failure.Kind
  | .decided _ outcome _ => outcome.kind?
  | .exhausted _ => none

@[simp] theorem Verdict.kind?_after {α : Type} (found : Bool) (v : Verdict α) :
    (v.after found).kind? = v.kind? := by cases v <;> rfl

variable {replies S}

theorem Registry.meets_any (registry : Registry) : registry.Meets replies .any := by
  intro name override _ parent _ p identity
  exact Reading.Ensures.of_forall _ fun _ _ => trivial

theorem Property.met_conclude {p : Property} {isHead cut : Bool} {v : Verdict p.Value}
    (h : S.holds v.kind? cut) : S.met (p.conclude isHead v) cut := by
  cases v with
  | exhausted found => exact Standard.met_of_none h (.error (by cases found <;> exact nofun))
  | decided level outcome ends =>
    cases outcome with
    | error failure => exact h
    | ok value =>
      refine Standard.met_of_none h ?_
      rw [conclude, settle]
      split
      · exact .error (by rw [p.kind_blankFailure]; exact nofun)
      · exact .ok _

theorem hear_ensures {α : Type} {cs : List (Candidate α)}
    (hcs : ∀ c ∈ cs, c.ask.Ensures replies S.met) :
    (hear cs).Ensures replies fun hearing cut => S.holds hearing.verdict.kind? cut := by
  induction cs with
  | nil => exact .done (S.plain _ nofun)
  | cons c rest ih =>
    obtain ⟨hhead, htail⟩ := List.forall_mem_cons.1 hcs
    refine hhead.bind fun outcome cut hmet => ?_
    split
    · exact .done (by rwa [Reading.after, Bool.or_false])
    · rename_i hopen
      refine (ih htail).bind fun hearing later hheard => .done ?_
      cases outcome with
      | ok value => exact absurd rfl hopen
      | error failure =>
        have hyields : failure.yields = true := by simpa using hopen
        have hnone := Standard.holds_none_of_yields hyields hmet
        simpa [Reading.after, Hearing.after] using S.join _ _ _ hnone hheard

section Lineage
variable (hreplies : replies.Meet S) {registry : Registry}
  (hregistry : registry.Meets replies S)
include hreplies hregistry

/-- The step up a lineage, for what its nodes are asked and for what they answer. -/
theorem lineage_meets (tiers : List Tier) :
    (∀ source, chainSource registry tiers = some source → source.Meets replies S) ∧
      ∀ p identity, ∀ c ∈ candidates registry p identity tiers, c.ask.Ensures replies S.met := by
  induction tiers with
  | nil => exact ⟨nofun, nofun⟩
  | cons tier ancestors ih =>
    obtain ⟨hparent, hdeeper⟩ := ih
    -- an override may ask its parent node, which is why both halves go up the lineage together
    have hcandidates : ∀ p identity, ∀ c ∈ candidates registry p identity (tier :: ancestors),
        c.ask.Ensures replies S.met := by
      intro p identity c hc
      rw [candidates, List.cons_append, List.mem_cons, List.mem_append, List.mem_map,
        List.mem_map] at hc
      obtain rfl | ⟨source, hsource, rfl⟩ | ⟨below, hbelow, rfl⟩ := hc
      · exact tier.meets_property hreplies p
      · rw [Option.mem_toList] at hsource
        obtain ⟨override, hoverride, rfl⟩ := Option.map_eq_some_iff.1 hsource
        exact hregistry _ _ hoverride _ hparent p identity
      · exact hdeeper p identity below hbelow
    refine ⟨fun source hsource p identity => ?_, hcandidates⟩
    have hrun := chainSource_run registry p identity (tier :: ancestors)
    rw [hsource, Option.map_some, Option.getD_some, scan_eq_hear, bind_assoc] at hrun
    rw [Poll.Meets, hrun]
    refine (hear_ensures (hcandidates p identity)).bind fun hearing cut hheard => .done ?_
    rw [Reading.after, Bool.or_false]
    exact Property.met_conclude hheard

end Lineage

/-- What the head of a chain answers meets the standard that its sources meet. -/
theorem Communicator.heard_ensures (hreplies : replies.Meet S) {c : Communicator}
    (hregistry : c.registry.Meets replies S) (p : Property) (identity : Identity) :
    (c.heard p identity).Ensures replies fun a cut => S.met a.outcome cut := by
  have hcandidates := (lineage_meets hreplies hregistry c.deviceClass.tiers).2 p identity
  refine (hear_ensures hcandidates).bind fun hearing cut hheard => .done ?_
  rw [Reading.after, Bool.or_false]
  exact Property.met_conclude hheard

end Chain
end DevicePoll
