import DevicePoll.Proofs.Poll.Aggregation
import DevicePoll.Proofs.Reading.Sequence

/-! The identity of a device. Its fields are looked up one after another, each in the light of those
that were found before it, and a failure that no later lookup can make up for ends the call. -/
namespace DevicePoll

open Reading

/-- A lookup of an identity field: what was known of the identity when it was made, and what came of
it. -/
structure Lookup where
  field : IdentityField
  light : Identity
  outcome : Outcome String

namespace Identity

theorem isEmpty_iff {identity : Identity} :
    identity.isEmpty = true ↔ ∀ field value, identity field ≠ some value := by
  rw [isEmpty, List.all_eq_true]
  constructor
  · intro h field value hvalue
    have hnone := h field (IdentityField.schema.complete field)
    rw [hvalue] at hnone
    cases hnone
  · intro h field _
    exact Option.isNone_iff_eq_none.mpr (Option.eq_none_iff_forall_ne_some.mpr (h field))

/-- The values of the identity are those that some lookups have found, each for its field. -/
def GatheredFrom (identity : Identity) (lookups : List Lookup) : Prop :=
  ∀ field value, identity field = some value ↔
    ∃ l ∈ lookups, l.field = field ∧ l.outcome = .ok value

/-- What is known when a lookup is made: what the lookups before it have found, or, if they have found
nothing, what was known from the start. -/
structure KnownAfter (identity initial : Identity) (earlier : List Lookup) : Prop where
  found : (∃ l ∈ earlier, ∃ value, l.outcome = .ok value) → identity.GatheredFrom earlier
  unknown : (∀ l ∈ earlier, ∀ value, l.outcome ≠ .ok value) → identity = initial

namespace GatheredFrom
variable {identity initial : Identity} {lookups : List Lookup} {l : Lookup}

theorem nil : GatheredFrom IdentityField.schema.blank [] := fun field value => by
  simp [Schema.blank]

theorem isEmpty_iff (h : identity.GatheredFrom lookups) :
    identity.isEmpty = true ↔ ∀ l ∈ lookups, ∀ value, l.outcome ≠ .ok value := by
  rw [Identity.isEmpty_iff]
  constructor
  · intro hempty l hl value hvalue
    exact hempty l.field value ((h l.field value).mpr ⟨l, hl, rfl, hvalue⟩)
  · rintro hnone field value hvalue
    obtain ⟨l, hl, -, hfound⟩ := (h field value).mp hvalue
    exact hnone l hl value hfound

/-- Lookups that have found nothing leave what was known from the start. -/
theorem knownAfter (h : identity.GatheredFrom lookups) :
    KnownAfter (if identity.isEmpty then initial else identity) initial lookups where
  found hfound := by
    have hknown : ¬identity.isEmpty = true := by
      rw [h.isEmpty_iff]
      obtain ⟨l, hl, value, hvalue⟩ := hfound
      exact fun hnone => hnone l hl value hvalue
    rwa [if_neg hknown]
  unknown hnone := if_pos (h.isEmpty_iff.mpr hnone)

/-- A lookup that has failed adds nothing. -/
theorem concat_of_error (h : identity.GatheredFrom lookups) {failure : Failure}
    (hfailed : l.outcome = .error failure) : identity.GatheredFrom (lookups ++ [l]) := by
  intro field value
  rw [h field value]
  simp [List.mem_append, or_and_right, exists_or, hfailed]

/-- A value that was found is the value of its field from then on. -/
theorem concat_of_ok (h : identity.GatheredFrom lookups) {found : String}
    (hfound : l.outcome = .ok found) (hnew : l.field ∉ lookups.map Lookup.field) :
    GatheredFrom (Schema.set identity l.field (some found)) (lookups ++ [l]) := by
  intro field value
  by_cases hfield : field = l.field
  · subst hfield
    have hnone : ¬∃ k ∈ lookups, k.field = l.field ∧ k.outcome = .ok value := by
      rintro ⟨k, hk, hsame, -⟩
      exact hnew (List.mem_map.mpr ⟨k, hk, hsame⟩)
    simp only [Schema.set_same, List.mem_append, List.mem_singleton, or_and_right, exists_or, hnone,
      exists_eq_left, true_and, hfound, false_or, Option.some.injEq, Except.ok.injEq]
  · rw [Schema.set_other _ _ hfield, h field value]
    simp [List.mem_append, or_and_right, exists_or, Ne.symm hfield]

end GatheredFrom
end Identity

/-! ### Lookups one after another -/

/-- What some fields are resolved to by lookups one after another, with what is known of the identity
when they begin. -/
inductive Resolves (initial : Identity) :
    List IdentityField → Identity → List Lookup → Outcome Identity → Prop
  | finished (known : Identity) : Resolves initial [] known [] (.ok known)
  | found {field : IdentityField} {rest : List IdentityField} {known : Identity} {value : String}
      {lookups : List Lookup} {outcome : Outcome Identity} :
      Resolves initial rest (Schema.set known field (some value)) lookups outcome →
      Resolves initial (field :: rest) known
        (⟨field, if known.isEmpty then initial else known, .ok value⟩ :: lookups) outcome
  | missed {field : IdentityField} {rest : List IdentityField} {known : Identity} {failure : Failure}
      {lookups : List Lookup} {outcome : Outcome Identity} : failure.yields = true →
      Resolves initial rest known lookups outcome →
      Resolves initial (field :: rest) known
        (⟨field, if known.isEmpty then initial else known, .error failure⟩ :: lookups) outcome
  | failed {field : IdentityField} {rest : List IdentityField} {known : Identity}
      {failure first : Failure} : failure.yields = false → first.kind = failure.kind →
      Resolves initial (field :: rest) known
        [⟨field, if known.isEmpty then initial else known, .error failure⟩] (.error first)

namespace Resolves
variable {initial known : Identity} {fields : List IdentityField} {lookups earlier : List Lookup}
  {outcome : Outcome Identity}

/-- The fields are looked up in their order, as far as they are. -/
theorem exists_later (h : Resolves initial fields known lookups outcome) :
    ∃ later, fields = lookups.map Lookup.field ++ later := by
  induction h with
  | finished known => exact ⟨[], rfl⟩
  | found _ ih | missed _ _ ih =>
    obtain ⟨later, rfl⟩ := ih
    exact ⟨later, rfl⟩
  | @failed field rest => exact ⟨rest, rfl⟩

/-- Every lookup is made in the light of those before it. `earlier` are the lookups that are made
already when the fields begin. -/
theorem knownAfter (h : Resolves initial fields known lookups outcome)
    (hknown : known.GatheredFrom earlier) (hnew : (earlier.map Lookup.field ++ fields).Nodup)
    {before after : List Lookup} {l : Lookup} (hsplit : lookups = before ++ l :: after) :
    l.light.KnownAfter initial (earlier ++ before) := by
  induction h generalizing earlier before with
  | finished known => simp at hsplit
  | @found field rest known value lookups outcome _ ih =>
    cases before with
    | nil =>
      cases hsplit
      rw [List.append_nil]
      exact hknown.knownAfter
    | cons head before =>
      cases hsplit
      have hfresh : field ∉ earlier.map Lookup.field := fun hmem =>
        (List.nodup_append.mp hnew).2.2 field hmem field List.mem_cons_self rfl
      have hgathered := hknown.concat_of_ok
        (l := ⟨field, if known.isEmpty then initial else known, .ok value⟩) rfl hfresh
      have hnodup := ih hgathered (by simpa using hnew) rfl
      simpa using hnodup
  | @missed field rest known failure lookups outcome _ _ ih =>
    cases before with
    | nil =>
      cases hsplit
      rw [List.append_nil]
      exact hknown.knownAfter
    | cons head before =>
      cases hsplit
      have hgathered := hknown.concat_of_error
        (l := ⟨field, if known.isEmpty then initial else known, .error failure⟩) rfl
      have hnodup := ih hgathered (by simpa using hnew) rfl
      simpa using hnodup
  | failed hhard hkind =>
    cases before with
    | nil =>
      cases hsplit
      rw [List.append_nil]
      exact hknown.knownAfter
    | cons head before => simp at hsplit

/-- A lookup that has failed leaves what is known for the next one. -/
theorem light_eq (h : Resolves initial fields known lookups outcome) {before after : List Lookup}
    {l next : Lookup} {failure : Failure} (hsplit : lookups = before ++ l :: next :: after)
    (hfailed : l.outcome = .error failure) : next.light = l.light := by
  induction h generalizing before with
  | finished known => simp at hsplit
  | found hrest ih =>
    cases before with
    | nil =>
      cases hsplit
      cases hfailed
    | cons head before =>
      cases hsplit
      exact ih rfl
  | missed _ hrest ih =>
    cases before with
    | nil =>
      cases hsplit
      cases hrest <;> rfl
    | cons head before =>
      cases hsplit
      exact ih rfl
  | failed hhard hkind => cases before <;> simp at hsplit

/-- A failure that does not yield ends the call with its kind, and no lookup follows. -/
theorem failed_of_hard (h : Resolves initial fields known lookups outcome)
    {before after : List Lookup} {l : Lookup} {failure : Failure}
    (hsplit : lookups = before ++ l :: after) (hfailed : l.outcome = .error failure)
    (hhard : failure.yields = false) :
    after = [] ∧ ∃ first : Failure, outcome = .error first ∧ first.kind = failure.kind := by
  induction h generalizing before with
  | finished known => simp at hsplit
  | found hrest ih =>
    cases before with
    | nil =>
      cases hsplit
      cases hfailed
    | cons head before =>
      cases hsplit
      exact ih rfl
  | missed hyields hrest ih =>
    cases before with
    | nil =>
      cases hsplit
      cases hfailed
      rw [hyields] at hhard
      cases hhard
    | cons head before =>
      cases hsplit
      exact ih rfl
  | failed hends hkind =>
    cases before with
    | nil =>
      cases hsplit
      cases hfailed
      exact ⟨rfl, _, rfl, hkind⟩
    | cons head before => simp at hsplit

/-- Lookups none of which fails the call cover all fields, and what they have found is the identity. -/
theorem succeeds_of_soft (h : Resolves initial fields known lookups outcome)
    (hknown : known.GatheredFrom earlier) (hnew : (earlier.map Lookup.field ++ fields).Nodup)
    (hsoft : ∀ l ∈ lookups, l.outcome.Soft) :
    lookups.map Lookup.field = fields ∧
      ∃ identity : Identity, outcome = .ok identity ∧ identity.GatheredFrom (earlier ++ lookups) := by
  induction h generalizing earlier with
  | finished known => exact ⟨rfl, known, rfl, by rwa [List.append_nil]⟩
  | @found field rest known value lookups outcome _ ih =>
    have hfresh : field ∉ earlier.map Lookup.field := fun hmem =>
      (List.nodup_append.mp hnew).2.2 field hmem field List.mem_cons_self rfl
    have hgathered := hknown.concat_of_ok
      (l := ⟨field, if known.isEmpty then initial else known, .ok value⟩) rfl hfresh
    obtain ⟨hfields, identity, houtcome, hall⟩ := ih hgathered (by simpa using hnew)
      fun l hl => hsoft l (List.mem_cons_of_mem _ hl)
    exact ⟨by rw [List.map_cons, hfields], identity, houtcome, by simpa using hall⟩
  | @missed field rest known failure lookups outcome _ _ ih =>
    have hgathered := hknown.concat_of_error
      (l := ⟨field, if known.isEmpty then initial else known, .error failure⟩) rfl
    obtain ⟨hfields, identity, houtcome, hall⟩ := ih hgathered (by simpa using hnew)
      fun l hl => hsoft l (List.mem_cons_of_mem _ hl)
    exact ⟨by rw [List.map_cons, hfields], identity, houtcome, by simpa using hall⟩
  | failed hhard hkind =>
    have hyields := Outcome.soft_error_iff.mp (hsoft _ List.mem_cons_self)
    rw [hhard] at hyields
    cases hyields

end Resolves

/-! ### Runs -/

namespace Communicator

/-- Lookups at the head of the chain, one after another from one moment to another one. -/
inductive Consults (c : Communicator) (client : Client) (limits : Limits) :
    Moment → List Lookup → Moment → Prop
  | nil (m : Moment) : Consults c client limits m [] m
  | cons {m middle last : Moment} {l : Lookup} {lookups : List Lookup} :
      Ends client limits (c.head (.identity l.field) l.light).run m l.outcome middle →
      Consults c client limits middle lookups last → Consults c client limits m (l :: lookups) last

variable {c : Communicator} {client : Client} {limits : Limits} {m last : Moment}

theorem identifyFrom_nil_run (c : Communicator) (initial known : Identity) :
    (c.identifyFrom initial [] known).run = .done (.ok known) := rfl

/-- The first of some fields is looked up before the others are resolved. -/
theorem identifyFrom_cons_run (c : Communicator) (initial known : Identity) (field : IdentityField)
    (rest : List IdentityField) :
    (c.identifyFrom initial (field :: rest) known).run =
      (c.head (.identity field) (if known.isEmpty then initial else known)).run >>= fun outcome =>
        match optional (Property.identity field).wording outcome with
        | .error failure => .done (.error failure)
        | .ok none => (c.identifyFrom initial rest known).run
        | .ok (some value) => (c.identifyFrom initial rest (Schema.set known field (some value))).run := by
  simp only [identifyFrom, Poll.mapOutcome, ExceptT.run_bind, ExceptT.run_mk, bind_assoc]
  congr 1
  funext outcome
  rw [Reading.done_bind]
  cases optional (Property.identity field).wording outcome with
  | error failure => rfl
  | ok found => cases found <;> rfl

/-- Resolving fields is looking them up one after another. -/
theorem exists_consults (initial : Identity) (fields : List IdentityField) (known : Identity)
    {outcome : Outcome Identity}
    (h : Ends client limits (c.identifyFrom initial fields known).run m outcome last) :
    ∃ lookups, c.Consults client limits m lookups last ∧
      Resolves initial fields known lookups outcome := by
  induction fields generalizing known m with
  | nil =>
    rw [identifyFrom_nil_run] at h
    obtain ⟨rfl, rfl⟩ := h.unique (Ends.done _ m)
    exact ⟨[], .nil _, .finished known⟩
  | cons field rest ih =>
    rw [identifyFrom_cons_run] at h
    obtain ⟨answer, middle, hhead, hrest⟩ := ends_bind_iff.mp h
    cases answer with
    | ok value =>
      simp only [optional] at hrest
      obtain ⟨lookups, hlookups, hresolves⟩ := ih _ hrest
      let l : Lookup := ⟨field, if known.isEmpty then initial else known, .ok value⟩
      exact ⟨l :: lookups, .cons hhead hlookups, .found hresolves⟩
    | error failure =>
      let l : Lookup := ⟨field, if known.isEmpty then initial else known, .error failure⟩
      by_cases hyields : failure.yields = true
      · simp only [optional, hyields, ↓reduceIte] at hrest
        obtain ⟨lookups, hlookups, hresolves⟩ := ih _ hrest
        exact ⟨l :: lookups, .cons hhead hlookups, .missed hyields hresolves⟩
      · simp only [optional, hyields, Bool.false_eq_true, ↓reduceIte] at hrest
        obtain ⟨rfl, rfl⟩ := hrest.unique (Ends.done _ middle)
        exact ⟨[l], .cons hhead (.nil _),
          .failed (Bool.eq_false_iff.mpr hyields) (Failure.kind_within _ failure)⟩

/-- The head of a chain does not give the empty text for a field of the identity. -/
theorem ne_empty_of_ends {field : IdentityField} {light : Identity} {value : String}
    (h : Ends client limits (c.head (.identity field) light).run m (.ok value) last) :
    value ≠ "" := by
  rw [head, headSource, nodeSource_run_of_gate true _ _ _ _ _ fun _ => rfl] at h
  obtain ⟨found, middle, -, hfinish⟩ := ends_bind_iff.mp h
  obtain ⟨hvalue, -⟩ := hfinish.unique (Ends.done _ middle)
  rintro rfl
  cases found with
  | error failure => cases hvalue
  | ok text =>
    have hfinished : Property.finish true (.identity field) text = .ok "" := hvalue.symm
    rw [Property.finish] at hfinished
    split at hfinished
    · cases hfinished
    · next hfilled =>
      cases hfinished
      exact hfilled rfl

theorem Consults.ne_empty {lookups : List Lookup} (h : c.Consults client limits m lookups last)
    {l : Lookup} (hl : l ∈ lookups) {value : String} (hvalue : l.outcome = .ok value) :
    value ≠ "" := by
  induction h with
  | nil m => cases hl
  | cons hhead _ ih =>
    rcases List.mem_cons.mp hl with rfl | hl
    · rw [hvalue] at hhead
      exact ne_empty_of_ends hhead
    · exact ih hl

end Communicator

/-- What lookups one after another make of the identity. -/
structure Resolution (initial : Identity) (lookups : List Lookup) (outcome : Outcome Identity) :
    Prop where
  /-- The fields are looked up in their order, as far as they are. -/
  order : ∃ later, IdentityField.all = lookups.map Lookup.field ++ later
  /-- A lookup knows what those before it have found, or else what was known from the start. -/
  light : ∀ before l after, lookups = before ++ l :: after → l.light.KnownAfter initial before
  /-- A lookup that has failed leaves what is known. -/
  unchanged : ∀ before l next after failure, lookups = before ++ l :: next :: after →
    l.outcome = .error failure → next.light = l.light
  /-- The first failure other than to find or to implement a value is the last lookup, and fails the
  call with its kind. -/
  failed : ∀ before l after failure, lookups = before ++ l :: after → l.outcome = .error failure →
    failure.kind ≠ .notFound → failure.kind ≠ .notImplemented →
    after = [] ∧ ∃ first : Failure, outcome = .error first ∧ first.kind = failure.kind
  /-- Without such a failure every field is looked up, and the identity has what was found. -/
  succeeded : (∀ l ∈ lookups, l.outcome.Soft) → lookups.map Lookup.field = IdentityField.all ∧
    ∃ identity : Identity, outcome = .ok identity ∧ identity.GatheredFrom lookups ∧
      ∀ field, identity field ≠ some ""

namespace Communicator

/-- The identity of a device is resolved field by field. In every run, whatever the overrides make of
what is known, the fields are looked up one after another in their order, each in the light of what the
lookups before it have found, or of what the caller knew if they have found nothing. A lookup that finds
or implements nothing leaves its field unset, and any other failure ends the call with its kind before
another lookup is made. The identity has exactly the values that were found, none of them empty. What
the caller knew is still what the caller's own lookups are made with afterwards. -/
theorem identity_is_resolved_in_order (c : Communicator) (initial : Identity) (client : Client)
    (limits : Limits) (meter : Meter) :
    ∃ lookups outcome last, c.Consults client limits (begin limits meter) lookups last ∧
      Resolution initial lookups outcome ∧
      (∃ enough, ∀ rounds, enough ≤ rounds →
        runWithin client limits rounds (c.identify initial).run meter = (outcome, last.meter)) ∧
      ∀ p : Property, ∃ later ended, Ends client limits (c.head p initial).run last later ended ∧
        ∃ enough, ∀ rounds, enough ≤ rounds →
          runWithin client limits rounds ((c.identify initial).run >>= fun _ => (c.head p initial).run)
            meter = (later, ended.meter) := by
  obtain ⟨outcome, last, hends⟩ := exists_ends client limits (c.identify initial).run meter
  obtain ⟨lookups, hlookups, hresolves⟩ := exists_consults initial IdentityField.all _ hends
  have hblank : Identity.GatheredFrom IdentityField.schema.blank [] := .nil
  have hnodup : (([] : List Lookup).map Lookup.field ++ IdentityField.all).Nodup := by decide
  refine ⟨lookups, outcome, last, hlookups, ⟨hresolves.exists_later, ?light, ?unchanged, ?failed,
    ?succeeded⟩, hends.runWithin, fun p => ?caller⟩
  case light => exact fun before l after => hresolves.knownAfter hblank hnodup
  case unchanged => exact fun before l next after failure => hresolves.light_eq
  case failed =>
    intro before l after failure hsplit hfailed hfound himplemented
    refine hresolves.failed_of_hard hsplit hfailed (Bool.eq_false_iff.mpr fun hyields => ?_)
    exact (Failure.yields_iff.mp hyields).elim hfound himplemented
  case succeeded =>
    intro hsoft
    obtain ⟨hfields, identity, hidentity, hgathered⟩ :=
      hresolves.succeeds_of_soft hblank hnodup hsoft
    refine ⟨hfields, identity, hidentity, hgathered, fun field hempty => ?_⟩
    obtain ⟨l, hl, -, hvalue⟩ := (hgathered field "").mp hempty
    exact hlookups.ne_empty hl hvalue rfl
  case caller =>
    obtain ⟨later, ended, hboth⟩ := exists_ends client limits
      ((c.identify initial).run >>= fun _ => (c.head p initial).run) meter
    obtain ⟨outcome', middle, hidentify, hhead⟩ := ends_bind_iff.mp hboth
    obtain ⟨-, rfl⟩ := hends.unique hidentify
    exact ⟨later, ended, hhead, hboth.runWithin⟩

/-- An override that takes the vendor and the series for the serial number, and the model for the
vendor. -/
def hearsay : Override := fun _ p identity =>
  match p with
  | .identity .vendor | .identity .modelSeries =>
    Poll.ofOutcome (.ok ((identity .serialNumber).getD ""))
  | .identity .model => Poll.ofOutcome (.ok ((identity .vendor).getD ""))
  | other => Source.unsupported other identity

/-- The serial number that the caller knows counts until the vendor is found, and not after that. -/
example :
    let registry := Registry.empty.insert "acme" hearsay
    let c : Communicator := ⟨DeviceClass.root "acme" LabelTree.empty fun _ => none, registry⟩
    let initial : Identity := Schema.set IdentityField.schema.blank IdentityField.serialNumber (some "7")
    let ran := runWithin Device.empty.client (Limits.unhurried 1) 1 (c.identify initial).run Meter.zero
    ran.1.toOption.map (fun identity => IdentityField.all.map identity) =
      some [some "7", some "7", none, none, none] := by decide +kernel

end Communicator
end DevicePoll
