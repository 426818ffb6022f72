import DevicePoll.Proofs.Class.Construction
import DevicePoll.Proofs.Override.Attachment
import DevicePoll.Proofs.Query.Rows
import DevicePoll.Proofs.Source.Declared
import DevicePoll.Proofs.Source.Scan

/-! Listings of interfaces with access points. The first flaw in what the device tells of its access
points fails the listing, whatever interfaces the class above lists. The one exception is a read that
the device does not implement: that failure yields, and the listing of the class above stands for
itself. -/
namespace DevicePoll

open Reading

namespace Sap
variable {answer : (request : Request) → Outcome request.Reply} {interfaces : List Interface}
  {oid : String} {kind : Failure.Kind}

/-! ### Flaws -/

/-- What is wrong with the reply for a counter: a failure other than that nothing is found, or a value
that is no unsigned number. -/
inductive CounterFlaw : Outcome Scalar → Failure.Kind → Prop
  | failed {failure : Failure} (h : failure.kind ≠ .notFound) :
      CounterFlaw (.error failure) failure.kind
  | unreadable {value : Scalar} (h : ∀ n, value.toUnsigned ≠ .ok n) : CounterFlaw (.ok value) .decode

/-- An interface has the number as its index. -/
def Indexed (interfaces : List Interface) (number : Nat) : Prop :=
  ∃ n, number = n.toNat ∧ ∃ i ∈ interfaces, i .index = some n

/-- What is wrong with a row: it names no access point, or one without an interface, or a counter of it
is flawed, the one of what comes in before the one of what goes out. -/
inductive RowFlaw (answer : (request : Request) → Outcome request.Reply) (interfaces : List Interface)
    (oid : String) : Failure.Kind → Prop
  | malformed (h : ∀ i : Index, ¬i.IsAt oid) : RowFlaw answer interfaces oid .decode
  | unmatched {i : Index} (hi : i.IsAt oid) (h : ¬Indexed interfaces i.interfaceNumber) :
      RowFlaw answer interfaces oid .decode
  | inbound {i : Index} {kind : Failure.Kind} (hi : i.IsAt oid)
      (hindexed : Indexed interfaces i.interfaceNumber)
      (h : CounterFlaw (i.reply answer hi.1 .inbound) kind) : RowFlaw answer interfaces oid kind
  | outbound {i : Index} {kind : Failure.Kind} {found : Option UInt64} (hi : i.IsAt oid)
      (hindexed : Indexed interfaces i.interfaceNumber)
      (hinbound : Counts (i.reply answer hi.1 .inbound) found)
      (h : CounterFlaw (i.reply answer hi.1 .outbound) kind) : RowFlaw answer interfaces oid kind

/-- The device does not tell its access points, or one of their rows is flawed. -/
def Flawed (answer : (request : Request) → Outcome request.Reply) (interfaces : List Interface) : Prop :=
  (∃ failure : Failure, answer (.walk tableOid) = .error failure ∧ failure.kind ≠ .notFound) ∨
    ∃ responses, Listed answer responses ∧
      ∃ response ∈ responses, ∃ kind, RowFlaw answer interfaces response.oid kind

/-- What is wrong with the table of access points, or else with the first row that is flawed. -/
inductive FirstFlaw (answer : (request : Request) → Outcome request.Reply)
    (interfaces : List Interface) : Failure.Kind → Prop
  | table {failure : Failure} (h : answer (.walk tableOid) = .error failure)
      (hkind : failure.kind ≠ .notFound) : FirstFlaw answer interfaces failure.kind
  | row {before after : List Response} {response : Response} {kind : Failure.Kind}
      (hlisted : Listed answer (before ++ response :: after))
      (hbefore : ∀ earlier ∈ before, ∀ kind, ¬RowFlaw answer interfaces earlier.oid kind)
      (hrow : RowFlaw answer interfaces response.oid kind) : FirstFlaw answer interfaces kind

theorem kind?_counterOutcome {reply : Outcome Scalar} :
    (counterOutcome reply).kind? = some kind ↔ CounterFlaw reply kind := by
  rw [Outcome.kind?_eq_some]
  constructor
  · rintro ⟨failure, hfailure, rfl⟩
    cases reply with
    | ok value =>
      have hvalue := map_error hfailure
      rw [value.decodes_toUnsigned failure hvalue]
      exact .unreadable fun n hn => nomatch hn.symm.trans hvalue
    | error own =>
      rw [counterOutcome] at hfailure
      split at hfailure
      · cases hfailure
      · next hother =>
        obtain rfl := Except.error.inj hfailure
        exact .failed fun hkind => hother (by simp [Failure.isNotFound, hkind])
  · rintro (h | h)
    · exact ⟨_, by simp [counterOutcome, Failure.isNotFound, h], rfl⟩
    · next value =>
      cases hvalue : value.toUnsigned with
      | ok n => exact absurd hvalue (h n)
      | error failure =>
        exact ⟨failure, by rw [counterOutcome, hvalue]; rfl, value.decodes_toUnsigned failure hvalue⟩

theorem kind?_countersOutcome (inbound outbound : Outcome (Option UInt64)) :
    (countersOutcome inbound outbound).kind? = inbound.kind?.or outbound.kind? := by
  cases inbound with
  | error failure => rfl
  | ok found => cases outbound <;> rfl

theorem kind?_outcome_counters {i : Index} (h : i.IsNumeral) :
    ((counters i).outcome answer).kind? = some kind ↔
      CounterFlaw (i.reply answer h .inbound) kind ∨
        (∃ found, Counts (i.reply answer h .inbound) found) ∧
          CounterFlaw (i.reply answer h .outbound) kind := by
  rw [outcome_counters, outcome_counter answer h, outcome_counter answer h, kind?_countersOutcome,
    Option.or_eq_some_iff, ← kind?_counterOutcome, ← kind?_counterOutcome]
  simp only [← counterOutcome_eq_ok_iff]
  refine or_congr Iff.rfl (and_congr_left fun _ => ?_)
  change (counterOutcome (i.reply answer h .inbound)).kind? = none ↔ _
  cases counterOutcome (i.reply answer h .inbound) <;> simp

theorem indexed_iff {n : UInt64} : Indexed interfaces n.toNat ↔ (placeOf? n interfaces).isSome := by
  rw [Option.isSome_iff_exists, exists_placeOf?_iff, Indexed]
  constructor
  · rintro ⟨m, hm, hthere⟩
    obtain rfl := UInt64.toNat_inj.mp hm
    exact hthere
  · exact fun hthere => ⟨n, rfl, hthere⟩

section Row
variable {response : Response} {i : Index}

theorem kind?_of_malformed (h : ∀ i : Index, ¬i.IsAt response.oid) :
    (rowOutcome answer interfaces response).kind? = some .decode := by
  cases hindex : Index.ofResponse response.oid with
  | ok i => exact absurd (Index.ofResponse_eq_ok_iff.mp hindex) (h i)
  | error failure =>
    rw [rowOutcome, hindex]
    exact congrArg some (Index.decodes_ofResponse response.oid failure hindex)

theorem kind?_of_unmatched (hi : i.IsAt response.oid) (h : ¬Indexed interfaces i.interfaceNumber) :
    (rowOutcome answer interfaces response).kind? = some .decode := by
  rw [rowOutcome, Index.ofResponse_eq_ok_iff.mpr hi]
  change Outcome.kind? (i.interfaceIndex >>= _) = _
  cases hindex : i.interfaceIndex with
  | error failure => exact congrArg some (i.decodes_interfaceIndex failure hindex)
  | ok n =>
    rw [(Index.interfaceIndex_eq_ok_iff hi.1).mp hindex, indexed_iff] at h
    change Outcome.kind? (if _ then _ else _) = _
    rw [if_neg h]
    rfl

/-- A row with an interface fails as its counters do. -/
theorem kind?_of_indexed (hi : i.IsAt response.oid) (h : Indexed interfaces i.interfaceNumber) :
    (rowOutcome answer interfaces response).kind? = ((counters i).outcome answer).kind? := by
  obtain ⟨n, hn, hthere⟩ := h
  rw [rowOutcome, Index.ofResponse_eq_ok_iff.mpr hi]
  change Outcome.kind? (i.interfaceIndex >>= _) = _
  rw [(Index.interfaceIndex_eq_ok_iff hi.1).mpr hn]
  change Outcome.kind? (if _ then _ else _) = _
  rw [if_pos (indexed_iff.mp ⟨n, rfl, hthere⟩)]
  cases (counters i).outcome answer <;> rfl

/-- What fails a row is what is wrong with it. -/
theorem kind?_rowOutcome : (rowOutcome answer interfaces response).kind? = some kind ↔
    RowFlaw answer interfaces response.oid kind := by
  constructor
  · intro h
    by_cases hat : ∃ i : Index, i.IsAt response.oid
    · obtain ⟨i, hi⟩ := hat
      by_cases hindexed : Indexed interfaces i.interfaceNumber
      · rw [kind?_of_indexed hi hindexed, kind?_outcome_counters hi.1] at h
        rcases h with hflaw | ⟨⟨found, hinbound⟩, hflaw⟩
        · exact .inbound hi hindexed hflaw
        · exact .outbound hi hindexed hinbound hflaw
      · obtain rfl := Option.some.inj ((kind?_of_unmatched hi hindexed).symm.trans h)
        exact .unmatched hi hindexed
    · have hnone := not_exists.mp hat
      obtain rfl := Option.some.inj ((kind?_of_malformed hnone).symm.trans h)
      exact .malformed hnone
  · intro h
    cases h with
    | malformed h => exact kind?_of_malformed h
    | unmatched hi h => exact kind?_of_unmatched hi h
    | inbound hi hindexed h =>
      rw [kind?_of_indexed hi hindexed, kind?_outcome_counters hi.1]
      exact .inl h
    | outbound hi hindexed hinbound h =>
      rw [kind?_of_indexed hi hindexed, kind?_outcome_counters hi.1]
      exact .inr ⟨⟨_, hinbound⟩, h⟩

end Row

/-! ### The first flaw -/

theorem Listed.kind_eq {responses : List Response} (h : Listed answer responses) {failure : Failure}
    (hwalk : answer (.walk tableOid) = .error failure) : failure.kind = .notFound := by
  rcases h with hok | ⟨-, other, hother, hkind⟩
  · exact nomatch hwalk.symm.trans hok
  · rwa [Except.error.inj (hwalk.symm.trans hother)]

/-- The walk of the table fails, or it comes to rows. -/
theorem failing_or_listed (answer : (request : Request) → Outcome request.Reply) :
    (∃ failure : Failure, answer (.walk tableOid) = .error failure ∧ failure.kind ≠ .notFound) ∨
      ∃ responses, Listed answer responses := by
  cases hwalk : answer (.walk tableOid) with
  | ok responses => exact .inr ⟨responses, .inl hwalk⟩
  | error failure =>
    by_cases hkind : failure.kind = .notFound
    · exact .inr ⟨[], .inr ⟨rfl, failure, hwalk, hkind⟩⟩
    · exact .inl ⟨failure, rfl, hkind⟩

/-- Attaching access points fails as the first flaw says. -/
theorem kind?_outcome_attach : ((attach interfaces).outcome answer).kind? = some kind ↔
    FirstFlaw answer interfaces kind := by
  rcases failing_or_listed answer with ⟨failure, hwalk, hkind⟩ | ⟨responses, hlisted⟩
  · rw [outcome_attach_of_failing hwalk hkind, Outcome.kind?_error, Failure.kind_within]
    constructor
    · intro h
      obtain rfl := Option.some.inj h
      exact .table hwalk hkind
    · intro h
      cases h with
      | table hother _ => rw [Except.error.inj (hwalk.symm.trans hother)]
      | row hlisted _ _ => exact absurd (hlisted.kind_eq hwalk) hkind
  · rw [outcome_attach_of_listed hlisted, Outcome.kind?_map, Outcome.kind?_mapM,
      List.findSome?_eq_some_iff]
    constructor
    · rintro ⟨before, response, after, rfl, hresponse, hbefore⟩
      refine .row hlisted (fun earlier hearlier kind hflaw => ?_) (kind?_rowOutcome.mp hresponse)
      exact nomatch (hbefore earlier hearlier).symm.trans (kind?_rowOutcome.mpr hflaw)
    · intro h
      cases h with
      | table hwalk hkind => exact absurd (hlisted.kind_eq hwalk) hkind
      | @row before after response _ hsplit hbefore hrow =>
        refine ⟨before, response, after, hlisted.unique hsplit, kind?_rowOutcome.mpr hrow, ?_⟩
        intro earlier hearlier
        refine Option.eq_none_iff_forall_ne_some.mpr fun kind hkind => ?_
        exact hbefore earlier hearlier kind (kind?_rowOutcome.mp hkind)

theorem CounterFlaw.kind_ne {reply : Outcome Scalar} (h : CounterFlaw reply kind) :
    kind ≠ .notFound := by
  cases h with
  | failed h => exact h
  | unreadable _ => exact nofun

theorem RowFlaw.kind_ne (h : RowFlaw answer interfaces oid kind) : kind ≠ .notFound := by
  cases h with
  | malformed _ => exact nofun
  | unmatched _ _ => exact nofun
  | inbound _ _ h => exact h.kind_ne
  | outbound _ _ _ h => exact h.kind_ne

/-- That nothing is found is no flaw. -/
theorem FirstFlaw.kind_ne (h : FirstFlaw answer interfaces kind) : kind ≠ .notFound := by
  cases h with
  | table _ h => exact h
  | row _ _ h => exact h.kind_ne

/-- Wherever there is a flaw there is a first one. -/
theorem flawed_iff : Flawed answer interfaces ↔ ∃ kind, FirstFlaw answer interfaces kind := by
  constructor
  · rintro (⟨failure, hwalk, hkind⟩ | ⟨responses, hlisted, response, hresponse, kind, hflaw⟩)
    · exact ⟨failure.kind, .table hwalk hkind⟩
    · have hfails : (responses.findSome? fun response =>
          (rowOutcome answer interfaces response).kind?).isSome := by
        refine List.findSome?_isSome_iff.mpr ⟨response, hresponse, ?_⟩
        rw [kind?_rowOutcome.mpr hflaw]
        rfl
      obtain ⟨first, hfirst⟩ := Option.isSome_iff_exists.mp hfails
      refine ⟨first, kind?_outcome_attach.mp ?_⟩
      rw [outcome_attach_of_listed hlisted, Outcome.kind?_map, Outcome.kind?_mapM, hfirst]
  · rintro ⟨kind, h⟩
    cases h with
    | table hwalk hkind => exact .inl ⟨_, hwalk, hkind⟩
    | @row before after response _ hlisted _ hrow =>
      exact .inr ⟨_, hlisted, response, by simp, kind, hrow⟩

end Sap

/-! ### Listings -/

namespace Communicator
variable {c : Communicator} {parent : Source} {identity : Identity}

/-- Where the class of the head says nothing of a property, its override is asked, and then the class
above if the override yields. -/
theorem head_run_of_undeclared {p : Property} {source : Source}
    (hgate : p.gate c.deviceClass.head.components = .ok ())
    (hopen : c.deviceClass.declares p.path = false) (hparent : c.nodeBelow 1 = some parent)
    (hsource : c.registry.create c.deviceClass.name (some parent) = some source) :
    (c.head p identity).run =
      tryFrom p.wording false [(source p identity).run, (parent p identity).run] >>= fun outcome =>
        .done (outcome >>= p.finish true) := by
  have hclass : c.deviceClass.head.property p =
      Poll.fails (.undeclared p.path c.deviceClass.head.name) :=
    Tier.property_of_absent (Tier.node?_of_not_declares hopen)
  have hchain : chainSource c.registry c.deviceClass.ancestors = some parent := hparent
  rw [head, headSource, hchain, hsource, nodeSource_run_of_gate _ _ _ _ _ _ fun _ => hgate, hclass]
  rfl

/-- The listing of a class with access points, where it says nothing of interfaces itself: they are
attached to the listing of the class above, which is asked once more if they yield. -/
theorem interfaces_run_of_access (hname : c.deviceClass.name = Sap.className)
    (hregistry : c.registry = Sap.defaults)
    (hopen : c.deviceClass.declares Property.interfaces.path = false)
    (hadvertised : c.advertises .interfaces = true) (hparent : c.nodeBelow 1 = some parent) :
    (c.interfaces identity).run =
      tryFrom Property.interfaces.wording false
        [(parent .interfaces identity >>= Sap.attach).run, (parent .interfaces identity).run] >>=
      fun outcome => .done (outcome >>= Property.finish true .interfaces) := by
  have hgate : Property.gate .interfaces c.deviceClass.head.components = .ok () := by
    have hcomponents : c.deviceClass.head.components .interfaces = true := hadvertised
    simp [Property.gate, Property.component?, hcomponents]
  have hsource : c.registry.create c.deviceClass.name (some parent) =
      some (Sap.override (some parent)) := by
    rw [hname, hregistry]
    rfl
  exact head_run_of_undeclared hgate hopen hparent hsource

section Run
variable {client : Client} {permits : Nat} {meter : Meter} {listed : List Interface}
  (hname : c.deviceClass.name = Sap.className) (hregistry : c.registry = Sap.defaults)
  (hopen : c.deviceClass.declares Property.interfaces.path = false)
  (hadvertised : c.advertises .interfaces = true) (hparent : c.nodeBelow 1 = some parent)
  (hlisted : (parent .interfaces identity).unhurried client permits meter = .ok listed)
include hname hregistry hopen hadvertised hparent hlisted

/-- Once the class above has listed its interfaces, the access points are attached to them, and the search
goes on from what this comes to. -/
theorem exists_ends_of_listed : ∃ middle shown ended last,
    Ends client (.unhurried permits)
      (let attached := (Sap.attach listed).outcome client.answer
      if attached.decides then .done attached
      else tryFrom Property.interfaces.wording attached.isNotFound [(parent .interfaces identity).run])
      middle shown ended ∧
    Ends client (.unhurried permits) (.done (shown >>= Property.finish true .interfaces)) ended
      ((c.interfaces identity).unhurried client permits meter) last := by
  obtain ⟨last, hends⟩ := (c.interfaces identity).ends_unhurried client permits meter
  rw [interfaces_run_of_access hname hregistry hopen hadvertised hparent] at hends
  obtain ⟨shown, ended, hsearch, hfinish⟩ := ends_bind_iff.mp hends
  rw [tryFrom_cons] at hsearch
  obtain ⟨own, middle, hown, hrest⟩ := ends_bind_iff.mp hsearch
  obtain ⟨listing, between, hlisting, hattach⟩ := ends_bind_iff.mp hown
  obtain ⟨_, hends'⟩ := Poll.unhurried_eq_iff.mp hlisted
  obtain rfl := (hlisting.unique hends').1
  obtain rfl : own = (Sap.attach listed).outcome client.answer :=
    hattach.eq_eval rfl (Sap.orderly_attach listed)
  exact ⟨middle, shown, ended, last, hrest, hfinish⟩

/-- What is attached is shown unless it yields. -/
theorem shown_of_decided (hdecides : ((Sap.attach listed).outcome client.answer).decides = true) :
    (c.interfaces identity).unhurried client permits meter =
      ((Sap.attach listed).outcome client.answer).map (List.map Interface.normalize) := by
  obtain ⟨middle, shown, ended, last, hsearch, hfinish⟩ :=
    exists_ends_of_listed hname hregistry hopen hadvertised hparent hlisted
  dsimp only at hsearch
  rw [if_pos hdecides] at hsearch
  obtain rfl := (hsearch.unique (.done _ _)).1
  rw [(hfinish.unique (.done _ _)).1]
  cases (Sap.attach listed).outcome client.answer <;> rfl

/-- If the reads of the access points are not implemented, the class above is asked once more. -/
theorem shown_of_unimplemented
    (hkind : ((Sap.attach listed).outcome client.answer).kind? = some .notImplemented) :
    ∃ again middle last,
      Ends client (.unhurried permits) (parent .interfaces identity).run middle again last ∧
      Outcome.kind? ((c.interfaces identity).unhurried client permits meter) = Outcome.kind? again ∧
      ∀ rows, again = .ok rows → (c.interfaces identity).unhurried client permits meter =
        .ok (rows.map Interface.normalize) := by
  obtain ⟨failure, hattach, hfailure⟩ := Outcome.kind?_eq_some.mp hkind
  have hyields : failure.yields = true := Failure.yields_iff.mpr (.inr hfailure)
  have hfound : failure.isNotFound = false := by rw [Failure.isNotFound, hfailure]; rfl
  obtain ⟨middle, shown, ended, last, hsearch, hfinish⟩ :=
    exists_ends_of_listed hname hregistry hopen hadvertised hparent hlisted
  rw [hattach] at hsearch
  simp only [Outcome.decides_error, Outcome.isNotFound_error, hyields, hfound, Bool.not_true,
    Bool.false_eq_true, ↓reduceIte] at hsearch
  rw [tryFrom_cons] at hsearch
  obtain ⟨again, between, hagain, hrest⟩ := ends_bind_iff.mp hsearch
  refine ⟨again, middle, between, hagain, ?_⟩
  rw [(hfinish.unique (.done _ _)).1]
  cases again with
  | ok rows =>
    obtain rfl := (hrest.unique (.done _ _)).1
    exact ⟨rfl, fun _ h => by cases h; rfl⟩
  | error other =>
    refine ⟨?_, fun _ hrows => by cases hrows⟩
    rw [Outcome.decides_error] at hrest
    cases hother : other.yields with
    | false =>
      rw [hother] at hrest
      obtain rfl := (hrest.unique (.done _ _)).1
      rfl
    | true =>
      rw [hother] at hrest
      obtain rfl := (hrest.unique (.done _ _)).1
      -- the search ends without a decision, in the kind in which the class above has yielded
      change some (undecided _ _).kind = some other.kind
      rw [kind_undecided, Outcome.isNotFound_error, Bool.false_or]
      rcases Failure.yields_iff.mp hother with hnot | hnot <;> simp [Failure.isNotFound, hnot]

/-- If all reads take the same time and are asked for at the start of their tree, the class above lists
the same interfaces once more. -/
theorem shown_of_prompt (hkind : ((Sap.attach listed).outcome client.answer).kind? = some .notImplemented)
    {time : Nat} (htime : client.Takes time) (hclass : c.deviceClass.Prompt) :
    (c.interfaces identity).unhurried client permits meter = .ok (listed.map Interface.normalize) := by
  have horderly : c.registry.Orderly := hregistry ▸ Sap.orderly_defaults
  obtain ⟨-, hancestors⟩ := List.forall_mem_cons.mp hclass
  have hbelow : (parent .interfaces identity).outcome client.answer = .ok listed :=
    ((horderly.chainSource hancestors parent hparent .interfaces identity).unhurried_eq
      (fun _ => htime) permits meter).symm.trans hlisted
  have hattached : (parent .interfaces identity >>= Sap.attach).outcome client.answer =
      (Sap.attach listed).outcome client.answer := by
    rw [Poll.outcome_bind, hbelow]
    rfl
  obtain ⟨failure, hattach, hfailure⟩ := Outcome.kind?_eq_some.mp hkind
  have hyields : failure.yields = true := Failure.yields_iff.mpr (.inr hfailure)
  have hshown : (c.interfaces identity).Orderly True := orderly_head horderly hclass identity .interfaces
  rw [Poll.outcome] at hbelow hattached
  rw [hshown.unhurried_eq (fun _ => htime) permits meter, Poll.outcome,
    interfaces_run_of_access hname hregistry hopen hadvertised hparent, eval_bind, eval_tryFrom_cons, eval_tryFrom_cons, hattached, hattach, hbelow,
    Outcome.decides_error, hyields]
  rfl

end Run

/-- The communicator of a class in a catalog is one of a class of that name. -/
theorem ofCatalog_eq_ok {overlays : List ClassOverlay} {catalog : Catalog}
    (hcatalog : Catalog.ofOverlays overlays = .ok catalog) {name : String} {registry : Registry}
    (hc : ofCatalog catalog name registry = .ok c) :
    c.deviceClass.name = name ∧ c.registry = registry := by
  rw [ofCatalog, Catalog.find] at hc
  split at hc
  · next deviceClass hget =>
    obtain rfl := Except.ok.inj hc
    obtain ⟨o, -, rfl, hbuilds⟩ := (Catalog.get?_ofOverlays hcatalog).mp hget
    exact ⟨hbuilds.name_eq, rfl⟩
  · cases hc

/-- A class with access points that says nothing of interfaces itself fails its listing as the first
flaw in the access points says, whatever interfaces the class above lists; without a flaw it lists
those interfaces with the access points attached. Only a read that the device does not implement lets
the class above be asked once more, and its listing then stands for itself; if all reads take the same
time, and all those of a tree are asked for at its start, it is the same listing. -/
theorem flawed_access_point_fails_listing {overlays : List ClassOverlay} {catalog : Catalog}
    (hcatalog : Catalog.ofOverlays overlays = .ok catalog) {c : Communicator}
    (hc : ofCatalog catalog Sap.className Sap.defaults = .ok c)
    (hderived : c.deviceClass.ancestors ≠ [])
    (hopen : c.deviceClass.declares "interfaces" = false)
    (hadvertised : c.advertises .interfaces = true) (identity : Identity) :
    ∃ parent : Source, c.nodeBelow 1 = some parent ∧
      ∀ (client : Client) (permits : Nat) (meter : Meter) (listed : List Interface),
      (parent .interfaces identity).unhurried client permits meter = .ok listed →
      let shown := (c.interfaces identity).unhurried client permits meter
      (Sap.Flawed client.answer listed ↔ ∃ kind, Sap.FirstFlaw client.answer listed kind) ∧
      (∀ kind, Sap.FirstFlaw client.answer listed kind → kind ≠ .notImplemented →
        ∃ failure, shown = .error failure ∧ failure.kind = kind) ∧
      (¬Sap.Flawed client.answer listed → ∃ attached,
        (Sap.attach listed).outcome client.answer = .ok attached ∧
          shown = .ok (attached.map Interface.normalize)) ∧
      (Sap.FirstFlaw client.answer listed .notImplemented →
        (∃ again middle last,
          Ends client (.unhurried permits) (parent .interfaces identity).run middle again last ∧
          Outcome.kind? shown = Outcome.kind? again ∧
          ∀ rows, again = .ok rows → shown = .ok (rows.map Interface.normalize)) ∧
        ((∃ time, client.Takes time) → c.deviceClass.Prompt →
          shown = .ok (listed.map Interface.normalize))) := by
  obtain ⟨hname, hregistry⟩ := ofCatalog_eq_ok hcatalog hc
  obtain ⟨parent, hparent⟩ : ∃ parent, c.nodeBelow 1 = some parent := by
    cases hancestors : c.deviceClass.ancestors with
    | nil => exact absurd hancestors hderived
    | cons tier above =>
      rw [nodeBelow, hancestors]
      exact ⟨_, rfl⟩
  have hpath : Property.interfaces.path = "interfaces" := by decide
  refine ⟨parent, hparent, fun client permits meter listed hlisted => ?_⟩
  intro shown
  have hdecided := shown_of_decided hname hregistry (hpath ▸ hopen) hadvertised hparent hlisted
  refine ⟨Sap.flawed_iff, fun kind hflaw hkind => ?_, fun hflawless => ?_, fun hflaw => ?_⟩
  · obtain ⟨failure, hattach, rfl⟩ := Outcome.kind?_eq_some.mp (Sap.kind?_outcome_attach.mpr hflaw)
    have hfinal : failure.yields = false := by
      rw [Bool.eq_false_iff, ne_eq, Failure.yields_iff]
      exact not_or.mpr ⟨hflaw.kind_ne, hkind⟩
    rw [hattach, Outcome.decides_error, hfinal] at hdecided
    exact ⟨failure, hdecided rfl, rfl⟩
  · have hsucceeds : ((Sap.attach listed).outcome client.answer).kind? = none := by
      refine Option.eq_none_iff_forall_ne_some.mpr fun kind hkind => hflawless ?_
      exact Sap.flawed_iff.mpr ⟨kind, Sap.kind?_outcome_attach.mp hkind⟩
    obtain ⟨attached, hattach⟩ := Outcome.kind?_eq_none.mp hsucceeds
    rw [hattach] at hdecided
    exact ⟨attached, hattach, hdecided rfl⟩
  · have hkind := Sap.kind?_outcome_attach.mpr hflaw
    refine ⟨shown_of_unimplemented hname hregistry (hpath ▸ hopen) hadvertised hparent hlisted hkind,
      fun ⟨time, htime⟩ hclass => ?_⟩
    exact shown_of_prompt hname hregistry (hpath ▸ hopen) hadvertised hparent hlisted hkind htime hclass

end Communicator

/-- A class that lists its interfaces by what is said of them. -/
def describedRouter : ClassOverlay :=
  ((ClassOverlay.named "timos").withComponent .interfaces true).withLeaf "interfaces.ifDescr" "1.1" []

/-- A class with access points below it, without a word of its own. -/
def accessPointRouter : ClassOverlay := (ClassOverlay.named Sap.className).withParent "timos"

/-- A device with one interface and two access points, the second one of an interface that is not
there. -/
def strayAccessPoint : Device :=
  ((Device.empty.withColumn "1.1" [(73, .text "port")]).withValue
    (Sap.tableOid.text ++ ".12.7.3") (.text "own")).withValue
    (Sap.tableOid.text ++ ".12.7.4") (.text "stray")

namespace Communicator

theorem stray_access_point_fails_listing : ∃ catalog c,
    Catalog.ofOverlays [describedRouter, accessPointRouter] = .ok catalog ∧
    ofCatalog catalog Sap.className Sap.defaults = .ok c ∧
    ∃ failure : Failure, (c.interfaces IdentityField.schema.blank).unhurried strayAccessPoint.client 4
      Meter.zero = .error failure ∧ failure.kind = .decode := by
  obtain ⟨catalog, c, parent, hcatalog, hc, hderived, hopen, hadvertised, hparent, hattach⟩ :
      ∃ catalog c parent, Catalog.ofOverlays [describedRouter, accessPointRouter] = .ok catalog ∧
        ofCatalog catalog Sap.className Sap.defaults = .ok c ∧ c.deviceClass.ancestors ≠ [] ∧
        c.deviceClass.declares "interfaces" = false ∧ c.advertises .interfaces = true ∧
        c.nodeBelow 1 = some parent ∧
        (((parent .interfaces IdentityField.schema.blank).unhurried strayAccessPoint.client 4
          Meter.zero).toOption.bind fun listed =>
            ((Sap.attach listed).outcome strayAccessPoint.client.answer).kind?) = some .decode :=
    ⟨_, _, _, Catalog.ofOverlays_of_round rfl, rfl, nofun, by decide +kernel, by decide +kernel, rfl,
      Poll.unhurried_of_stateAfter 4 (f := fun outcome => outcome.toOption.bind fun listed =>
        ((Sap.attach listed).outcome strayAccessPoint.client.answer).kind?) (by decide +kernel)⟩
  obtain ⟨listed, hlisted, hflaw⟩ := Option.bind_eq_some_iff.mp hattach
  obtain ⟨above, habove, hlisting⟩ := flawed_access_point_fails_listing hcatalog hc hderived hopen
    hadvertised IdentityField.schema.blank
  obtain rfl := Option.some.inj (hparent.symm.trans habove)
  obtain ⟨-, hfails, -⟩ :=
    hlisting strayAccessPoint.client 4 Meter.zero listed (toOption_eq_some_iff.mp hlisted)
  exact ⟨catalog, c, hcatalog, hc, hfails .decode (Sap.kind?_outcome_attach.mp hflaw) (by decide)⟩

/-- The table of access points is not implemented. That failure yields, and the listing of the class
above takes the place of the failure. -/
theorem unimplemented_access_points_go_missing :
    let device := (Device.empty.withColumn "1.1" [(73, .text "port")]).withFault Sap.tableOid.text
      .notImplemented
    ∃ catalog c parent, Catalog.ofOverlays [describedRouter, accessPointRouter] = .ok catalog ∧
      ofCatalog catalog Sap.className Sap.defaults = .ok c ∧ c.deviceClass.ancestors ≠ [] ∧
      c.deviceClass.declares "interfaces" = false ∧ c.advertises .interfaces = true ∧
      c.nodeBelow 1 = some parent ∧
      (∃ listed, (parent .interfaces IdentityField.schema.blank).unhurried device.client 4
        Meter.zero = .ok listed) ∧
      (∃ failure : Failure, device.client.answer (.walk Sap.tableOid) = .error failure ∧
        failure.kind ≠ .notFound) ∧
      ∃ shown, (c.interfaces IdentityField.schema.blank).unhurried device.client 4
        Meter.zero = .ok shown :=
  ⟨_, _, _, Catalog.ofOverlays_of_round rfl, rfl, nofun, by decide +kernel, by decide +kernel, rfl,
    Outcome.kind?_eq_none.mp (Poll.unhurried_of_stateAfter 4 (by decide +kernel)),
    ⟨_, rfl, by decide +kernel⟩,
    Outcome.kind?_eq_none.mp (Poll.unhurried_of_stateAfter 8 (by decide +kernel))⟩

end Communicator
end DevicePoll
