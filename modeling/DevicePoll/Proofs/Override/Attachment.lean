import DevicePoll.Device
import DevicePoll.Proofs.Override.AccessPoint
import DevicePoll.Proofs.Override.Standard

/-! Attaching access points to interfaces. All rows of the table are read before it matters what is
attached: a row finds its interface by its index, which attaching never changes, so that the interfaces
come to the counters of all rows laid on them one after another, or to the failure of the first row
that fails. -/
namespace DevicePoll

open Reading

/-! ### Reads that are cut off -/

namespace Poll
variable {α β : Type} {client : Client}

/-- Wherever its reads are cut off, the program comes to what they give one after another, or it
fails. -/
def Steady (client : Client) (p : Poll α) : Prop :=
  ∀ stop, p.run.Ensures (.during client stop) fun value _ =>
    value = p.outcome client.answer ∨ ∃ failure, value = .error failure

namespace Steady

theorem ofOutcome (outcome : Outcome α) : Steady client (Poll.ofOutcome outcome) :=
  fun _ => .done (.inl rfl)

theorem bind {p : Poll α} {f : α → Poll β} (h : Steady client p)
    (hf : ∀ value, Steady client (f value)) : Steady client (p >>= f) := by
  intro stop
  refine (h stop).bind fun outcome cut houtcome => ?_
  rw [outcome_bind]
  rcases houtcome with rfl | ⟨failure, rfl⟩
  · cases p.outcome client.answer with
    | ok value => exact hf value stop
    | error failure => exact .done (.inl rfl)
  · exact .done (.inr ⟨failure, rfl⟩)

/-- A read whose hard failures stay failures. -/
theorem request {q : Request} {f : Outcome q.Reply → Outcome β}
    (hf : ∀ failure : Failure, failure.kind.isHard = true →
      ∃ other, f (.error failure) = .error other) :
    Steady client ((Poll.request q).mapOutcome f) := by
  intro stop
  refine .read fun reply cut hreply => .done ?_
  cases hreply with
  | answered => exact .inl (by rw [outcome_mapOutcome, outcome_request])
  | cutOff stage =>
    have hhard : Failure.kind (.because (.cutOff stop stage q.oid.absolute)) = stop.category.kind := rfl
    exact .inr (hf _ (hhard ▸ Replies.isHard_stop stop))

theorem runWithin {p : Poll α} (h : Steady client p) (limits : Limits) (rounds : Nat)
    (meter : Meter) :
    (runWithin client limits rounds p.run meter).1 = p.outcome client.answer ∨
      ∃ failure, (Reading.runWithin client limits rounds p.run meter).1 = .error failure := by
  obtain ⟨cut, hvalue, -⟩ := Ensures.runWithin (h limits.stopper) rounds meter
  exact hvalue

end Steady
end Poll

namespace Sap

theorem counterOutcome_of_hard {failure : Failure} (h : failure.kind.isHard = true) :
    counterOutcome (.error failure) = .error failure := by
  rw [counterOutcome, if_neg]
  intro hnotFound
  have hkind : failure.kind = .notFound := by simpa [Failure.isNotFound] using hnotFound
  rw [hkind] at h
  cases h

variable {client : Client}

theorem steady_counter (column : Oid) (i : Index) : (counter column i).Steady client :=
  (Poll.Steady.ofOutcome _).bind fun _ =>
    .request fun failure hhard => ⟨failure, counterOutcome_of_hard hhard⟩

/-- A counter that fails fails both, and otherwise they are what they should be. -/
theorem countersOutcome_of_or {inbound outbound inbound' outbound' : Outcome (Option UInt64)}
    (hin : inbound = inbound' ∨ ∃ failure, inbound = .error failure)
    (hout : outbound = outbound' ∨ ∃ failure, outbound = .error failure) :
    countersOutcome inbound outbound = countersOutcome inbound' outbound' ∨
      ∃ failure, countersOutcome inbound outbound = .error failure := by
  rcases hin with rfl | ⟨failure, rfl⟩
  · rcases hout with rfl | ⟨failure, rfl⟩
    · exact .inl rfl
    · cases inbound with
      | ok found => exact .inr ⟨_, rfl⟩
      | error first => exact .inr ⟨_, rfl⟩
  · exact .inr ⟨_, rfl⟩

theorem steady_counters (i : Index) : (counters i).Steady client := by
  intro stop
  refine (Ensures.alternate (steady_counter inboundOid i stop)
    (steady_counter outboundOid i stop)).bind fun pair cut hpair => .done ?_
  rw [outcome_counters]
  cases hpair with
  | mk hin hout => exact countersOutcome_of_or hin hout

theorem steady_attachAll (responses : List Response) (interfaces : List Interface) :
    (attachAll responses interfaces).Steady client := by
  induction responses generalizing interfaces with
  | nil => exact .ofOutcome (.ok interfaces)
  | cons response rest ih =>
    refine (Poll.Steady.ofOutcome _).bind fun sap => (Poll.Steady.ofOutcome _).bind fun index => ?_
    split
    · exact (steady_counters sap).bind fun found => ih _
    · exact .ofOutcome _

theorem steady_attach (interfaces : List Interface) : (attach interfaces).Steady client := by
  refine (Poll.Steady.request fun failure hhard => ⟨.within "sap walk failed" failure, ?_⟩).bind
    fun responses => steady_attachAll responses interfaces
  rw [listing, if_neg]
  intro hnotFound
  have hkind : failure.kind = .notFound := by simpa [Failure.isNotFound] using hnotFound
  rw [hkind] at hhard
  cases hhard

/-! ### Attaching counters -/

/-- The place of the first interface with an index. -/
def placeOf? (n : UInt64) (interfaces : List Interface) : Option Nat :=
  interfaces.findIdx? fun i => i .index = some n

/-- The interfaces with the counters of one access point on the first one of an index. -/
def attachOne (interfaces : List Interface) (found : UInt64 × SapCounters) : List Interface :=
  (changeFirst found.1 (fun i => Schema.set i InterfaceField.sap (some found.2)) interfaces).getD
    interfaces

variable {interfaces : List Interface} {found : UInt64 × SapCounters} {n : UInt64} {k : Nat}

theorem exists_placeOf?_iff :
    (∃ k, placeOf? n interfaces = some k) ↔ ∃ i ∈ interfaces, i .index = some n := by
  rw [← Option.isSome_iff_exists, placeOf?, List.findIdx?_isSome, List.any_eq_true]
  simp only [decide_eq_true_eq]

theorem any_index_eq : (interfaces.any fun i => i .index = some n) = (placeOf? n interfaces).isSome := by
  rw [placeOf?, List.findIdx?_isSome]

theorem index_of_placeOf? (h : placeOf? n interfaces = some k) :
    interfaces[k]?.bind (fun i => i .index) = some n := by
  obtain ⟨hlength, hindex, -⟩ := List.findIdx?_eq_some_iff_getElem.mp h
  rw [List.getElem?_eq_getElem hlength]
  exact of_decide_eq_true hindex

theorem changeFirst_eq (n : UInt64) (change : Interface → Interface) (interfaces : List Interface) :
    changeFirst n change interfaces =
      (placeOf? n interfaces).map fun k => interfaces.modify k change := by
  induction interfaces with
  | nil => rfl
  | cons i rest ih =>
    rw [placeOf?] at ih
    rw [changeFirst, placeOf?, List.findIdx?_cons, ih]
    by_cases hindex : i .index = some n
    · simp [hindex]
    · simp [hindex, Function.comp_def]

/-- The interface at a place has one index at most. -/
theorem placeOf?_inj {m : UInt64} (hn : placeOf? n interfaces = some k)
    (hm : placeOf? m interfaces = some k) : n = m :=
  Option.some.inj ((index_of_placeOf? hn).symm.trans (index_of_placeOf? hm))

theorem getElem?_attachOne (interfaces : List Interface) (found : UInt64 × SapCounters) (k : Nat) :
    (attachOne interfaces found)[k]? = if placeOf? found.1 interfaces = some k then
      interfaces[k]?.map fun i => Schema.set i InterfaceField.sap (some found.2)
      else interfaces[k]? := by
  rw [attachOne, changeFirst_eq]
  cases hplace : placeOf? found.1 interfaces with
  | none => simp
  | some place =>
    rw [Option.map_some, Option.getD_some, List.getElem?_modify]
    by_cases heq : place = k
    · simp [heq]
    · simp [heq]

/-- Attaching never changes an index. -/
theorem map_index_attachOne (interfaces : List Interface) (found : UInt64 × SapCounters) :
    (attachOne interfaces found).map (fun i => i .index) = interfaces.map fun i => i .index := by
  apply List.ext_getElem?
  intro k
  rw [List.getElem?_map, List.getElem?_map, getElem?_attachOne]
  split
  · cases interfaces[k]? with
    | none => rfl
    | some i => exact congrArg some (Schema.set_other i _ nofun)
  · rfl

theorem map_index_foldl (all : List (UInt64 × SapCounters)) (interfaces : List Interface) :
    (all.foldl attachOne interfaces).map (fun i => i .index) = interfaces.map fun i => i .index := by
  induction all generalizing interfaces with
  | nil => rfl
  | cons found rest ih => rw [List.foldl_cons, ih, map_index_attachOne]

/-- The place of an index is a matter of indices alone. -/
theorem placeOf?_congr {others : List Interface}
    (h : (others.map fun i => i .index) = interfaces.map fun i => i .index) (n : UInt64) :
    placeOf? n others = placeOf? n interfaces := by
  have hplace : ∀ l : List Interface, placeOf? n l =
      (l.map fun i => i .index).findIdx? fun index => index = some n := by
    intro l
    rw [List.findIdx?_map]
    rfl
  rw [hplace, hplace, h]

/-- The counters that an interface ends with: of the last access point for which it is the first
interface. -/
def lastAt? (interfaces : List Interface) (all : List (UInt64 × SapCounters)) (k : Nat) :
    Option SapCounters :=
  (all.reverse.find? fun found => placeOf? found.1 interfaces = some k).map Prod.snd

theorem lastAt?_concat (interfaces : List Interface) (all : List (UInt64 × SapCounters))
    (found : UInt64 × SapCounters) (k : Nat) : lastAt? interfaces (all ++ [found]) k =
      if placeOf? found.1 interfaces = some k then some found.2 else lastAt? interfaces all k := by
  rw [lastAt?, List.reverse_append, List.reverse_singleton, List.singleton_append, List.find?_cons]
  by_cases hplace : placeOf? found.1 interfaces = some k
  · simp [hplace]
  · simp [hplace, lastAt?]

theorem set_sap_set_sap (i : Interface) (first last : SapCounters) :
    Schema.set (Schema.set i InterfaceField.sap (some first)) InterfaceField.sap (some last) =
      Schema.set i InterfaceField.sap (some last) := by
  funext field
  by_cases hfield : field = .sap
  · subst hfield
    rw [Schema.set_same, Schema.set_same]
  · rw [Schema.set_other _ _ hfield, Schema.set_other _ _ hfield, Schema.set_other _ _ hfield]

/-- Every interface ends with the counters of the last access point for which it is the first interface
of its index, and stays as it is if there is none. -/
theorem getElem?_foldl (all : List (UInt64 × SapCounters)) (interfaces : List Interface) (k : Nat) :
    (all.foldl attachOne interfaces)[k]? = interfaces[k]?.map fun i =>
      match lastAt? interfaces all k with
      | some counters => Schema.set i InterfaceField.sap (some counters)
      | none => i := by
  induction all using List.reverseRecOn with
  | nil => simp [lastAt?]
  | append_singleton all found ih =>
    rw [List.foldl_concat, getElem?_attachOne, placeOf?_congr (map_index_foldl all interfaces), ih, lastAt?_concat]
    by_cases hplace : placeOf? found.1 interfaces = some k
    · simp only [hplace, ↓reduceIte, Option.map_map]
      refine congrArg (Option.map · interfaces[k]?) (funext fun i => ?_)
      rw [Function.comp_apply]
      cases lastAt? interfaces all k with
      | none => rfl
      | some counters => exact set_sap_set_sap i counters found.2
    · simp only [hplace, ↓reduceIte]

/-! ### Rows -/

section Rows
variable (answer : (request : Request) → Outcome request.Reply)

/-- What a row comes to: the index of its interface, which must be there, and the counters. -/
def rowOutcome (interfaces : List Interface) (response : Response) :
    Outcome (UInt64 × SapCounters) := do
  let sap ← Index.ofResponse response.oid
  let index ← sap.interfaceIndex
  if (placeOf? index interfaces).isSome then
    let found ← (counters sap).outcome answer
    return (index, found)
  else Outcome.fails (.noInterface index.toNat)

theorem rowOutcome_attachOne (interfaces : List Interface) (found : UInt64 × SapCounters) :
    rowOutcome answer (attachOne interfaces found) = rowOutcome answer interfaces := by
  funext response
  simp only [rowOutcome, placeOf?_congr (map_index_attachOne interfaces found)]

theorem outcome_attachAll_cons (response : Response) (rest : List Response)
    (interfaces : List Interface) : (attachAll (response :: rest) interfaces).outcome answer =
      rowOutcome answer interfaces response >>= fun found =>
        (attachAll rest (attachOne interfaces found)).outcome answer := by
  rw [attachAll, rowOutcome, Poll.outcome_bind, Poll.outcome_ofOutcome, bind_assoc]
  congr 1
  funext sap
  rw [Poll.outcome_bind, Poll.outcome_ofOutcome, bind_assoc]
  congr 1
  funext index
  rw [any_index_eq]
  split
  · rw [Poll.outcome_bind, bind_assoc]
    rfl
  · rfl

/-- The rows are read one after another, and then what they came to is attached. -/
theorem outcome_attachAll (responses : List Response) (interfaces : List Interface) :
    (attachAll responses interfaces).outcome answer =
      (responses.mapM (rowOutcome answer interfaces)).map fun all =>
        all.foldl attachOne interfaces := by
  induction responses generalizing interfaces with
  | nil => rfl
  | cons response rest ih =>
    rw [outcome_attachAll_cons, List.mapM_cons]
    cases rowOutcome answer interfaces response with
    | error failure => rfl
    | ok found =>
      change (attachAll rest (attachOne interfaces found)).outcome answer = _
      rw [ih, rowOutcome_attachOne]
      cases rest.mapM (rowOutcome answer interfaces) <;> rfl

/-- A row that gives the interfaces of an index the counters of an access point: it names the access
point, whose numbers make the index, and the device counts for it or finds nothing. -/
def Contributes (oid : String) (n : UInt64) (found : SapCounters) : Prop :=
  ∃ i : Index, i.IsAt oid ∧ i.interfaceNumber = n.toNat ∧
    ∀ field, ∃ below : Oid, below.text = (column field).text ++ "." ++ i.suffix ∧
      Counts (answer (.get below)) (found field)

/-- The row is for an access point of the interfaces of an index. -/
def BelongsTo (oid : String) (n : UInt64) : Prop :=
  ∃ i : Index, i.IsAt oid ∧ i.interfaceNumber = n.toNat

variable {answer} {interfaces : List Interface} {response : Response} {n : UInt64} {found : SapCounters}

theorem contributes_iff {oid : String} : Contributes answer oid n found ↔
    ∃ (i : Index) (h : i.IsAt oid), i.interfaceNumber = n.toNat ∧
      ∀ field, Counts (i.reply answer h.1 field) (found field) := by
  constructor
  · rintro ⟨i, hi, hnumber, hcounts⟩
    refine ⟨i, hi, hnumber, fun field => ?_⟩
    obtain ⟨below, hbelow, hfield⟩ := hcounts field
    obtain rfl : below = i.below hi.1 (column field) :=
      Oid.text_injective (hbelow.trans (Index.text_below hi.1 (column field)).symm)
    exact hfield
  · rintro ⟨i, hi, hnumber, hcounts⟩
    exact ⟨i, hi, hnumber, fun field => ⟨_, Index.text_below hi.1 (column field), hcounts field⟩⟩

theorem Contributes.belongsTo {oid : String} (h : Contributes answer oid n found) :
    BelongsTo oid n := by
  obtain ⟨i, hi, hnumber, -⟩ := h
  exact ⟨i, hi, hnumber⟩

/-- A row comes to what it contributes, if there is an interface for it. -/
theorem rowOutcome_eq_ok_iff : rowOutcome answer interfaces response = .ok (n, found) ↔
    Contributes answer response.oid n found ∧ ∃ k, placeOf? n interfaces = some k := by
  rw [contributes_iff, ← Option.isSome_iff_exists]
  constructor
  · intro h
    obtain ⟨i, hi, h⟩ := bind_eq_ok h
    obtain ⟨index, hindex, h⟩ := bind_eq_ok h
    split at h
    · next hplace =>
      obtain ⟨counters, hcounters, h⟩ := bind_eq_ok h
      obtain ⟨rfl, rfl⟩ := Prod.mk.inj (Except.ok.inj h)
      have hat := Index.ofResponse_eq_ok_iff.mp hi
      refine ⟨⟨i, hat, (Index.interfaceIndex_eq_ok_iff hat.1).mp hindex, ?_⟩, hplace⟩
      exact (outcome_counters_eq_ok_iff answer hat.1).mp hcounters
    · cases h
  · rintro ⟨⟨i, hi, hnumber, hcounts⟩, hplace⟩
    rw [rowOutcome, Index.ofResponse_eq_ok_iff.mpr hi]
    change (i.interfaceIndex >>= _) = _
    rw [(Index.interfaceIndex_eq_ok_iff hi.1).mpr hnumber]
    change (if (placeOf? n interfaces).isSome = true then _ else _) = _
    rw [if_pos hplace, (outcome_counters_eq_ok_iff answer hi.1).mpr hcounts]
    rfl

/-! ### All rows -/

/-- The rows that the walk of the table comes to; where nothing is found there are none. -/
def Listed (answer : (request : Request) → Outcome request.Reply) (responses : List Response) : Prop :=
  answer (.walk tableOid) = .ok responses ∨ responses = [] ∧
    ∃ failure : Failure, answer (.walk tableOid) = .error failure ∧ failure.kind = .notFound

theorem listing_eq_ok_iff {responses : List Response} :
    listing (answer (.walk tableOid)) = .ok responses ↔ Listed answer responses := by
  rw [Listed]
  cases answer (.walk tableOid) with
  | ok found => simp [listing]
  | error failure =>
    by_cases hkind : failure.kind = .notFound
    · simp [listing, Failure.isNotFound, hkind, eq_comm]
    · simp [listing, Failure.isNotFound, hkind]

theorem Listed.unique {responses others : List Response} (h : Listed answer responses)
    (h' : Listed answer others) : responses = others :=
  Except.ok.inj ((listing_eq_ok_iff.mpr h).symm.trans (listing_eq_ok_iff.mpr h'))

theorem listing_eq_error {failure : Failure} (h : failure.kind ≠ .notFound) :
    listing (.error failure) = .error (.within "sap walk failed" failure) := by
  simp [listing, Failure.isNotFound, h]

theorem outcome_attach (answer : (request : Request) → Outcome request.Reply)
    (interfaces : List Interface) : (attach interfaces).outcome answer =
      listing (answer (.walk tableOid)) >>= fun responses =>
        (responses.mapM (rowOutcome answer interfaces)).map fun all =>
          all.foldl attachOne interfaces := by
  rw [attach, Poll.outcome_bind, Poll.outcome_mapOutcome, Poll.outcome_request]
  simp only [outcome_attachAll]

theorem outcome_attach_of_listed {responses : List Response} (h : Listed answer responses) :
    (attach interfaces).outcome answer =
      (responses.mapM (rowOutcome answer interfaces)).map fun all =>
        all.foldl attachOne interfaces := by
  rw [outcome_attach, listing_eq_ok_iff.mpr h]
  rfl

theorem outcome_attach_of_failing {failure : Failure}
    (h : answer (.walk tableOid) = .error failure) (hkind : failure.kind ≠ .notFound) :
    (attach interfaces).outcome answer = .error (.within "sap walk failed" failure) := by
  rw [outcome_attach, h, listing_eq_error hkind]
  rfl

/-- The interfaces after all rows: the first interface of an index has the counters of the last row for
that index, and everything else is as it was. -/
structure Attached (answer : (request : Request) → Outcome request.Reply) (responses : List Response)
    (interfaces attached : List Interface) : Prop where
  length_eq : attached.length = interfaces.length
  others_eq : ∀ (k : Nat) (i i' : Interface), interfaces[k]? = some i → attached[k]? = some i' →
    ∀ field, field ≠ .sap → i' field = i field
  latest : ∀ (n : UInt64) (k : Nat) (before after : List Response) (response : Response)
    (found : SapCounters), placeOf? n interfaces = some k → responses = before ++ response :: after →
    Contributes answer response.oid n found → (∀ later ∈ after, ¬BelongsTo later.oid n) →
    ∃ i', attached[k]? = some i' ∧ i' .sap = some found
  kept : ∀ (k : Nat) (i : Interface), interfaces[k]? = some i →
    (∀ n, placeOf? n interfaces = some k → ∀ response ∈ responses, ¬BelongsTo response.oid n) →
    attached[k]? = some i

section Found
variable {responses : List Response} {all : List (UInt64 × SapCounters)}
  (hall : List.Forall₂ (fun response found => rowOutcome answer interfaces response = .ok found)
    responses all)
include hall

/-- An interface that no row is for stays as it is. -/
theorem lastAt?_eq_none (h : ∀ n, placeOf? n interfaces = some k → ∀ response ∈ responses,
    ¬BelongsTo response.oid n) : lastAt? interfaces all k = none := by
  rw [lastAt?, Option.map_eq_none_iff, List.find?_eq_none]
  intro found hfound hplace
  obtain ⟨j, hj, rfl⟩ := List.getElem_of_mem (List.mem_reverse.mp hfound)
  have hj' : j < responses.length := hall.length_eq ▸ hj
  have hrow : rowOutcome answer interfaces responses[j] = .ok all[j] := hall.get hj' hj
  exact h _ (of_decide_eq_true hplace) responses[j] (List.getElem_mem hj')
    (rowOutcome_eq_ok_iff.mp hrow).1.belongsTo

/-- The last row for the first interface of an index gives it its counters. -/
theorem lastAt?_eq_some {before after : List Response} (hplace : placeOf? n interfaces = some k)
    (hsplit : responses = before ++ response :: after)
    (hcontributes : Contributes answer response.oid n found)
    (hlast : ∀ later ∈ after, ¬BelongsTo later.oid n) : lastAt? interfaces all k = some found := by
  subst hsplit
  have hrest := List.forall₂_drop before.length hall
  rw [List.drop_left] at hrest
  obtain ⟨own, later, hown, hlater, hdrop⟩ := List.forall₂_cons_left_iff.mp hrest
  have hrow := rowOutcome_eq_ok_iff.mpr ⟨hcontributes, k, hplace⟩
  obtain rfl : own = (n, found) := Except.ok.inj (hown.symm.trans hrow)
  have hnone : lastAt? interfaces later k = none := by
    apply lastAt?_eq_none hlater
    intro m hm response hresponse
    rw [← placeOf?_inj hplace hm]
    exact hlast response hresponse
  rw [lastAt?, Option.map_eq_none_iff] at hnone
  rw [lastAt?, ← List.take_append_drop before.length all, hdrop, List.reverse_append,
    List.reverse_cons, List.append_assoc, List.find?_append, hnone, Option.none_or,
    List.singleton_append, List.find?_cons]
  simp [hplace]

theorem attached_foldl : Attached answer responses interfaces (all.foldl attachOne interfaces) where
  length_eq := by simpa using congrArg List.length (map_index_foldl all interfaces)
  others_eq := by
    intro k i i' hi hi' field hfield
    rw [getElem?_foldl, hi, Option.map_some] at hi'
    obtain rfl := Option.some.inj hi'
    cases lastAt? interfaces all k with
    | none => rfl
    | some counters => exact Schema.set_other i _ hfield
  latest := by
    intro n k before after response found hplace hsplit hcontributes hlast
    rw [getElem?_foldl, lastAt?_eq_some hall hplace hsplit hcontributes hlast]
    have hindex := index_of_placeOf? hplace
    cases hi : interfaces[k]? with
    | none => simp [hi] at hindex
    | some i => exact ⟨_, rfl, Schema.set_same i _ _⟩
  kept := by
    intro k i hi hnone
    rw [getElem?_foldl, hi, lastAt?_eq_none hall hnone]
    rfl

end Found

/-- Attaching access points is all or nothing. It succeeds exactly if every row names an access point
in decimal digits, its interface index fits and is that of an interface, and the device counts for it
or finds nothing; then the first interface of an index has the counters of the last row for it, and all
else is as it was. The outcome is that of the reads made one after another, whatever time they take;
every run ends, and where reads are cut off, attaching fails. The identifiers of counters are well-formed
in every case. -/
theorem attach_is_all_or_nothing (interfaces : List Interface) (client : Client) :
    let outcome := (attach interfaces).outcome client.answer
    ((∀ permits meter, (attach interfaces).unhurried client permits meter = outcome) ∧
      (∀ limits meter, ∃ enough, ∀ rounds, enough ≤ rounds →
        HasEnded client limits (attach interfaces).run meter rounds) ∧
      ∀ limits rounds meter, (runWithin client limits rounds (attach interfaces).run meter).1 = outcome ∨
        ∃ failure, (runWithin client limits rounds (attach interfaces).run meter).1 = .error failure) ∧
    (∀ oid i, Index.ofResponse oid = .ok i → ∀ column : Oid, ∃ below,
      column.child i.suffix = .ok below ∧ below.text = column.text ++ "." ++ i.suffix) ∧
    (∀ failure : Failure, client.answer (.walk tableOid) = .error failure → failure.kind ≠ .notFound →
      ∃ first : Failure, outcome = .error first ∧ first.kind = failure.kind) ∧
    ∀ responses, Listed client.answer responses →
      ((∃ attached, outcome = .ok attached) ↔ ∀ response ∈ responses, ∃ n found,
        Contributes client.answer response.oid n found ∧ ∃ i ∈ interfaces, i .index = some n) ∧
      ∀ attached, outcome = .ok attached →
        Attached client.answer responses interfaces attached := by
  intro outcome
  have horderly : (attach interfaces).Orderly False := orderly_attach interfaces
  have hsteady : (attach interfaces).Steady client := steady_attach interfaces
  refine ⟨⟨horderly.unhurried_eq_outcome client,
    fun limits meter => exists_ended client limits (attach interfaces).run meter, hsteady.runWithin⟩,
    fun oid i hi column => ?_, fun failure hwalk hkind => ?_, fun responses hlisted => ?_⟩
  · have hat := Index.ofResponse_eq_ok_iff.mp hi
    exact ⟨_, Index.child_suffix hat.1 column, Index.text_below hat.1 column⟩
  · exact ⟨.within "sap walk failed" failure, outcome_attach_of_failing hwalk hkind, rfl⟩
  · have houtcome : outcome = (responses.mapM (rowOutcome client.answer interfaces)).map fun all =>
        all.foldl attachOne interfaces := outcome_attach_of_listed hlisted
    constructor
    · have hrows : (∃ attached, outcome = .ok attached) ↔
          ∃ all, responses.mapM (rowOutcome client.answer interfaces) = .ok all := by
        rw [houtcome]
        cases responses.mapM (rowOutcome client.answer interfaces) <;> simp [Except.map]
      rw [hrows, exists_mapM_eq_ok_iff]
      refine forall₂_congr fun response _ => ?_
      simp only [Prod.exists, rowOutcome_eq_ok_iff, exists_placeOf?_iff]
    · intro attached hattached
      obtain ⟨all, hall, rfl⟩ := map_eq_ok (houtcome.symm.trans hattached)
      exact attached_foldl (mapM_eq_ok_iff.mp hall)

end Rows

/-- A device with two access points of one interface, each with one of its counters. -/
def sharedTrunk : Device :=
  (((Device.empty.withValue (tableOid.text ++ ".12.7.3") (.text "first")).withValue
    (tableOid.text ++ ".5.0.73") (.text "second")).withValue
    (inboundOid.text ++ ".12.7.3") (.unsigned 10)).withValue
    (outboundOid.text ++ ".5.0.73") (.integer 20)

/-- An interface of which the index alone is known. -/
def plainInterface (n : UInt64) : Interface :=
  Schema.set InterfaceField.schema.blank InterfaceField.index (some n)

/-- Of two interfaces with the same index, the first one has the counters of the second access point
and the other one has none. -/
theorem second_access_point_prevails :
    let interfaces := [plainInterface 73, plainInterface 73]
    ∃ attached shown other,
      (attach interfaces).unhurried sharedTrunk.client 4 Meter.zero = .ok attached ∧
      attached[0]? = some shown ∧ attached[1]? = some other ∧
      (shown .sap).map (fun found => (found .inbound, found .outbound)) = some (none, some 20) ∧
      other .sap = none := by
  intro interfaces
  let first : Response := ⟨"." ++ tableOid.text ++ ".12.7.3", .text "first"⟩
  let second : Response := ⟨"." ++ tableOid.text ++ ".5.0.73", .text "second"⟩
  have hlisted : Listed sharedTrunk.client.answer [first, second] := .inl rfl
  have hfirst : Contributes sharedTrunk.client.answer first.oid 73
      (Schema.set SapField.schema.blank SapField.inbound (some 10)) := by
    refine contributes_iff.mpr ⟨⟨"12", "7", "3"⟩,
      ⟨Index.isNumeral_iff_all.mpr rfl, 1, by decide +kernel⟩, by decide +kernel, fun field => ?_⟩
    cases field
    · exact @Counts.number (.unsigned 10) 10 rfl
    · exact .absent rfl
  have hsecond : Contributes sharedTrunk.client.answer second.oid 73
      (Schema.set SapField.schema.blank SapField.outbound (some 20)) := by
    refine contributes_iff.mpr ⟨⟨"5", "0", "73"⟩,
      ⟨Index.isNumeral_iff_all.mpr rfl, 1, by decide +kernel⟩, by decide +kernel, fun field => ?_⟩
    cases field
    · exact .absent rfl
    · exact @Counts.number (.integer 20) 20 rfl
  have hplace : placeOf? 73 interfaces = some 0 := by decide +kernel
  have hthere : ∃ i ∈ interfaces, i .index = some 73 := exists_placeOf?_iff.mp ⟨0, hplace⟩
  have hother : ∀ n, placeOf? n interfaces ≠ some 1 := by
    intro n hn
    have hindex : some 73 = some n := index_of_placeOf? hn
    obtain rfl := Option.some.inj hindex
    exact absurd (hplace.symm.trans hn) (by decide)
  obtain ⟨⟨hruns, -⟩, -, -, hrows⟩ := attach_is_all_or_nothing interfaces sharedTrunk.client
  obtain ⟨hsucceeds, hattached⟩ := hrows [first, second] hlisted
  obtain ⟨attached, houtcome⟩ := hsucceeds.mpr <| List.forall_mem_cons.mpr
    ⟨⟨73, _, hfirst, hthere⟩, List.forall_mem_singleton.mpr ⟨73, _, hsecond, hthere⟩⟩
  have hresult := hattached attached houtcome
  obtain ⟨shown, hshown, hsap⟩ := hresult.latest 73 0 [first] [] second _ hplace rfl hsecond nofun
  have hkept := hresult.kept 1 (plainInterface 73) rfl fun n hn => absurd hn (hother n)
  refine ⟨attached, shown, plainInterface 73, (hruns 4 Meter.zero).trans houtcome, hshown, hkept, ?_, rfl⟩
  rw [hsap]
  rfl

end Sap
end DevicePoll
