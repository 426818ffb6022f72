import DevicePoll.Device
import DevicePoll.Proofs.Text.Identifier

/-! Reads of a device in memory. Whether an entry or a fault counts for a read is a matter of whole parts
between dots: the parts of the one text are the first parts of the other one. A walk gives all entries at or
below its identifier in the order in which they were added, and a get gives the first entry at it. -/
namespace DevicePoll

namespace Text

theorem isUnder_iff {text root : List Char} :
    isUnder text root = true ↔ text = root ∨ ∃ rest, text = root ++ '.' :: rest := by
  unfold isUnder
  cases hrest : afterStart? root text with
  | none =>
    have hnone := afterStart?_eq_none_iff.mp hrest
    have hself : text ≠ root := by simpa using hnone []
    simp [hself, hnone]
  | some rest =>
    obtain rfl := afterStart?_eq_some_iff.mp hrest
    cases rest with
    | nil => simp
    | cons c rest => simp

/-- A text lies at another one or below it exactly if its first parts are those of the other one. -/
theorem isUnder_iff_prefix {text root : List Char} :
    isUnder text root = true ↔ splitDots root <+: splitDots text := by
  rw [isUnder_iff]
  constructor
  · rintro (rfl | ⟨rest, rfl⟩)
    · exact List.prefix_rfl
    · rw [splitDots_append_dot]
      exact List.prefix_append _ _
  · rintro ⟨more, hmore⟩
    have htext : text = joinDots (splitDots root ++ more) := by rw [hmore, joinDots_splitDots]
    cases more with
    | nil => exact .inl (by simpa using htext)
    | cons part more =>
      refine .inr ⟨joinDots (part :: more), ?_⟩
      rw [htext, joinDots_append (splitDots_ne_nil root) (List.cons_ne_nil part more),
        joinDots_splitDots]

end Text

namespace Oid

theorem isUnder_core_iff (oid : Oid) {text : List Char} :
    Text.isUnder text oid.core = true ↔ oid.parts <+: Text.splitDots text := by
  rw [Text.isUnder_iff_prefix, splitDots_core]

theorem core_isUnder_iff (oid : Oid) {root : List Char} :
    Text.isUnder oid.core root = true ↔ Text.splitDots root <+: oid.parts := by
  rw [Text.isUnder_iff_prefix, splitDots_core]

theorem isSome_suffixOf_iff (oid : Oid) {s : String} :
    (oid.suffixOf s).isSome = true ↔ ∃ rest, dropDots s.toList = oid.core ++ '.' :: rest := by
  simp [Option.isSome_iff_exists, suffixOf_eq_some_iff_dropDots]

/-- A text without a dot in front lies at an identifier or below it if it is the identifier, or if it has
further parts once it is written with a dot. -/
theorem isUnder_iff_suffixOf (oid : Oid) {x : String} (hx : x.toList.head? ≠ some '.') :
    Text.isUnder x.toList oid.core = true ↔
      x = oid.text ∨ (oid.suffixOf ("." ++ x)).isSome = true := by
  have hdrop : dropDots ("." ++ x).toList = x.toList := by
    rw [String.toList_append]
    cases hlist : x.toList with
    | nil => rfl
    | cons c rest =>
      have hc : c ≠ '.' := by simpa [hlist] using hx
      simp [dropDots, hc]
  have htext : x.toList = oid.core ↔ x = oid.text := by
    rw [← String.toList_inj, text, String.toList_ofList]
  rw [Text.isUnder_iff, isSome_suffixOf_iff, hdrop, htext]

end Oid

namespace Device

/-! ### What is added to a device -/

/-- Something that is added to a device. -/
inductive Addition where
  | value (oid : String) (scalar : Scalar)
  | column (root : String) (rows : List (UInt64 × Scalar))
  | fault (root : String) (kind : Failure.Kind)
  | delay (milliseconds : Nat)

def add (device : Device) : Addition → Device
  | .value oid scalar => device.withValue oid scalar
  | .column root rows => device.withColumn root rows
  | .fault root kind => device.withFault root kind
  | .delay milliseconds => { device with delay := milliseconds }

/-- The device with some additions, one after another. -/
def ofAdditions (additions : List Addition) : Device := additions.foldl add empty

/-- The entries that are added: one for a value, and one for each row of a column. -/
def Addition.entries : Addition → List (List Char × Scalar)
  | .value oid scalar => [(normalize oid, scalar)]
  | .column root rows =>
    rows.map fun row => (normalize root ++ '.' :: Decimal.digits row.1.toNat, row.2)
  | .fault _ _ => []
  | .delay _ => []

def Addition.faults : Addition → List Fault
  | .fault root kind => [⟨normalize root, kind⟩]
  | _ => []

theorem entries_add (device : Device) (addition : Addition) :
    (device.add addition).entries = device.entries ++ addition.entries := by
  cases addition <;> simp [add, withValue, withColumn, withFault, Addition.entries]

theorem faults_add (device : Device) (addition : Addition) :
    (device.add addition).faults = device.faults ++ addition.faults := by
  cases addition <;> simp [add, withValue, withColumn, withFault, Addition.faults]

/-- Entries and faults are kept in the order in which they were added. -/
theorem foldl_add_lists (additions : List Addition) (device : Device) :
    (additions.foldl add device).entries = device.entries ++ additions.flatMap Addition.entries ∧
      (additions.foldl add device).faults = device.faults ++ additions.flatMap Addition.faults := by
  induction additions generalizing device with
  | nil => simp
  | cons addition additions ih =>
    obtain ⟨hentries, hfaults⟩ := ih (device.add addition)
    simp [hentries, hfaults, entries_add, faults_add]

/-! ### Faults -/

variable {device : Device} {oid : Oid}

/-- The first fault with parts that the identifier starts with is the one that a read fails with. -/
theorem fault?_eq_some_iff {failure : Failure} : device.fault? oid = some failure ↔
    ∃ before fault after, device.faults = before ++ fault :: after ∧
      Text.splitDots fault.root <+: oid.parts ∧
      (∀ f ∈ before, ¬Text.splitDots f.root <+: oid.parts) ∧
      failure = .stated (Fault.reported fault.kind) ("injected failure for " ++ oid.absolute) := by
  simp only [fault?, Option.map_eq_some_iff, List.find?_eq_some_iff_append, Bool.not_eq_true',
    ← Bool.not_eq_true, Oid.core_isUnder_iff]
  constructor
  · rintro ⟨fault, ⟨happlies, before, after, hsplit, hbefore⟩, rfl⟩
    exact ⟨before, fault, after, hsplit, happlies, hbefore, rfl⟩
  · rintro ⟨before, fault, after, hsplit, happlies, hbefore, rfl⟩
    exact ⟨fault, ⟨happlies, before, after, hsplit, hbefore⟩, rfl⟩

theorem fault?_eq_none (h : ∀ fault ∈ device.faults, ¬Text.splitDots fault.root <+: oid.parts) :
    device.fault? oid = none := by
  simpa [fault?, Oid.core_isUnder_iff] using h

theorem read_of_fault {failure : Failure} (h : device.fault? oid = some failure) :
    device.walk oid = .error failure ∧ device.get oid = .error failure := by
  simp [walk, get, h]

/-! ### Entries -/

/-- The responses for the entries whose first parts are those of the identifier. -/
theorem below_eq_filter (device : Device) (oid : Oid) :
    device.below oid = (device.entries.filter fun e => oid.parts <+: Text.splitDots e.1).map
      fun e => ⟨String.ofList ('.' :: e.1), e.2⟩ := by
  have htest : ∀ e : List Char × Scalar,
      Text.isUnder e.1 oid.core = decide (oid.parts <+: Text.splitDots e.1) := by
    intro e
    rw [Bool.eq_iff_iff, decide_eq_true_iff, oid.isUnder_core_iff]
  simp only [below, htest]

theorem below_eq_nil_iff : device.below oid = [] ↔
    ∀ e ∈ device.entries, ¬oid.parts <+: Text.splitDots e.1 := by
  simp [below_eq_filter]

section Unfailing
variable (h : device.fault? oid = none)
include h

theorem walk_eq_ok_iff {responses : List Response} :
    device.walk oid = .ok responses ↔ responses ≠ [] ∧ responses = device.below oid := by
  rw [walk, h]
  cases device.below oid with
  | nil => simp [Outcome.fails]
  | cons first rest =>
    simp only [Except.ok.injEq]
    constructor
    · rintro rfl
      exact ⟨List.cons_ne_nil first rest, rfl⟩
    · rintro ⟨-, rfl⟩
      rfl

theorem walk_notFound_iff : (∃ failure, device.walk oid = .error failure ∧ failure.kind = .notFound) ↔
    device.below oid = [] := by
  rw [walk, h]
  cases device.below oid with
  | nil => exact iff_of_true ⟨_, rfl, rfl⟩ rfl
  | cons first rest => simp

/-- A get answers with the first entry whose text is that of the identifier. -/
theorem get_eq_ok_iff {value : Scalar} : device.get oid = .ok value ↔
    ∃ before after, device.entries = before ++ (oid.core, value) :: after ∧
      ∀ e ∈ before, e.1 ≠ oid.core := by
  have hfind : device.get oid = .ok value ↔
      (device.entries.find? fun e => e.1 = oid.core) = some (oid.core, value) := by
    rw [get, h]
    cases hentry : device.entries.find? fun e => e.1 = oid.core with
    | none => simp [Outcome.fails]
    | some e =>
      have hcore : e.1 = oid.core := by simpa using List.find?_some hentry
      simp [Prod.ext_iff, hcore]
  rw [hfind, List.find?_eq_some_iff_append]
  simp

theorem get_notFound_iff : (∃ failure, device.get oid = .error failure ∧ failure.kind = .notFound) ↔
    ∀ e ∈ device.entries, e.1 ≠ oid.core := by
  rw [get, h]
  cases hentry : device.entries.find? fun e => e.1 = oid.core with
  | none => exact iff_of_true ⟨_, rfl, rfl⟩ (by simpa using hentry)
  | some e =>
    have hcore : e.1 = oid.core := by simpa using List.find?_some hentry
    simp only [reduceCtorEq, false_and, exists_false, false_iff]
    exact fun hnone => hnone e (List.mem_of_find?_eq_some hentry) hcore

/-- The walk of an identifier has the entry that a get of it answers with, before all others at it. -/
theorem walk_of_get {value : Scalar} (hget : device.get oid = .ok value) : ∃ before after,
    device.walk oid = .ok (before ++ ⟨oid.absolute, value⟩ :: after) ∧
      ∀ r ∈ before, r.oid ≠ oid.absolute := by
  obtain ⟨before, after, hentries, hbefore⟩ := (get_eq_ok_iff h).mp hget
  have habsolute (cs : List Char) : String.ofList ('.' :: cs) = oid.absolute ↔ cs = oid.core := by
    simp [← String.toList_inj, Oid.absolute, Oid.text]
  have hat : oid.parts <+: Text.splitDots oid.core :=
    oid.isUnder_core_iff.mp (Text.isUnder_iff.mpr (.inl rfl))
  have hbelow := below_eq_filter device oid
  rw [hentries, List.filter_append, List.filter_cons, if_pos (decide_eq_true hat), List.map_append,
    List.map_cons, (habsolute oid.core).mpr rfl] at hbelow
  refine ⟨_, _, (walk_eq_ok_iff h).mpr ⟨by simp, hbelow.symm⟩, fun r hr => ?_⟩
  obtain ⟨e, he, rfl⟩ := List.mem_map.mp hr
  exact fun hoid => hbefore e (List.mem_of_mem_filter he) ((habsolute e.1).mp hoid)

end Unfailing

/-- Reads of a device in memory are by whole parts. A text lies at another one or below it exactly if its
first parts are those of the other one. A device has the entries and the faults that were added to it, in
their order. A read fails with the first fault whose parts its identifier starts with. Where there is none,
a walk answers with exactly the entries whose first parts are those of the identifier, in their order, and
with a failure of kind `notFound` if there are none; and a get answers with the first entry at the
identifier, which the walk has as well. An entry without a dot in front lies at an identifier or below it
if it is the identifier or has further parts below it. -/
theorem reads_are_by_whole_parts (device : Device) (oid : Oid) :
    (∀ x y : String, Text.isUnder x.toList y.toList = true ↔ Text.parts y <+: Text.parts x) ∧
    (∀ additions : List Addition,
      (ofAdditions additions).entries = additions.flatMap Addition.entries ∧
      (ofAdditions additions).faults = additions.flatMap Addition.faults) ∧
    (∀ failure, device.fault? oid = some failure ↔
      ∃ before fault after, device.faults = before ++ fault :: after ∧
        Text.splitDots fault.root <+: oid.parts ∧
        (∀ f ∈ before, ¬Text.splitDots f.root <+: oid.parts) ∧
        failure = .stated (Fault.reported fault.kind) ("injected failure for " ++ oid.absolute)) ∧
    (∀ failure, device.fault? oid = some failure →
      device.walk oid = .error failure ∧ device.get oid = .error failure) ∧
    ((∀ fault ∈ device.faults, ¬Text.splitDots fault.root <+: oid.parts) →
      (∀ responses, device.walk oid = .ok responses ↔ responses ≠ [] ∧ responses =
        (device.entries.filter fun e => oid.parts <+: Text.splitDots e.1).map
          fun e => ⟨String.ofList ('.' :: e.1), e.2⟩) ∧
      ((∃ failure, device.walk oid = .error failure ∧ failure.kind = .notFound) ↔
        ∀ e ∈ device.entries, ¬oid.parts <+: Text.splitDots e.1) ∧
      (∀ value, device.get oid = .ok value ↔
        ∃ before after, device.entries = before ++ (oid.core, value) :: after ∧
          ∀ e ∈ before, e.1 ≠ oid.core) ∧
      ((∃ failure, device.get oid = .error failure ∧ failure.kind = .notFound) ↔
        ∀ e ∈ device.entries, e.1 ≠ oid.core) ∧
      ∀ value, device.get oid = .ok value → ∃ before after,
        device.walk oid = .ok (before ++ ⟨oid.absolute, value⟩ :: after) ∧
          ∀ r ∈ before, r.oid ≠ oid.absolute) ∧
    ∀ x : String, x.toList.head? ≠ some '.' → (Text.isUnder x.toList oid.core = true ↔
      x = oid.text ∨ (oid.suffixOf ("." ++ x)).isSome = true) := by
  refine ⟨fun x y => ?_, fun additions => foldl_add_lists additions empty,
    fun failure => fault?_eq_some_iff, fun failure => read_of_fault, fun hnone => ?_,
    fun x => Oid.isUnder_iff_suffixOf oid⟩
  · rw [Text.isUnder_iff_prefix, Text.parts, Text.parts]
    exact (List.prefix_map_iff_of_injective fun a b => String.ofList_inj.mp).symm
  · have hfault := fault?_eq_none hnone
    refine ⟨fun responses => ?_, ?_, fun value => get_eq_ok_iff hfault, get_notFound_iff hfault,
      fun value => walk_of_get hfault⟩
    · rw [walk_eq_ok_iff hfault, below_eq_filter]
    · rw [walk_notFound_iff hfault, below_eq_nil_iff]

/-- A column with its rows out of order, values at it and beside it, and a fault for one more row. -/
def column : Device :=
  ofAdditions [.value "1.3.60" (.text "beside"), .column ".1.3.6" [(7, .text "b"), (2, .text "a")],
    .fault "1.3.6.9" .timeout, .value "..1.3.6 " (.text "at"), .value "1.3.6" (.text "again")]

theorem column_is_read_in_order : ∃ oid : Oid, oid.text = "1.3.6" ∧
    (∀ fault ∈ column.faults, ¬Text.splitDots fault.root <+: oid.parts) ∧
    (∃ responses, column.walk oid = .ok responses ∧
      responses.map Response.oid = [".1.3.6.7", ".1.3.6.2", ".1.3.6", ".1.3.6"]) ∧
    column.get oid = .ok (.text "at") ∧
    (∃ before after, column.walk oid = .ok (before ++ ⟨oid.absolute, .text "at"⟩ :: after)) ∧
    Text.isUnder "1.3.60".toList oid.core = false ∧ oid.suffixOf ".1.3.60" = none ∧
    ∃ (below : Oid) (failure : Failure), below.text = "1.3.6.9.1" ∧
      column.walk below = .error failure ∧ failure.kind = .timeout := by
  let oid : Oid := ⟨[['1'], ['3'], ['6']], by simp, by decide⟩
  let below : Oid := ⟨[['1'], ['3'], ['6'], ['9'], ['1']], by simp, by decide⟩
  obtain ⟨-, -, -, -, hreads, hsuffix⟩ := reads_are_by_whole_parts column oid
  obtain ⟨-, -, hfault, hfails, -⟩ := reads_are_by_whole_parts column below
  have hnone : ∀ fault ∈ column.faults, ¬Text.splitDots fault.root <+: oid.parts := by
    decide +kernel
  obtain ⟨hwalk, -, hget, -, hboth⟩ := hreads hnone
  obtain ⟨responses, hresponses, hoids⟩ : ∃ responses : List Response, responses =
      (column.entries.filter fun e => oid.parts <+: Text.splitDots e.1).map
        (fun e => ⟨String.ofList ('.' :: e.1), e.2⟩) ∧
      responses.map Response.oid = [".1.3.6.7", ".1.3.6.2", ".1.3.6", ".1.3.6"] :=
    ⟨_, rfl, by decide +kernel⟩
  have hsome : responses ≠ [] := by
    rintro rfl
    cases hoids
  have hfirst : column.get oid = .ok (.text "at") :=
    (hget _).mpr ⟨column.entries.take 3, column.entries.drop 4, rfl, by decide +kernel⟩
  obtain ⟨before, after, hat, -⟩ := hboth _ hfirst
  have htimeout := (hfault _).mpr
    ⟨[], ⟨"1.3.6.9".toList, .timeout⟩, [], rfl, by decide +kernel, nofun, rfl⟩
  have hbeside : Text.isUnder "1.3.60".toList oid.core = false := by decide +kernel
  have hsibling : oid.suffixOf ".1.3.60" = none := by
    refine Option.not_isSome_iff_eq_none.mp fun hsome => ?_
    have hunder := (hsuffix "1.3.60" (by decide +kernel)).mpr (.inr hsome)
    exact absurd (hunder.symm.trans hbeside) (by decide)
  exact ⟨oid, by decide +kernel, hnone, ⟨responses, (hwalk _).mpr ⟨hsome, hresponses⟩, hoids⟩, hfirst,
    ⟨before, after, hat⟩, hbeside, hsibling, below, _, by decide +kernel, (hfails _ htimeout).1,
    Failure.kind_stated _ _⟩

end Device
end DevicePoll
