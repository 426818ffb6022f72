import DevicePoll.Proofs.Query.Cells
import DevicePoll.Proofs.Reading.Similar

/-! The order in which responses arrive. A leaf keeps one value for each row, so that it comes to the same
whatever the order of responses for different rows, and of several responses for one row the last one
counts. What a class makes of the values of a leaf or of the rows of a tree comes in the order of the
rows, and not in the order of the responses. -/
namespace DevicePoll

open Reading

/-- The row that a response counts for. An empty text counts for none. -/
def Response.index? (response : Response) : Option UInt64 :=
  if response.value.isEmptyText then none else (rowIndex response.oid).toOption

/-- No two responses count for one row. -/
def DistinctRows (responses : List Response) : Prop := (responses.filterMap Response.index?).Nodup

instance (responses : List Response) : Decidable (DistinctRows responses) :=
  inferInstanceAs (Decidable (List.Nodup _))

/-- Replies to a walk that are the same, or that hold the same responses in different orders. -/
inductive Rearranged : Outcome (List Response) → Outcome (List Response) → Prop
  | same (reply : Outcome (List Response)) : Rearranged reply reply
  | moved {responses moved : List Response} : moved.Perm responses → DistinctRows responses →
      Rearranged (.ok responses) (.ok moved)

namespace Leaf

/-- What a pipeline keeps of a response: nothing of an empty text, and else a value for a row. -/
def entry (operators : List Operator) (response : Response) : Outcome (Option (UInt64 × Scalar)) :=
  if response.value.isEmptyText then .ok none
  else
    match Operator.applyAll operators response.value with
    | .error failure =>
      .error (.within ("response couldn't be normalized (oid: " ++ response.oid ++ ")") failure)
    | .ok value => (rowIndex response.oid).map fun index => some (index, value)

/-- The value that is kept of a response for its row. -/
def kept? (operators : List Operator) (response : Response) : Option (UInt64 × Scalar) :=
  response.index?.bind fun index =>
    (Operator.applyAll operators response.value).toOption.map (index, ·)

variable {operators : List Operator} {response : Response} {responses moved : List Response}
  {values : SortedMap UInt64 Scalar} {index : UInt64} {value : Scalar}

theorem kept?_eq_some_iff : kept? operators response = some (index, value) ↔
    response.index? = some index ∧ Operator.applyAll operators response.value = .ok value := by
  unfold kept?
  cases response.index? with
  | none => simp
  | some found =>
    cases Operator.applyAll operators response.value <;> simp [Except.toOption]

theorem entry_eq_kept? (h : (entry operators response).kind? = none) :
    entry operators response = .ok (kept? operators response) := by
  unfold entry at h ⊢
  unfold kept? Response.index?
  split
  · rfl
  · next hcounts =>
    rw [if_neg hcounts] at h
    cases happly : Operator.applyAll operators response.value with
    | error failure => simp [happly] at h
    | ok value =>
      cases hindex : rowIndex response.oid with
      | error failure => simp [happly, hindex] at h
      | ok index => rfl

theorem exists_normalized (h : (entry operators response).kind? = none)
    (hindex : response.index? = some index) :
    ∃ value, Operator.applyAll operators response.value = .ok value := by
  unfold entry at h
  unfold Response.index? at hindex
  split at hindex
  · cases hindex
  · next hcounts =>
    rw [if_neg hcounts] at h
    cases happly : Operator.applyAll operators response.value with
    | error failure => simp [happly] at h
    | ok value => exact ⟨value, rfl⟩

/-- A leaf keeps something of one response after another. -/
theorem collect_eq (operators : List Operator) (responses : List Response)
    (values : SortedMap UInt64 Scalar) : collect operators responses values =
      (responses.mapM (entry operators)).map fun found =>
        (found.filterMap id).foldl (fun m e => m.insert e.1 e.2) values := by
  induction responses generalizing values with
  | nil => rfl
  | cons response responses ih =>
    rw [collect, List.mapM_cons, entry]
    split
    · rw [ih]
      cases responses.mapM (entry operators) <;> rfl
    · cases Operator.applyAll operators response.value with
      | error failure => rfl
      | ok value =>
        dsimp only
        cases rowIndex response.oid with
        | error failure => rfl
        | ok index =>
          dsimp only
          rw [ih]
          cases responses.mapM (entry operators) <;> rfl

/-- A leaf has read its responses when none of them fails, and then it has the values kept of them. -/
theorem collect_eq_ok_iff : collect operators responses SortedMap.empty = .ok values ↔
    (∀ response ∈ responses, (entry operators response).kind? = none) ∧
      values = SortedMap.ofList (responses.filterMap (kept? operators)) := by
  rw [collect_eq]
  by_cases h : ∀ response ∈ responses, (entry operators response).kind? = none
  · rw [mapM_eq_ok fun response hresponse => entry_eq_kept? (h response hresponse),
      and_iff_right h, eq_comm (a := values)]
    simp [Except.map, SortedMap.ofList]
  · refine iff_of_false (fun hok => h ?_) fun hboth => h hboth.1
    obtain ⟨found, hfound, -⟩ := map_eq_ok hok
    have hkind := Outcome.kind?_mapM (entry operators) responses
    rw [hfound, Outcome.kind?_ok, eq_comm, List.findSome?_eq_none_iff] at hkind
    exact hkind

theorem nodup_kept (h : DistinctRows responses) :
    ((responses.filterMap (kept? operators)).map Prod.fst).Nodup := by
  have hrows := List.pairwise_filterMap.mp h
  refine List.pairwise_map.mpr (List.pairwise_filterMap.mpr (hrows.imp fun {a b} hne => ?_))
  intro first hfirst second hsecond
  exact hne first.1 (kept?_eq_some_iff.mp hfirst).1 second.1 (kept?_eq_some_iff.mp hsecond).1

/-- The order of responses for different rows does not matter. -/
theorem collect_perm (hperm : moved.Perm responses) (h : DistinctRows responses) :
    collect operators moved SortedMap.empty = .ok values ↔
      collect operators responses SortedMap.empty = .ok values := by
  have hfilter := hperm.filterMap (kept? operators)
  rw [collect_eq_ok_iff, collect_eq_ok_iff, SortedMap.ofList_eq_of_perm hfilter (nodup_kept h)]
  simp only [hperm.mem_iff]

/-- The values that a pipeline makes of responses for different rows, in the order of the rows. The
order of the responses has no part in this. -/
structure Values (operators : List Operator) (responses : List Response)
    (entries : List (UInt64 × Scalar)) : Prop where
  ascending : entries.Pairwise fun a b => a.1 < b.1
  mem_iff : ∀ index value, (index, value) ∈ entries ↔ ∃ response ∈ responses,
    response.index? = some index ∧ Operator.applyAll operators response.value = .ok value

theorem values_of_collect (h : DistinctRows responses)
    (hread : collect operators responses SortedMap.empty = .ok values) :
    Values operators responses values.entries where
  ascending := values.ascending
  mem_iff index value := by
    obtain ⟨-, rfl⟩ := collect_eq_ok_iff.mp hread
    rw [SortedMap.mem_entries_iff, SortedMap.get?_ofList_eq_some_iff (nodup_kept h)]
    simp only [List.mem_filterMap, kept?_eq_some_iff]

/-- The last response for a row is the one that is kept. -/
theorem get?_of_last {first later : List Response}
    (hread : collect operators (first ++ response :: later) SortedMap.empty = .ok values)
    (hindex : response.index? = some index) (hlast : ∀ r ∈ later, r.index? ≠ some index) :
    ∃ value, Operator.applyAll operators response.value = .ok value ∧
      values.get? index = some value := by
  obtain ⟨hentries, rfl⟩ := collect_eq_ok_iff.mp hread
  obtain ⟨value, hvalue⟩ :=
    exists_normalized (hentries response (List.mem_append_right first List.mem_cons_self)) hindex
  have hkept : kept? operators response = some (index, value) :=
    kept?_eq_some_iff.mpr ⟨hindex, hvalue⟩
  have hnever : index ∉ (later.filterMap (kept? operators)).map Prod.fst := by
    intro hmem
    obtain ⟨e, he, rfl⟩ := List.mem_map.mp hmem
    obtain ⟨r, hr, hkept⟩ := List.mem_filterMap.mp he
    exact hlast r hr (kept?_eq_some_iff.mp hkept).1
  refine ⟨value, hvalue, ?_⟩
  rw [SortedMap.get?_ofList, List.filterMap_append, List.filterMap_cons, hkept]
  exact latest_of_last _ hnever

end Leaf

/-! ### Replies in another order -/

/-- Equal values, or failures of one kind. -/
abbrev Outcome.SameKind {α : Type} (a b : Outcome α) : Prop :=
  Agree (fun failure failure' : Failure => failure.kind = failure'.kind) Eq a b

namespace Outcome.SameKind
variable {α β : Type} {a b : Outcome α}

theorem refl (a : Outcome α) : a.SameKind a := by
  cases a with
  | error failure => exact .error rfl
  | ok value => exact .ok rfl

theorem kind?_eq (h : a.SameKind b) : a.kind? = b.kind? := by
  cases h with
  | error hkind => exact congrArg some hkind
  | ok heq => rfl

theorem symm (h : a.SameKind b) : Outcome.SameKind b a := by
  cases h with
  | error hkind => exact .error hkind.symm
  | ok hvalue => exact .ok hvalue.symm

theorem eq_ok (h : a.SameKind b) {value : α} (hvalue : a = .ok value) : b = .ok value := by
  cases h with
  | error hkind => cases hvalue
  | ok heq => rw [← heq, hvalue]

theorem map (h : a.SameKind b) (f : α → β) : Outcome.SameKind (a.map f) (b.map f) := by
  cases h with
  | error hkind => exact .error hkind
  | ok heq => exact .ok (congrArg f heq)

theorem labelOutcome {a b : Outcome Column} (h : a.SameKind b) (label : String) :
    (labelOutcome label a).SameKind (labelOutcome label b) := by
  cases h with
  | @error failure failure' hkind =>
    have hsame : failure.isNotFound = failure'.isNotFound := by
      rw [Failure.isNotFound, Failure.isNotFound, hkind]
    rw [DevicePoll.labelOutcome, DevicePoll.labelOutcome, hsame]
    split
    · exact .ok rfl
    · exact .error hkind
  | ok heq =>
    rw [heq]
    exact refl _

end Outcome.SameKind

/-- Responses for different rows, in another order, are read alike. -/
theorem Leaf.sameKind_collect {operators : List Operator} {responses moved : List Response}
    (hperm : moved.Perm responses) (h : DistinctRows responses) :
    (collect operators responses SortedMap.empty).SameKind
      (collect operators moved SortedMap.empty) := by
  cases hread : collect operators responses SortedMap.empty with
  | ok values =>
    rw [(collect_perm hperm h).mpr hread]
    exact .refl _
  | error failure =>
    cases hmoved : collect operators moved SortedMap.empty with
    | ok values =>
      rw [(collect_perm hperm h).mp hmoved] at hread
      cases hread
    | error failure' =>
      have hkind := decodes_collect operators responses SortedMap.empty failure hread
      exact .error (hkind.trans (decodes_collect operators moved SortedMap.empty failure' hmoved).symm)

/-- The program comes to the same in kind wherever it is answered alike. -/
def Poll.Withstands {α : Type} (L : Likeness) (p : Poll α) : Prop :=
  p.run.Similar L Outcome.SameKind p.run

namespace Poll.Withstands
variable {L : Likeness} {α β : Type}

theorem mapOutcome {p : Poll α} (h : p.Withstands L) {f : Outcome α → Outcome β}
    (hf : ∀ a b : Outcome α, a.SameKind b → (f a).SameKind (f b)) : (p.mapOutcome f).Withstands L :=
  h.bind fun a b hab => .done (hf a b hab)

theorem all {ps : List (Poll α)} (h : ∀ p ∈ ps, p.Withstands L) : (Poll.all ps).Withstands L := by
  refine Poll.all_induction (fun _ => .pause) (.done (.ok rfl)) (fun held p rest hp hrest => ?_) h
  refine .fork hp hrest fun result result' hresults => .done ?_
  cases hresults with
  | error hkind => exact .error hkind
  | ok hpair => exact .ok (congrArg₂ List.cons hpair.1 hpair.2)

/-- With clients that take the same time, it runs alike. -/
theorem unhurried {p : Poll α} (h : p.Withstands L) {client moved : Client}
    (hclients : L.Between client moved) (permits : Nat) (meter : Meter) :
    (p.unhurried client permits meter).SameKind (p.unhurried moved permits meter) := by
  obtain ⟨enough, hrun⟩ := p.exists_run_eq_unhurried client permits meter
  obtain ⟨enough', hrun'⟩ := p.exists_run_eq_unhurried moved permits meter
  rw [← (hrun _ (Nat.le_max_left enough enough')).2, ← (hrun' _ (Nat.le_max_right enough enough')).2]
  exact (h.runWithin hclients (.unhurried permits) (max enough enough') meter).1

end Poll.Withstands

section Outcome
variable {answer moved : (request : Request) → Outcome request.Reply}

theorem Leaf.outcome_read (leaf : Leaf) : leaf.read.outcome answer =
    match answer (.walk leaf.oid) with
    | .error failure => .error failure
    | .ok responses => collect leaf.operators responses SortedMap.empty := by
  rw [read, Poll.outcome_mapOutcome, Poll.outcome_request]
  cases answer (.walk leaf.oid) <;> rfl

theorem Leaf.withstands_read {leaf : Leaf}
    (h : Rearranged (answer (.walk leaf.oid)) (moved (.walk leaf.oid))) :
    leaf.read.Withstands (.given answer moved) := by
  refine .read fun reply reply' hreply => .done ?_
  cases hreply with
  | cutOff => exact .error rfl
  | answered =>
    generalize answer (.walk leaf.oid) = reply at h
    generalize moved (.walk leaf.oid) = reply' at h
    cases h with
    | same => exact .refl _
    | moved hperm hdistinct => exact sameKind_collect hperm hdistinct

theorem withstands_readGroup {L : Likeness} {columns : List (String × Poll Column)}
    (h : ∀ e ∈ columns, e.2.Withstands L) : (readGroup columns).Withstands L := by
  refine .mapOutcome (.all fun p hp => ?_) fun a b hab => hab.map _
  obtain ⟨e, he, rfl⟩ := List.mem_map.mp hp
  exact (h e he).mapOutcome fun a b hab => hab.labelOutcome e.1

/-- Some replies in another order are not seen in what is read of a tree. -/
theorem QueryTree.withstands_readAll {tree : QueryTree} (h : ∀ path leaf,
      tree.toNode.descend path = some (.leaf leaf) →
        Rearranged (answer (.walk leaf.oid)) (moved (.walk leaf.oid))) :
    tree.readAll.Withstands (.given answer moved) := by
  refine readAll_induction (fun p => p.Withstands (.given answer moved))
    (fun path leaf hleaf => ?leaf) (fun columns => withstands_readGroup) (fun p hp => ?nested)
  case leaf => exact (Leaf.withstands_read (h path leaf hleaf)).mapOutcome fun a b hab => hab.map _
  case nested => exact hp.mapOutcome fun a b hab => hab.map _

namespace Tier
variable {tier : Tier} {path : String} {values : SortedMap UInt64 Scalar}

theorem outcome_column {leaf : Leaf} (hleaf : tier.leafAt path = .ok leaf) :
    (tier.column path).outcome answer = leaf.read.outcome answer >>= fun values =>
      if values.isEmpty then Outcome.fails (.noValue path) else .ok values.values := by
  rw [column, Poll.outcome_bind, Poll.outcome_ofOutcome, hleaf]
  show (leaf.read >>= _).outcome answer = _
  rw [Poll.outcome_bind]
  congr
  funext values
  split <;> rfl

/-- The value of the lowest row of a leaf, converted. -/
theorem outcome_scalar (h : (tier.column path).outcome answer =
      if values.isEmpty then Outcome.fails (.noValue path) else .ok values.values)
    (type : ScalarType) : (tier.scalar path type).outcome answer =
      match values.entries with
      | [] => Outcome.fails (.noValue path)
      | e :: _ => Outcome.within ("'" ++ path ++ "'") (type.convert e.2) := by
  rw [scalar, Poll.outcome_bind, h, SortedMap.isEmpty, SortedMap.values]
  cases values.entries <;> rfl

/-- The values of a leaf in the order of their rows, converted. -/
theorem outcome_reals (h : (tier.column path).outcome answer =
      if values.isEmpty then Outcome.fails (.noValue path) else .ok values.values) :
    (tier.reals path).outcome answer =
      if values.entries = [] then Outcome.fails (.noValue path)
      else values.entries.mapM fun e => Outcome.within ("'" ++ path ++ "'") e.2.toReal := by
  rw [reals, Poll.outcome_bind, h, SortedMap.isEmpty, SortedMap.values]
  cases values.entries with
  | nil => rfl
  | cons e entries => exact List.mapM_map

/-- What fails the read of a leaf fails what a class makes of its values. -/
theorem kind?_of_leaf {leaf : Leaf} {kind : Failure.Kind} (hleaf : tier.leafAt path = .ok leaf)
    (h : (leaf.read.outcome answer).kind? = some kind) :
    ((tier.reals path).outcome answer).kind? = some kind ∧
      ∀ type, ((tier.scalar path type).outcome answer).kind? = some kind := by
  obtain ⟨failure, hfailure, rfl⟩ := Outcome.kind?_eq_some.mp h
  have hcolumn : (tier.column path).outcome answer = .error failure := by
    rw [outcome_column hleaf, hfailure]
    rfl
  constructor
  · rw [reals, Poll.outcome_bind, hcolumn]
    rfl
  · intro type
    rw [scalar, Poll.outcome_bind, hcolumn]
    rfl

/-- A table is made of the rows of its group. -/
theorem table_eq {tree : QueryTree} (htree : tier.groupAt path = .ok tree) (schema : Schema) :
    tier.table path schema = tree.readAll.mapOutcome fun outcome => outcome >>= fun rows =>
      if rows.entries = [] then Outcome.fails (.noRows path)
      else Outcome.within ("'" ++ path ++ "'") (rows.entries.mapM fun e => Row.decode schema e.1 e.2) := by
  rw [← Poll.bind_ofOutcome, table, Tier.rows, htree, bind_assoc]
  change ((tree.readAll >>= _) >>= _) = _
  rw [bind_assoc]
  refine congrArg (tree.readAll >>= ·) (funext fun rows => ?_)
  by_cases hempty : rows.entries = []
  · rw [if_pos hempty, SortedMap.isEmpty, if_pos (List.isEmpty_iff.mpr hempty)]
    rfl
  · rw [if_neg hempty, SortedMap.isEmpty, if_neg (mt List.isEmpty_iff.mp hempty)]
    rfl

end Tier

end Outcome

/-- The order in which responses arrive does not matter. Two unhurried reads of a leaf that are answered
with the same responses, for different rows, in different orders either both fail to decode or both have
the values of the responses, and a class makes of them its values in ascending order of the rows, or the
value of the lowest row. Trees whose leaves are answered so have the same rows, whatever time the reads
take, and fail alike if their reads take the same times in both, or if they are prompt and all their reads
take the same time; their groups come in strictly ascending order, one for each row. If several responses
count for one row, the last one is kept. -/
theorem arrival_order_does_not_matter (client moved : Client) (permits : Nat) (meter : Meter) :
    (∀ (leaf : Leaf) (responses rearranged : List Response),
      client.answer (.walk leaf.oid) = .ok responses →
      moved.answer (.walk leaf.oid) = .ok rearranged → rearranged.Perm responses →
      DistinctRows responses →
      (∀ c, c = client ∨ c = moved →
        Outcome.kind? (leaf.read.unhurried c permits meter) = some .decode ∧
        ∀ (tier : Tier) (path : String), tier.leafAt path = .ok leaf →
          Outcome.kind? ((tier.reals path).unhurried c permits meter) = some .decode ∧
          ∀ type, Outcome.kind? ((tier.scalar path type).unhurried c permits meter) = some .decode) ∨
      ∃ values, Leaf.Values leaf.operators responses values.entries ∧
        ∀ c, c = client ∨ c = moved → leaf.read.unhurried c permits meter = .ok values ∧
          ∀ (tier : Tier) (path : String), tier.leafAt path = .ok leaf →
            ((tier.reals path).unhurried c permits meter =
              if values.entries = [] then Outcome.fails (.noValue path)
              else values.entries.mapM fun e => Outcome.within ("'" ++ path ++ "'") e.2.toReal) ∧
            ∀ type, (tier.scalar path type).unhurried c permits meter =
              match values.entries with
              | [] => Outcome.fails (.noValue path)
              | e :: _ => Outcome.within ("'" ++ path ++ "'") (type.convert e.2)) ∧
    (∀ tree : QueryTree, (∀ path leaf, tree.toNode.descend path = some (.leaf leaf) →
        Rearranged (client.answer (.walk leaf.oid)) (moved.answer (.walk leaf.oid))) →
      (∀ rows, tree.readAll.unhurried client permits meter = .ok rows ↔
        tree.readAll.unhurried moved permits meter = .ok rows) ∧
      (client.latency = moved.latency ∨
          tree.Prompt ∧ (∃ time, client.Takes time) ∧ (∃ time, moved.Takes time) →
        (tree.readAll.unhurried client permits meter).SameKind
          (tree.readAll.unhurried moved permits meter)) ∧
      ∀ c, c = client ∨ c = moved → ∀ rows, tree.readAll.unhurried c permits meter = .ok rows →
        (rows.entries.Pairwise fun a b => a.1 < b.1) ∧
        (∀ index row, (index, row) ∈ rows.entries ↔ rows.get? index = some row) ∧
        ∀ (tier : Tier) (path : String) (schema : Schema), tier.groupAt path = .ok tree →
          (tier.table path schema).unhurried c permits meter =
            if rows.entries = [] then Outcome.fails (.noRows path)
            else Outcome.within ("'" ++ path ++ "'")
              (rows.entries.mapM fun e => Row.decode schema e.1 e.2)) ∧
    ∀ (leaf : Leaf) (first later : List Response) (response : Response) (index : UInt64)
      (values : SortedMap UInt64 Scalar),
      client.answer (.walk leaf.oid) = .ok (first ++ response :: later) →
      leaf.read.unhurried client permits meter = .ok values → response.index? = some index →
      (∀ r ∈ later, r.index? ≠ some index) →
      ∃ value, Operator.applyAll leaf.operators response.value = .ok value ∧
        values.get? index = some value := by
  have hleaf : ∀ (leaf : Leaf) (c : Client),
      leaf.read.unhurried c permits meter = leaf.read.outcome c.answer :=
    fun leaf c => leaf.unhurried_read c permits meter
  have hreals : ∀ (tier : Tier) (path : String) (c : Client),
      (tier.reals path).unhurried c permits meter = (tier.reals path).outcome c.answer :=
    fun tier path c => (tier.orderly_reals path).unhurried_eq_outcome c permits meter
  have hscalar : ∀ (tier : Tier) (path : String) (type : ScalarType) (c : Client),
      (tier.scalar path type).unhurried c permits meter = (tier.scalar path type).outcome c.answer :=
    fun tier path type c => (tier.orderly_scalar path type).unhurried_eq_outcome c permits meter
  refine ⟨?_, ?_, ?_⟩
  · intro leaf responses rearranged hwalk hmoved hperm hdistinct
    have hsame : ∀ c, c = client ∨ c = moved →
        (Leaf.collect leaf.operators responses SortedMap.empty).SameKind
          (leaf.read.outcome c.answer) := by
      rintro c (rfl | rfl)
      · rw [leaf.outcome_read, hwalk]
        exact .refl _
      · rw [leaf.outcome_read, hmoved]
        exact Leaf.sameKind_collect hperm hdistinct
    cases hread : Leaf.collect leaf.operators responses SortedMap.empty with
    | error failure =>
      left
      intro c hc
      have hfails : (leaf.read.outcome c.answer).kind? = some .decode := by
        rw [← (hsame c hc).kind?_eq, hread, Outcome.kind?_error,
          Leaf.decodes_collect leaf.operators responses SortedMap.empty failure hread]
      refine ⟨by rw [hleaf, hfails], fun tier path hat => ?_⟩
      obtain ⟨hlist, hlowest⟩ := Tier.kind?_of_leaf hat hfails
      exact ⟨(hreals tier path c).symm ▸ hlist, fun type => (hscalar tier path type c).symm ▸ hlowest type⟩
    | ok values =>
      right
      refine ⟨values, Leaf.values_of_collect hdistinct hread, fun c hc => ?_⟩
      have hown : leaf.read.outcome c.answer = .ok values := (hsame c hc).eq_ok hread
      refine ⟨by rw [hleaf, hown], fun tier path hat => ?_⟩
      have hcolumn : (tier.column path).outcome c.answer = _ := Tier.outcome_column hat
      rw [hown] at hcolumn
      constructor
      · exact (hreals tier path c).trans (Tier.outcome_reals hcolumn)
      · intro type
        exact (hscalar tier path type c).trans (Tier.outcome_scalar hcolumn type)
  · intro tree hreplies
    have hwithstands : tree.readAll.Withstands (.given client.answer moved.answer) :=
      QueryTree.withstands_readAll hreplies
    have hsame : (tree.readAll.outcome client.answer).SameKind (tree.readAll.outcome moved.answer) :=
      hwithstands.eval .answered
    refine ⟨fun rows => ?_, ?_, fun c _ rows hrows => ?_⟩
    · rw [QueryTree.unhurried_eq_ok_iff, QueryTree.unhurried_eq_ok_iff]
      exact ⟨hsame.eq_ok, (Outcome.SameKind.symm hsame).eq_ok⟩
    · rintro (hlatency | ⟨hprompt, ⟨_, htime⟩, _, htime'⟩)
      · exact hwithstands.unhurried (Likeness.Between.given hlatency) permits meter
      · have horderly : tree.readAll.Orderly True := QueryTree.orderly_readAll hprompt trivial
        rw [horderly.unhurried_eq (fun _ => htime) permits meter,
          horderly.unhurried_eq (fun _ => htime') permits meter]
        exact hsame
    · refine ⟨rows.ascending, fun index row => SortedMap.mem_entries_iff, ?_⟩
      intro tier path schema hgroup
      rw [Tier.table_eq hgroup, Poll.unhurried_mapOutcome, hrows]
      rfl
  · intro leaf first later response index values hwalk hread hindex hlast
    rw [hleaf, leaf.outcome_read, hwalk] at hread
    exact Leaf.get?_of_last hread hindex hlast

/-- A device that answers every walk with the same responses. -/
def answering (responses : List Response) : Client where
  answer
    | .walk _ => .ok responses
    | .get oid => Outcome.fails (.noInstance oid.absolute)
  latency := fun _ => 0

/-- A column whose texts are trimmed. -/
def nameLeaf : Leaf := ⟨⟨[['1']], by simp, by simp [isNumeral]⟩, [.trim]⟩

/-- A class with the column. -/
def namedTier : Tier :=
  let tree : QueryTree := LabelTree.empty.insert "name" (.leaf nameLeaf)
  ⟨"named", tree, tree, fun _ => false⟩

/-- Two names and a blank, not in the order of their rows. -/
def shuffledNames : List Response :=
  [⟨".1.9", .text " b "⟩, ⟨".1.4", .text ""⟩, ⟨".1.2", .text "a"⟩]

/-- The same responses, and after them another name for a row. -/
def repeatedNames : List Response := shuffledNames ++ [⟨".1.9", .text "c"⟩]

/-- The name of the lowest row, from responses that arrive in one order and in the other, and the last
one of two names for a row. -/
theorem name_of_lowest_row :
    (∀ c, c = answering shuffledNames ∨ c = answering shuffledNames.reverse →
      (namedTier.scalar "name" .text).unhurried c 1 Meter.zero = .ok "a") ∧
      (namedTier.tree.readAll.unhurried (answering shuffledNames) 1 Meter.zero).SameKind
        (namedTier.tree.readAll.unhurried (answering shuffledNames.reverse) 1 Meter.zero) ∧
      ∃ values, nameLeaf.read.unhurried (answering repeatedNames) 1 Meter.zero =
        .ok values ∧ values.get? 9 = some (.text "c") := by
  have hperm : shuffledNames.reverse.Perm shuffledNames := shuffledNames.reverse_perm
  have hdistinct : DistinctRows shuffledNames := by decide
  obtain ⟨hleaf, htree, -⟩ := arrival_order_does_not_matter (answering shuffledNames)
    (answering shuffledNames.reverse) 1 Meter.zero
  obtain ⟨-, -, hlast⟩ :=
    arrival_order_does_not_matter (answering repeatedNames) (answering []) 1 Meter.zero
  obtain ⟨-, hsame, -⟩ := htree namedTier.tree fun _ _ _ => .moved hperm hdistinct
  refine ⟨?_, hsame (.inl rfl), ?_⟩
  · intro c hc
    have hread : nameLeaf.read.unhurried (answering shuffledNames) 1 Meter.zero =
        .ok (SortedMap.ofList [(2, .text "a"), (9, .text "b")]) := Leaf.unhurried_read _ _ _ _
    rcases hleaf nameLeaf _ _ rfl rfl hperm hdistinct with hfails | ⟨values, -, hreads⟩
    · have hkind := (hfails _ (.inl rfl)).1
      rw [hread] at hkind
      cases hkind
    · have hvalues : values = SortedMap.ofList [(2, .text "a"), (9, .text "b")] :=
        Except.ok.inj ((hreads _ (.inl rfl)).1.symm.trans hread)
      obtain ⟨-, hclass⟩ := hreads c hc
      rw [(hclass namedTier "name" rfl).2 .text, hvalues]
      rfl
  · have hread : nameLeaf.read.unhurried (answering repeatedNames) 1 Meter.zero =
        .ok (SortedMap.ofList [(2, .text "a"), (9, .text "c")]) := Leaf.unhurried_read _ _ _ _
    obtain ⟨value, hvalue, hget⟩ :=
      hlast nameLeaf shuffledNames [] ⟨".1.9", .text "c"⟩ 9 _ rfl hread rfl nofun
    have hnormalized : Operator.applyAll nameLeaf.operators (.text "c") = .ok (.text "c") := by rfl
    refine ⟨_, hread, ?_⟩
    rw [hget, Except.ok.inj (hvalue.symm.trans hnormalized)]

end DevicePoll
