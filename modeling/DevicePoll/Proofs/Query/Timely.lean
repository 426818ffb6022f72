import DevicePoll.Proofs.LabelTree.Leaves
import DevicePoll.Proofs.Query.Arrival
import DevicePoll.Proofs.Query.Hurried
import DevicePoll.Proofs.Reading.Waves

/-! Trees whose leaves can be read. Each leaf costs one read, whether something is found for it or not,
and the reads of a tree run in waves of as many as there are permits, however its groups are nested. So
the number of leaves tells how many reads are in flight and when the rows are there. -/
namespace DevicePoll

open Reading

/-- A reply from which a column can be made: nothing is found, or each response but the empty texts has a
value that can be normalized and a row. -/
inductive Leaf.Readable (leaf : Leaf) : Outcome (List Response) → Prop
  | nothing {failure : Failure} (notFound : failure.kind = .notFound) : Readable leaf (.error failure)
  | found {responses : List Response}
      (columns : ∀ response ∈ responses, response.value.isEmptyText = false →
        (∃ value, Operator.applyAll leaf.operators response.value = .ok value) ∧
          ∃ index, rowIndex response.oid = .ok index) : Readable leaf (.ok responses)

section Query
variable {answer : (request : Request) → Outcome request.Reply}

theorem preserves_map {β γ : Type} (f : β → γ) :
    Preserves fun outcome : Outcome β => outcome.map f :=
  ⟨fun b => ⟨f b, rfl⟩, fun failure _ => ⟨failure, rfl, rfl⟩⟩

theorem preserves_labelOutcome (label : String) : Preserves (labelOutcome label) where
  values column := ⟨some (label, column), rfl⟩
  kinds failure h :=
    ⟨.within ("failed to get value '" ++ label ++ "'") failure,
      by rw [labelOutcome, if_neg (by simpa [Failure.isNotFound] using h)], rfl⟩

/-- A leaf that can be read comes to a column for its label, or the label is left out. -/
theorem Leaf.Readable.labelOutcome {leaf : Leaf} (h : leaf.Readable (answer (.walk leaf.oid)))
    (label : String) :
    ∃ found, labelOutcome label ((QueryNode.read (.leaf leaf)).outcome answer) = .ok found := by
  rw [QueryNode.outcome_leaf, outcome_read]
  generalize answer (.walk leaf.oid) = reply at h
  cases h with
  | nothing notFound =>
    refine ⟨none, ?_⟩
    show DevicePoll.labelOutcome label (.error _) = .ok none
    rw [DevicePoll.labelOutcome, if_pos (by simpa [Failure.isNotFound] using notFound)]
  | @found responses columns =>
    have hread : ∀ response ∈ responses, (entry leaf.operators response).kind? = none := by
      intro response hresponse
      unfold entry
      split
      · rfl
      · next hcounts =>
        obtain ⟨⟨value, hvalue⟩, index, hindex⟩ :=
          columns response hresponse (Bool.eq_false_iff.mpr hcounts)
        rw [hvalue, hindex]
        rfl
    dsimp only
    rw [collect_eq_ok_iff.mpr ⟨hread, rfl⟩]
    exact ⟨_, rfl⟩

namespace Poll
variable {α : Type}

/-- A pause is no read. -/
theorem fruitful_later {p : Poll α} {n : Nat} (h : p.run.Fruitful answer n) (pauses : Nat) :
    (p.later pauses).run.Fruitful answer n := by
  induction pauses with
  | zero => exact h
  | succ pauses ih => exact .pause ih

theorem fruitful_spread {ps : List (Poll α)} {counts : List Nat}
    (h : List.Forall₂ (fun p n => p.run.Fruitful answer n) ps counts) (asked : Nat) :
    List.Forall₂ (fun p n => p.run.Fruitful answer n) (spread asked ps) counts := by
  induction h generalizing asked with
  | nil => exact .nil
  | cons hhead _ ih => exact .cons (fruitful_later hhead _) (ih _)

theorem fruitful_row (held : Bool) {ps : List (Poll α)} {counts : List Nat}
    (h : List.Forall₂ (fun p n => p.run.Fruitful answer n) ps counts) :
    (row held ps).run.Fruitful answer counts.sum := by
  induction h with
  | nil => exact .done []
  | cons hhead _ ih =>
    exact .fork hhead ih (fun pair => ⟨pair.1 :: pair.2, rfl⟩) fun failure _ => ⟨failure, rfl, rfl⟩

theorem fruitful_all {ps : List (Poll α)} {counts : List Nat}
    (h : List.Forall₂ (fun p n => p.run.Fruitful answer n) ps counts) :
    (Poll.all ps).run.Fruitful answer counts.sum := by
  rw [all]
  split
  · exact fruitful_row false h
  · exact fruitful_row true (fruitful_spread h 0)

end Poll

theorem fruitful_readGroup {columns : List (String × Poll Column)} {counts : List Nat}
    (h : List.Forall₂ (fun e n => (e.2.mapOutcome (labelOutcome e.1)).run.Fruitful answer n)
      columns counts) : (readGroup columns).run.Fruitful answer counts.sum :=
  (Poll.fruitful_all (List.forall₂_map_left_iff.mpr h)).map (preserves_map _)

theorem QueryTree.fruitful_of_labels {tree : QueryTree} (h : ∀ label hlabel,
      ((QueryNode.read (tree.child label hlabel)).mapOutcome (labelOutcome label)).run.Fruitful answer
        (tree.child label hlabel).leaves.length) :
    tree.readAll.run.Fruitful answer tree.toNode.leaves.length := by
  have hcounts : tree.toNode.leaves.length =
      (tree.labels.members.map fun label => (tree.child label.1 label.2).leaves.length).sum := by
    rw [LabelTree.toNode, LabelNode.leaves_group, List.length_flatMap]
    simp only [List.length_map]
  rw [hcounts, readAll_eq]
  refine fruitful_readGroup ?_
  rw [List.forall₂_map_left_iff, List.forall₂_map_right_iff, List.forall₂_same]
  exact fun label _ => h label.1 label.2

/-- A label whose leaves can be read comes to a column, or is left out. Each leaf is read once. -/
theorem QueryNode.fruitful_read {node : QueryNode} (h : ∀ path leaf,
      node.descend path = some (.leaf leaf) → leaf.Readable (answer (.walk leaf.oid)))
    (label : String) :
    (node.read.mapOutcome (labelOutcome label)).run.Fruitful answer node.leaves.length := by
  induction node generalizing label with
  | leaf leaf =>
    refine .read ?_ fun failure hkind => ?_
    · obtain ⟨found, hfound⟩ := (h [] leaf rfl).labelOutcome label
      exact ⟨found, congrArg Reading.done hfound⟩
    · obtain ⟨failure', hfailed, hsame⟩ := (preserves_labelOutcome label).kinds failure hkind
      exact ⟨failure', congrArg Reading.done hfailed, hsame⟩
  | group labels child ih =>
    have hlabels : (QueryTree.readAll ⟨labels, child⟩).run.Fruitful answer _ :=
      QueryTree.fruitful_of_labels fun below hbelow => ih below hbelow (fun path leaf hleaf =>
        h (below :: path) leaf (LabelNode.descend_group_cons.mpr ⟨hbelow, hleaf⟩)) below
    rw [read_group]
    exact (hlabels.map (preserves_map _)).map (preserves_labelOutcome label)

theorem QueryTree.fruitful_readAll {tree : QueryTree} (h : ∀ path leaf,
      tree.toNode.descend path = some (.leaf leaf) → leaf.Readable (answer (.walk leaf.oid))) :
    tree.readAll.run.Fruitful answer tree.toNode.leaves.length :=
  fruitful_of_labels fun label hlabel => QueryNode.fruitful_read (fun path leaf hleaf =>
    h (label :: path) leaf (LabelNode.descend_group_cons.mpr ⟨hlabel, hleaf⟩)) label

end Query

/-- The rows of a tree are there when the last wave of its reads is over. Each leaf is read once, and as
many reads are in flight at once as there are permits, or all of them. With a deadline the rows are the
same if the deadline is not over before the last wave; else the read times out. -/
theorem QueryTree.rows_come_with_last_wave (tree : QueryTree) (client : Client) (delay permits : Nat)
    (meter : Meter) (hpermits : 0 < permits) (htime : client.Takes delay) (hdelay : 0 < delay)
    (hleaves : 0 < tree.toNode.leaves.length)
    (hreadable : ∀ path leaf, tree.toNode.descend path = some (.leaf leaf) →
      leaf.Readable (client.answer (.walk leaf.oid))) :
    let n := tree.toNode.leaves.length
    let ended := fun deadline =>
      run client ⟨permits, hpermits, none, deadline⟩ tree.readAll.run meter
    (∀ deadline, HasEnded client ⟨permits, hpermits, none, deadline⟩ tree.readAll.run meter
      (roundsOf client tree.readAll.run)) ∧
    ∃ rows, (ended none).1 = .ok rows ∧ (ended none).2.reads = meter.reads + n ∧
      (ended none).2.peak = max meter.peak (meter.inFlight + min n permits) ∧
      ∀ deadline, ¬delay ∣ deadline →
        if (n ⌈/⌉ permits) * delay < deadline then (ended (some deadline)).1 = .ok rows
        else Outcome.kind? (ended (some deadline)).1 = some .timeout := by
  intro n ended
  have hfruitful : tree.readAll.run.Fruitful client.answer n := fruitful_readAll hreadable
  refine ⟨fun deadline => hfruitful.hasEnded _ meter, ?_⟩
  have hrun : ∀ limits : Limits, limits.stop? 0 = none → _ := fun limits hopen =>
    hfruitful.run limits meter hleaves htime (Nat.ne_of_gt hdelay) hopen
  have hunlimited : ∀ now, (⟨permits, hpermits, none, none⟩ : Limits).stop? now = none :=
    fun now => rfl
  rcases hrun _ (hunlimited 0) with ⟨-, ⟨rows, hrows⟩, hreads, hpeak⟩ | ⟨hstopped, -⟩
  · refine ⟨rows, hrows, hreads, hpeak, fun deadline hmultiple => ?_⟩
    have hpos : deadline ≠ 0 := fun hzero => hmultiple (hzero ▸ dvd_zero _)
    have hstop : ∀ now, (⟨permits, hpermits, none, some deadline⟩ : Limits).stop? now = none ↔
        now < deadline := fun now => Limits.stop?_eq_none_iff.trans (by simp [Limits.stopAt?])
    rcases hrun _ ((hstop 0).mpr (Nat.pos_of_ne_zero hpos)) with
      ⟨hopen, ⟨found, hfound⟩, -, -⟩ | ⟨hstopped, failure, hfailed, hkind⟩
    · rw [if_pos ((hstop _).mp hopen)]
      have hsame := (outcome_of_run hfound).symm.trans (outcome_of_run hrows)
      rwa [Except.ok.inj hsame] at hfound
    · rw [if_neg (mt (hstop _).mpr hstopped)]
      exact Outcome.kind?_eq_some.mpr ⟨failure, hfailed, hkind⟩
  · exact absurd (hunlimited _) hstopped

/-- A column whose texts are trimmed. -/
def trimmedColumn (part : List Char) (h : isNumeral part = true) : Leaf :=
  ⟨⟨[['1'], part], by simp, by simpa using ⟨rfl, h⟩⟩, [.trim]⟩

/-- Three columns, two of them in a group of their own. -/
def portColumns : QueryTree :=
  let port : QueryTree := LabelTree.ofList
    [("alias", .leaf (trimmedColumn ['2'] rfl)), ("name", .leaf (trimmedColumn ['3'] rfl))]
  LabelTree.ofList [("number", .leaf (trimmedColumn ['1'] rfl)), ("port", port.toNode)]

/-- A device without the second column. -/
def slowPorts : Device :=
  let numbered := Device.empty.withColumn "1.1" [(7, .text "7 ")]
  { numbered.withColumn "1.3" [(7, .text " lan")] with delay := 10 }

/-- Three reads with two permits are two waves, although one of them finds nothing. -/
theorem portColumns_take_two_waves :
    let ended := fun deadline => run slowPorts.client ⟨2, by decide, none, deadline⟩
      portColumns.readAll.run Meter.zero
    slowPorts.client.Takes 10 ∧ ∃ rows, (ended none).1 = .ok rows ∧ (ended none).2.reads = 3 ∧
      (ended none).2.peak = 2 ∧ (ended (some 21)).1 = .ok rows ∧
      Outcome.kind? (ended (some 19)).1 = some .timeout := by
  have hleaves : portColumns.toNode.leaves =
      [(["number"], trimmedColumn ['1'] rfl), (["port", "alias"], trimmedColumn ['2'] rfl),
        (["port", "name"], trimmedColumn ['3'] rfl)] := by rfl
  have hreadable : ∀ path leaf, portColumns.toNode.descend path = some (.leaf leaf) →
      leaf.Readable (slowPorts.client.answer (.walk leaf.oid)) := by
    intro path leaf hleaf
    have hmem := LabelNode.mem_leaves_iff.mpr hleaf
    rw [hleaves] at hmem
    simp only [List.mem_cons, Prod.mk.injEq, List.not_mem_nil, or_false] at hmem
    rcases hmem with ⟨-, rfl⟩ | ⟨-, rfl⟩ | ⟨-, rfl⟩
    · have hwalk : slowPorts.client.answer (.walk (trimmedColumn ['1'] rfl).oid) =
          .ok [⟨".1.1.7", .text "7 "⟩] := rfl
      rw [hwalk]
      exact .found (List.forall_mem_singleton.mpr fun _ => ⟨⟨.text "7", rfl⟩, 7, rfl⟩)
    · exact .nothing rfl
    · have hwalk : slowPorts.client.answer (.walk (trimmedColumn ['3'] rfl).oid) =
          .ok [⟨".1.3.7", .text " lan"⟩] := rfl
      rw [hwalk]
      exact .found (List.forall_mem_singleton.mpr fun _ => ⟨⟨.text "lan", rfl⟩, 7, rfl⟩)
  have htime : slowPorts.client.Takes 10 := fun _ => rfl
  obtain ⟨-, rows, hrows, hreads, hpeak, hdeadline⟩ := portColumns.rows_come_with_last_wave
    slowPorts.client 10 2 Meter.zero (by decide) htime (by decide) (by rw [hleaves]; decide) hreadable
  rw [hleaves] at hreads hpeak hdeadline
  refine ⟨htime, rows, hrows, hreads, hpeak, ?_, ?_⟩
  · exact hdeadline 21 (by decide)
  · exact hdeadline 19 (by decide)

/-- Two columns. -/
def twoColumns : QueryTree :=
  LabelTree.ofList
    [("first", .leaf (trimmedColumn ['1'] rfl)), ("second", .leaf (trimmedColumn ['2'] rfl))]

/-- A device with a value in the first column that is in no row. -/
def unnumberedRow : Device :=
  let misplaced := Device.empty.withValue "1.1.x" (.text "v")
  { misplaced.withValue "1.2.1" (.text "w") with delay := 10 }

/-- Walks that find values which can all be normalized are not enough: a value that is in no row fails the
whole read in the first of its two waves, so that the second column is not read, and a deadline within the
second wave is not met. -/
theorem unnumbered_row_ends_reads :
    let ended := fun deadline => run unnumberedRow.client ⟨1, by decide, none, deadline⟩
      twoColumns.readAll.run Meter.zero
    (∀ path leaf, twoColumns.toNode.descend path = some (.leaf leaf) →
      ∃ responses, unnumberedRow.client.answer (.walk leaf.oid) = .ok responses ∧
        ∀ response ∈ responses, ∃ value,
          Operator.applyAll leaf.operators response.value = .ok value) ∧
      twoColumns.toNode.leaves.length = 2 ∧ Outcome.kind? (ended none).1 = some .decode ∧
      (ended none).2.reads = 1 ∧ unnumberedRow.client.Takes 10 ∧ 15 ≤ (2 ⌈/⌉ 1) * 10 ∧ ¬10 ∣ 15 ∧
      Outcome.kind? (ended (some 15)).1 = some .decode := by
  have hleaves : twoColumns.toNode.leaves =
      [(["first"], trimmedColumn ['1'] rfl), (["second"], trimmedColumn ['2'] rfl)] := by rfl
  refine ⟨fun path leaf hleaf => ?_, by rw [hleaves]; rfl, ?_, ?_, fun _ => rfl, by decide,
    by decide, ?_⟩
  · have hmem := LabelNode.mem_leaves_iff.mpr hleaf
    rw [hleaves] at hmem
    simp only [List.mem_cons, Prod.mk.injEq, List.not_mem_nil, or_false] at hmem
    rcases hmem with ⟨-, rfl⟩ | ⟨-, rfl⟩
    · exact ⟨[⟨".1.1.x", .text "v"⟩], rfl, List.forall_mem_singleton.mpr ⟨.text "v", rfl⟩⟩
    · exact ⟨[⟨".1.2.1", .text "w"⟩], rfl, List.forall_mem_singleton.mpr ⟨.text "w", rfl⟩⟩
  · decide +kernel
  · decide +kernel
  · decide +kernel

end DevicePoll
