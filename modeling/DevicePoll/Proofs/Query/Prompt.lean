import DevicePoll.Proofs.Reading.Orderly
import DevicePoll.Query.Read

/-! Trees whose reads are all asked for at the start. More than `mostTogether` labels are read through a
queue, which holds errors back and is left for a moment after two of its labels have asked for one more
look. The labels behind those two are started a round later, so that their failures come later as well. In
a prompt tree this does not happen, and its rows are read by a flat program. -/
namespace DevicePoll

open Reading

/-! ### Programs that ask for one more look -/

@[simp] theorem Reading.asks_map {α β : Type} (x : Reading α) (f : α → β) :
    (x >>= fun a => done (f a)).asks = x.asks := by
  induction x with
  | pause _ ih => exact ih f
  | _ => rfl

namespace Poll
variable {α β : Type}

@[simp] theorem asks_mapOutcome (p : Poll α) (f : Outcome α → Outcome β) :
    (p.mapOutcome f).run.asks = p.run.asks := Reading.asks_map p.run f

theorem asks_row (ps : List (Poll α)) : (row false ps).run.asks = ps.any fun p => p.run.asks := by
  induction ps with
  | nil => rfl
  | cons p ps ih => rw [List.any_cons, ← ih]; rfl

/-- Programs of a queue ask for one more look, and others do if one of them does. -/
theorem asks_all (ps : List (Poll α)) : (Poll.all ps).run.asks =
    (decide (mostTogether < ps.length) || ps.any fun p => p.run.asks) := by
  by_cases hfew : ps.length ≤ mostTogether
  · rw [all, if_pos hfew, asks_row, decide_eq_false (Nat.not_lt.mpr hfew), Bool.false_or]
  · rw [all, if_neg hfew, decide_eq_true (Nat.not_le.mp hfew), Bool.true_or]
    cases ps with
    | nil => exact absurd (Nat.zero_le _) hfew
    | cons p ps => rfl

/-- A queue is not left as long as there is no program behind two that ask for one more look. -/
theorem spread_eq {ps : List (Poll α)} {asked : Nat}
    (h : asked + ps.dropLast.countP (fun p => p.run.asks) ≤ 1) : spread asked ps = ps := by
  induction ps generalizing asked with
  | nil => rfl
  | cons p ps ih =>
    have hfirst : asked / 2 = 0 := by omega
    rw [spread, hfirst, later]
    cases ps with
    | nil => rfl
    | cons q qs =>
      rw [List.dropLast_cons_cons, List.countP_cons] at h
      have hasked : asked + p.run.asks.toNat + (q :: qs).dropLast.countP (fun p => p.run.asks) ≤ 1 := by
        cases hasks : p.run.asks <;> simp only [hasks, Bool.toNat_true, Bool.toNat_false, if_true,
          Bool.false_eq_true, if_false] at h ⊢ <;> omega
      rw [ih hasked]

theorem flat_row (held : Bool) {ps : List (Poll α)} (h : ∀ p ∈ ps, p.run.Flat) :
    (row held ps).run.Flat := by
  induction ps with
  | nil => exact .done []
  | cons p ps ih =>
    obtain ⟨hhead, htail⟩ := List.forall_mem_cons.mp h
    exact .fork hhead (ih htail) (fun pair => ⟨pair.1 :: pair.2, rfl⟩) fun e => ⟨.error e, rfl⟩

/-- Flat programs side by side are flat unless their queue is left. -/
theorem flat_all {ps : List (Poll α)} (h : ∀ p ∈ ps, p.run.Flat)
    (hprompt : mostTogether < ps.length → ps.dropLast.countP (fun p => p.run.asks) ≤ 1) :
    (Poll.all ps).run.Flat := by
  by_cases hfew : ps.length ≤ mostTogether
  · rw [all, if_pos hfew]
    exact flat_row false h
  · rw [all, if_neg hfew, spread_eq (by rw [Nat.zero_add]; exact hprompt (Nat.not_le.mp hfew))]
    exact flat_row true h

end Poll

/-! ### Groups -/

section Group
variable {columns : List (String × Poll Column)}

theorem asks_readGroup (columns : List (String × Poll Column)) : (readGroup columns).run.asks =
    (decide (mostTogether < columns.length) || columns.any fun e => e.2.run.asks) := by
  rw [readGroup, Poll.asks_mapOutcome, Poll.asks_all, List.length_map, List.any_map]
  simp only [Function.comp_def, Poll.asks_mapOutcome]

theorem flat_readGroup (h : ∀ e ∈ columns, e.2.run.Flat) (hprompt : mostTogether < columns.length →
    columns.dropLast.countP (fun e => e.2.run.asks) ≤ 1) : (readGroup columns).run.Flat := by
  have hlabels : ∀ p ∈ columns.map fun e => e.2.mapOutcome (labelOutcome e.1), p.run.Flat := by
    intro p hp
    obtain ⟨e, he, rfl⟩ := List.mem_map.mp hp
    exact (h e he).map fun column => ⟨some (e.1, column), rfl⟩
  refine (Poll.flat_all hlabels fun hmany => ?_).map fun found => ⟨_, rfl⟩
  rw [List.length_map] at hmany
  rw [← List.map_dropLast, List.countP_map]
  simpa only [Function.comp_def, Poll.asks_mapOutcome] using hprompt hmany

end Group

namespace QueryNode

/-- The node is a group of more labels than are looked at together, or holds one somewhere below it. -/
def isWide : QueryNode → Bool
  | .leaf _ => false
  | .group labels child => decide (mostTogether < labels.members.length) ||
      labels.members.any fun label => isWide (child label.1 label.2)

/-- In no group that is read through a queue does a label stand behind two others that are wide. -/
def Prompt : QueryNode → Prop
  | .leaf _ => True
  | .group labels child => (∀ label h, Prompt (child label h)) ∧
      (mostTogether < labels.members.length →
        labels.members.dropLast.countP (fun label => isWide (child label.1 label.2)) ≤ 1)

theorem isWide_group (labels : LabelSet) (child : (label : String) → label ∈ labels → QueryNode) :
    isWide (.group labels child) = (decide (mostTogether < labels.members.length) ||
      labels.members.any fun label => isWide (child label.1 label.2)) := rfl

end QueryNode

namespace QueryTree

theorem asks_readAll (tree : QueryTree) : tree.readAll.run.asks =
    (decide (mostTogether < tree.labels.members.length) || tree.labels.members.any fun label =>
      (QueryNode.read (tree.child label.1 label.2)).run.asks) := by
  rw [readAll_eq, asks_readGroup, List.length_map, List.any_map]
  rfl

/-- A tree of labels that are flat is flat unless its queue is left. -/
theorem flat_of_labels {tree : QueryTree}
    (h : ∀ label hlabel, (QueryNode.read (tree.child label hlabel)).run.Flat)
    (hprompt : mostTogether < tree.labels.members.length → tree.labels.members.dropLast.countP
      (fun label => (QueryNode.read (tree.child label.1 label.2)).run.asks) ≤ 1) :
    tree.readAll.run.Flat := by
  rw [readAll_eq]
  refine flat_readGroup (fun e he => ?_) fun hmany => ?_
  · obtain ⟨label, -, rfl⟩ := List.mem_map.mp he
    exact h label.1 label.2
  · rw [List.length_map] at hmany
    rw [← List.map_dropLast, List.countP_map]
    exact hprompt hmany

end QueryTree

namespace QueryNode

theorem asks_read (node : QueryNode) : node.read.run.asks = node.isWide := by
  induction node with
  | leaf leaf => rfl
  | group labels child ih =>
    rw [read_group, Poll.asks_mapOutcome, QueryTree.asks_readAll, isWide_group]
    simp only [ih]

theorem flat_read {node : QueryNode} (h : node.Prompt) : node.read.run.Flat := by
  induction node with
  | leaf leaf => exact .read fun reply => ⟨_, rfl⟩
  | group labels child ih =>
    obtain ⟨hchildren, hqueue⟩ := h
    have hlabels : (QueryTree.readAll ⟨labels, child⟩).run.Flat :=
      QueryTree.flat_of_labels (fun label hlabel => ih label hlabel (hchildren label hlabel))
        (by simpa only [asks_read] using hqueue)
    rw [read_group]
    exact hlabels.map fun rows => ⟨rows.map LabelTree.toNode, rfl⟩

end QueryNode

/-- All reads of the tree are asked for at the start. -/
def QueryTree.Prompt (tree : QueryTree) : Prop := QueryNode.Prompt tree.toNode

namespace QueryNode

/-- Nothing has to be asked of a tree in which no group is read through a queue. -/
theorem prompt_of_not_isWide {node : QueryNode} (h : node.isWide = false) : node.Prompt := by
  induction node with
  | leaf leaf => trivial
  | group labels child ih =>
    rw [isWide_group, Bool.or_eq_false_iff, decide_eq_false_iff_not, List.any_eq_false] at h
    obtain ⟨hfew, hchildren⟩ := h
    refine ⟨fun label hlabel => ih label hlabel ?_, fun hmany => absurd hmany hfew⟩
    exact Bool.eq_false_iff.mpr (hchildren ⟨label, hlabel⟩ (labels.mem_members _))

theorem Prompt.descend {node found : QueryNode} (h : node.Prompt) {path : List String}
    (hfound : node.descend path = some found) : found.Prompt := by
  induction path generalizing node with
  | nil =>
    obtain rfl := Option.some.inj hfound
    exact h
  | cons label path ih =>
    cases node with
    | leaf leaf => cases hfound
    | group labels child =>
      rw [LabelNode.descend] at hfound
      split at hfound
      · next hlabel => exact ih (h.1 label hlabel) hfound
      · cases hfound

end QueryNode

theorem QueryTree.flat_readAll {tree : QueryTree} (h : tree.Prompt) : tree.readAll.run.Flat := by
  obtain ⟨hchildren, hqueue⟩ := h
  refine flat_of_labels (fun label hlabel => QueryNode.flat_read (hchildren label hlabel)) ?_
  simpa only [QueryNode.asks_read] using hqueue

end DevicePoll
