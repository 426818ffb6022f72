import DevicePoll.Proofs.Poll.Sequential
import DevicePoll.Proofs.Query.Hurried

/-! Rows in a run without a deadline and without a cancellation. Whatever time each of the reads takes, the
rows that are found are those of the leaves read one after another, and rows that are not found fail as one
of the leaves does. Which leaf that is depends on the time that the reads take and on when they are asked
for: it is the first one in the order of the labels if they all take the same time and start together. -/
namespace DevicePoll

open Reading

/-- Unless a read is cut off, the program breaks a group around it in one of these kinds only. -/
def Poll.BreaksIn {α : Type} (client : Client) (stop : Failure.Stop) (kinds : Failure.Kind → Prop)
    (p : Poll α) : Prop :=
  p.run.Ensures (.during client stop) fun outcome cut =>
    cut = false → ∀ kind, Outcome.breaking? outcome = some kind → kinds kind

namespace Poll.BreaksIn
variable {client : Client} {stop : Failure.Stop} {kinds : Failure.Kind → Prop} {α β : Type}

theorem mapOutcome {p : Poll α} (h : p.BreaksIn client stop kinds) {f : Outcome α → Outcome β}
    (hf : ∀ outcome kind, (f outcome).breaking? = some kind → outcome.breaking? = some kind) :
    (p.mapOutcome f).BreaksIn client stop kinds := by
  refine h.bind fun outcome cut hbreaks => .done fun huncut kind hkind => ?_
  rw [Bool.or_false] at huncut
  exact hbreaks huncut kind (hf outcome kind hkind)

theorem all {ps : List (Poll α)} (h : ∀ p ∈ ps, p.BreaksIn client stop kinds) :
    (Poll.all ps).BreaksIn client stop kinds := by
  refine Poll.all_induction (fun _ => .pause) (.done nofun) (fun held p rest hp hrest => ?_) h
  refine .fork hp hrest fun result cut hsides => .done fun huncut kind hkind => ?_
  rw [Bool.or_false] at huncut
  cases hsides with
  | left hfirst => exact hfirst huncut kind hkind
  | right hlater => exact hlater huncut kind hkind
  | late _ hlater => exact hlater (Bool.or_eq_false_iff.mp huncut).2 kind hkind
  | both => cases hkind

end Poll.BreaksIn

section Query
variable {client : Client} {stop : Failure.Stop} {kinds : Failure.Kind → Prop}

theorem Leaf.breaksIn_read {leaf : Leaf}
    (h : ∀ kind, (leaf.read.outcome client.answer).breaking? = some kind → kinds kind) :
    leaf.read.BreaksIn client stop kinds := by
  refine .read fun reply cut hreply => .done ?_
  cases hreply with
  | answered => exact fun _ => h
  | cutOff stage => exact nofun

theorem breaksIn_readGroup {columns : List (String × Poll Column)}
    (h : ∀ e ∈ columns, e.2.BreaksIn client stop kinds) :
    (readGroup columns).BreaksIn client stop kinds := by
  refine Poll.BreaksIn.mapOutcome (Poll.BreaksIn.all fun p hp => ?_)
    fun outcome kind hkind => (Outcome.breaking?_map outcome _) ▸ hkind
  obtain ⟨e, he, rfl⟩ := List.mem_map.mp hp
  refine (h e he).mapOutcome fun outcome kind hkind => ?_
  obtain ⟨failure, hfailure, hsame, -⟩ := Outcome.breaking?_eq_some.mp hkind
  rw [← kind?_labelOutcome e.1 outcome, hfailure, Outcome.kind?_error, hsame]

/-- A tree breaks a group around it as one of its leaves does. -/
theorem QueryTree.breaksIn_readAll {tree : QueryTree} (h : ∀ path leaf,
      tree.toNode.descend path = some (.leaf leaf) →
        ∀ kind, (leaf.read.outcome client.answer).breaking? = some kind → kinds kind) :
    tree.readAll.BreaksIn client stop kinds := by
  refine readAll_induction (fun p => p.BreaksIn client stop kinds)
    (fun path leaf hleaf => ?leaf) (fun columns => breaksIn_readGroup) (fun p hp => ?nested)
  case leaf =>
    exact (Leaf.breaksIn_read (h path leaf hleaf)).mapOutcome fun outcome kind hkind =>
      (Outcome.breaking?_map outcome _) ▸ hkind
  case nested =>
    exact hp.mapOutcome fun outcome kind hkind => (Outcome.breaking?_map outcome _) ▸ hkind

end Query

namespace QueryTree
variable {tree : QueryTree} {client : Client} {permits : Nat} {meter : Meter}

/-- Rows that are found are those that the leaves give one after another. -/
theorem outcome_of_unhurried {found : Rows}
    (h : tree.readAll.unhurried client permits meter = .ok found) :
    tree.readAll.outcome client.answer = .ok found := by
  obtain ⟨last, hends⟩ := Poll.unhurried_eq_iff.mp h
  have hkeeps : tree.readAll.Keeps client (Limits.unhurried permits).stopper Outcome.Firm :=
    tree.keeps_readAll
  obtain ⟨value, hvalue, hexpected⟩ := hends.ensures rfl hkeeps rfl
  rw [hexpected, hvalue]

/-- Rows that are not found fail as one of the leaves does. -/
theorem exists_failure_of_unhurried {failure : Failure}
    (h : tree.readAll.unhurried client permits meter = .error failure) :
    ∃ path leaf blamed, tree.toNode.descend path = some (.leaf leaf) ∧
      leaf.read.outcome client.answer = .error blamed ∧ blamed.kind ≠ .notFound ∧
      failure.kind = blamed.kind := by
  obtain ⟨last, hends⟩ := Poll.unhurried_eq_iff.mp h
  have hkeeps : tree.readAll.Keeps client (Limits.unhurried permits).stopper Outcome.Firm :=
    tree.keeps_readAll
  have hbreaks : tree.readAll.BreaksIn client (Limits.unhurried permits).stopper fun kind =>
      ∃ path leaf, tree.toNode.descend path = some (.leaf leaf) ∧
        (leaf.read.outcome client.answer).breaking? = some kind :=
    breaksIn_readAll fun path leaf hleaf kind hkind => ⟨path, leaf, hleaf, hkind⟩
  cases hkind : Outcome.breaking? (.error failure : Outcome Rows) with
  | none =>
    -- a group never comes to nothing being found
    obtain ⟨value, hvalue, -⟩ := hends.ensures rfl hkeeps hkind
    cases hvalue
  | some kind =>
    obtain ⟨path, leaf, hleaf, hfails⟩ := hends.ensures rfl hbreaks rfl kind hkind
    obtain ⟨blamed, hblamed, hsame, hbreaking⟩ := Outcome.breaking?_eq_some.mp hfails
    obtain ⟨same, hfailure, hown, -⟩ := Outcome.breaking?_eq_some.mp hkind
    cases hfailure
    exact ⟨path, leaf, blamed, hleaf, hblamed, hsame ▸ hbreaking, hown.trans hsame.symm⟩

/-- Rows are found exactly if they are found with the leaves read one after another. -/
theorem unhurried_eq_ok_iff {found : Rows} : tree.readAll.unhurried client permits meter = .ok found ↔
    tree.readAll.outcome client.answer = .ok found := by
  refine ⟨outcome_of_unhurried, fun h => ?_⟩
  cases hrows : tree.readAll.unhurried client permits meter with
  | ok other => rw [← h, outcome_of_unhurried hrows]
  | error failure =>
    obtain ⟨path, leaf, blamed, hleaf, hblamed, hbreaking, -⟩ := exists_failure_of_unhurried hrows
    obtain ⟨failure', hfailure'⟩ := exists_failure_iff.mpr ⟨path, leaf, blamed, hleaf, hblamed, hbreaking⟩
    cases h.symm.trans hfailure'

/-- The rows of a tree are what its leaves have read, by row and not by leaf. Unhurried, they fail exactly
if some leaf fails otherwise than by finding nothing, with the kind of such a leaf; it is the first one in
the order of the labels if all reads take the same time and are asked for at the start. Otherwise the cell
at some labels of a row is the value that the leaf at these labels has read for that row; no row and no row
within a row is empty, and the rows are those of the leaves. -/
theorem readAll_turns_leaves_around (tree : QueryTree) (client : Client) (permits : Nat)
    (meter : Meter) :
    let rows := tree.readAll.unhurried client permits meter
    let own (leaf : Leaf) := leaf.read.unhurried client permits meter
    let leafAt (path : List String) (leaf : Leaf) := tree.toNode.descend path = some (.leaf leaf)
    ((∃ failure, rows = .error failure) ↔ ∃ path leaf failure,
        leafAt path leaf ∧ own leaf = .error failure ∧ failure.kind ≠ .notFound) ∧
      (∀ failure, rows = .error failure → ∃ path leaf blamed, leafAt path leaf ∧
        own leaf = .error blamed ∧ blamed.kind ≠ .notFound ∧ failure.kind = blamed.kind ∧
        ((∃ time, client.Takes time) → tree.Prompt →
          ∀ earlier other, earlier < path → leafAt earlier other →
            ∀ skipped, own other = .error skipped → skipped.kind = .notFound)) ∧
      ∀ found, rows = .ok found →
        (∀ index path value,
          (found.get? index).bind (fun row => row.toNode.descend path) = some (.leaf value) ↔
            ∃ leaf values, leafAt path leaf ∧ own leaf = .ok values ∧
              values.get? index = some value) ∧
        (∀ index row, found.get? index = some row → ∀ path labels child,
          row.toNode.descend path = some (.group labels child) → ∃ label, label ∈ labels) ∧
        ∀ index, index ∈ found.keys ↔ ∃ path leaf values,
          leafAt path leaf ∧ own leaf = .ok values ∧ index ∈ values.keys := by
  intro rows own leafAt
  have hown : own = fun leaf => leaf.read.outcome client.answer :=
    funext fun leaf => leaf.unhurried_read client permits meter
  rw [hown]
  refine ⟨⟨?_, ?_⟩, fun failure h => ?_, fun found h => ?_⟩
  · rintro ⟨failure, h⟩
    obtain ⟨path, leaf, blamed, hleaf, hblamed, hbreaking, -⟩ := exists_failure_of_unhurried h
    exact ⟨path, leaf, blamed, hleaf, hblamed, hbreaking⟩
  · intro hleaves
    obtain ⟨failure, hfailure⟩ := exists_failure_iff.mpr hleaves
    cases hrows : rows with
    | error failure => exact ⟨failure, rfl⟩
    | ok found => cases (outcome_of_unhurried hrows).symm.trans hfailure
  · by_cases hordered : (∃ time, client.Takes time) ∧ tree.Prompt
    · obtain ⟨⟨time, htime⟩, hprompt⟩ := hordered
      have hsequential : rows = tree.readAll.outcome client.answer :=
        (orderly_readAll hprompt trivial).unhurried_eq (fun _ => htime) permits meter
      obtain ⟨path, leaf, first, hleaf, hfirst, hbreaking, hsame, hbefore⟩ :=
        exists_first_failure (hsequential.symm.trans h)
      exact ⟨path, leaf, first, hleaf, hfirst, hbreaking, hsame, fun _ _ => hbefore⟩
    · obtain ⟨path, leaf, blamed, hleaf, hblamed, hbreaking, hsame⟩ := exists_failure_of_unhurried h
      exact ⟨path, leaf, blamed, hleaf, hblamed, hbreaking, hsame,
        fun htime hprompt => absurd ⟨htime, hprompt⟩ hordered⟩
  · have hfound := outcome_of_unhurried h
    refine ⟨fun index path value => cell_iff hfound, ?_, fun index => mem_keys_iff hfound⟩
    intro index row hrow path labels child hgroup
    exact ((filled_rows hfound index row hrow).descend hgroup).1

end QueryTree

/-- The first leaf to fail in the order of the labels need not be the one that the rows fail as. A later
one does if its read takes less time, and also, with the same time for every read, if there are too many
labels before the first one for it to be asked for at the start. -/
theorem later_leaf_can_fail_rows :
    let uneven : Client := ⟨Communicator.brokenColumns.answer, fun request =>
      if request.oid.core = "1.2".toList then 20 else 5⟩
    let even : Client := ⟨Communicator.brokenColumns.answer, fun _ => 10⟩
    let failing (tree : QueryTree) (client : Client) (permits : Nat) :=
      tree.toNode.leaves.filterMap fun e =>
        (Outcome.kind? (e.2.read.unhurried client permits Meter.zero)).map fun kind => (e.1, kind)
    (failing Communicator.nestedTree uneven 4 = [(["deep", "second"], .timeout), (["flat"], .decode)] ∧
        Outcome.kind? (Communicator.nestedTree.readAll.unhurried uneven 4 Meter.zero) = some .decode) ∧
      failing Communicator.wideTree even 63 = [(["first", "c"], .timeout), (["second"], .decode)] ∧
        Outcome.kind? (Communicator.wideTree.readAll.unhurried even 63 Meter.zero) = some .decode := by
  intro uneven even failing
  refine ⟨⟨?_, Poll.unhurried_of_stateAfter 4 (by decide +kernel)⟩, ?_,
    Poll.unhurried_of_stateAfter 4 (by decide +kernel)⟩
  all_goals
    simp only [failing, Leaf.unhurried_read]
    decide +kernel

/-- The first and the third column, each with a row of its own, and no second one. -/
def splitColumns : Device :=
  (Device.empty.withColumn "1.1" [(7, .text "x")]).withColumn "1.3" [(9, .text "y")]

/-- A label within a label is left out where nothing is found, and fails the rows otherwise. -/
theorem deep_leaves_of_rows :
    (∃ found,
      Communicator.nestedTree.readAll.unhurried splitColumns.client 1 Meter.zero = .ok found ∧
        (found.get? 7).bind (fun row => row.toNode.descend ["deep", "first"]) =
          some (.leaf (.text "x")) ∧ 9 ∈ found.keys) ∧
      ∃ failure, Communicator.nestedTree.readAll.unhurried Communicator.brokenColumns.client 1
        Meter.zero = .error failure := by
  obtain ⟨-, -, hfound⟩ := Communicator.nestedTree.readAll_turns_leaves_around splitColumns.client 1
    Meter.zero
  obtain ⟨hfails, -⟩ := Communicator.nestedTree.readAll_turns_leaves_around
    Communicator.brokenColumns.client 1 Meter.zero
  constructor
  · have hnone : Outcome.kind? (Communicator.nestedTree.readAll.unhurried splitColumns.client 1
        Meter.zero) = none := Poll.unhurried_of_stateAfter 8 (by decide +kernel)
    cases hrows : Communicator.nestedTree.readAll.unhurried splitColumns.client 1 Meter.zero with
    | error failure =>
      rw [hrows] at hnone
      cases hnone
    | ok found =>
      obtain ⟨hcells, -, hkeys⟩ := hfound found hrows
      refine ⟨found, rfl, (hcells 7 ["deep", "first"] (.text "x")).mpr ?_, (hkeys 9).mpr ?_⟩
      · exact ⟨_, SortedMap.ofList [(7, .text "x")], rfl, Leaf.unhurried_read _ _ _ _, rfl⟩
      · exact ⟨["flat"], _, SortedMap.ofList [(9, .text "y")], rfl, Leaf.unhurried_read _ _ _ _, by decide⟩
  · exact hfails.mpr ⟨["deep", "second"], _, _, rfl, Leaf.unhurried_read _ _ _ _, nofun⟩

end DevicePoll
