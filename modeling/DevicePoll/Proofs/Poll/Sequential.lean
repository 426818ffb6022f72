import DevicePoll.Proofs.LabelTree.Leaves
import DevicePoll.Proofs.Poll.Stopped
import DevicePoll.Proofs.Query.Unhurried

/-! Concurrency and the outcome of a call. The reads of a call may be made in any number at once and may
take any time, all of them the same, and the call comes to what it comes to when they are made one after
another: a group reads its labels in their order up to the first failure that counts, and a component
resolves its fields in the order of its record. This takes overrides that are orderly and trees that are
prompt; else a failure that comes later in the order can come first in time. -/
namespace DevicePoll

open Reading

/-- The reads of a tree that is read by itself are all asked for at the start. -/
def Call.Prompt : Call → Prop
  | .rows tree => tree.Prompt
  | _ => True

namespace Communicator

/-- The outcome of a call whose reads are made one after another. -/
def inOrder (c : Communicator) (known : Identity) (answer : (request : Request) → Outcome request.Reply)
    (call : Call) : Outcome call.Value := (c.call known call).run.eval answer

theorem orderly_call {c : Communicator} (hregistry : c.registry.Orderly) (hclass : c.deviceClass.Prompt)
    (known : Identity) {call : Call} (hcall : call.Prompt) : (c.call known call).Orderly True := by
  cases call with
  | property p => exact orderly_head hregistry hclass known p
  | identify => exact orderly_identifyFrom hregistry hclass _ known _
  | interfaces => exact orderly_head hregistry hclass known .interfaces
  | component component => exact orderly_component hregistry hclass known component
  | poll => exact orderly_poll hregistry hclass known
  | rows tree => exact QueryTree.orderly_readAll hcall trivial

theorem eval_answers (c : Communicator) (known : Identity)
    (answer : (request : Request) → Outcome request.Reply) (properties : List Property) :
    (c.answers known properties).eval answer =
      properties.map fun p => ⟨p, (c.head p known).run.eval answer⟩ := by
  rw [answers, eval_inTurns, List.map_map]
  refine List.map_congr_left fun p _ => ?_
  rw [Function.comp_apply, eval_bind, eval_done]

/-- Concurrency never changes what a call comes to. Without a deadline or a cancellation, every call
ends, whatever the number of permits and however long a read takes, in the outcome of its reads made one
after another: a group reads its labels in ascending order up to the first failure that is not one of
finding nothing, and a component resolves its fields in the order of its record. The overrides may read
as they like as long as only the reads of a group drop one another, and no label of a group with a queue
stands behind two labels whose groups have a queue as well. -/
theorem outcome_is_sequential (c : Communicator) (known : Identity) (call : Call)
    (answer : (request : Request) → Outcome request.Reply) (hregistry : c.registry.Orderly)
    (hclass : c.deviceClass.Prompt) (hcall : call.Prompt) :
    (∀ (delay permits : Nat) (meter : Meter),
      let client : Client := ⟨answer, fun _ => delay⟩
      let program := (c.call known call).run
      (run client (.unhurried permits) program meter).1 = c.inOrder known answer call ∧
        (stateAfter client (.unhurried permits) program meter (roundsOf client program)).1 =
          .done (c.inOrder known answer call)) ∧
      (∀ columns : List (String × Poll Column), (readGroup columns).run.eval answer =
        (columns.mapM fun e => labelOutcome e.1 (e.2.run.eval answer)).map
          fun found => Rows.ofColumns (found.filterMap id)) ∧
      (∀ labels : LabelSet, (labels.members.map Subtype.val).Pairwise (· < ·)) ∧
      ∀ component : Component, (c.answers known component.fields).eval answer =
        component.fields.map fun p => ⟨p, (c.head p known).run.eval answer⟩ := by
  have horderly : (c.call known call).run.Orderly True := orderly_call hregistry hclass known hcall
  refine ⟨fun delay permits meter => ?_, outcome_readGroup answer, LabelSet.members_ascending,
    fun component => c.eval_answers known answer component.fields⟩
  intro client program
  have htime : client.Takes delay := fun _ => rfl
  obtain ⟨value, hdone, hvalue⟩ : ∃ value,
      (stateAfter client (.unhurried permits) program meter (roundsOf client program)).1 =
        .done value ∧ ((Limits.unhurried permits).stopAt? = none → value = program.eval answer) :=
    horderly.ends meter fun _ => htime
  obtain rfl := hvalue rfl
  refine ⟨?_, hdone⟩
  rw [run, runWithin_eq, hdone]
  rfl

/-- A walk of the column of this number. -/
def columnLeaf (digit : Char) (h : digit.isDigit = true) : QueryNode :=
  .leaf ⟨⟨[['1'], [digit]], by simp, by simpa [isNumeral] using h⟩, []⟩

/-- A label with two labels of its own, before another one. -/
def nestedTree : QueryTree :=
  let deep : QueryTree := LabelTree.ofList
    [("first", columnLeaf '1' rfl), ("second", columnLeaf '2' rfl)]
  LabelTree.ofList [("deep", deep.toNode), ("flat", columnLeaf '3' rfl)]

/-- The second and the third column fail, each in its own way. -/
def brokenColumns : Device :=
  let filled := Device.empty.withColumn "1.1" [(7, .text "x")]
  (filled.withFault "1.2" .timeout).withFault "1.3" .decode

/-- The label within the first one fails the rows, whether the columns are read one by one or all at the
same instant. -/
theorem deep_label_fails_rows :
    let call := (access.call IdentityField.schema.blank (.rows nestedTree)).run
    access.registry.Orderly ∧ access.deviceClass.Prompt ∧ nestedTree.Prompt ∧
      Outcome.kind? (run ⟨brokenColumns.answer, fun _ => 10⟩ (.unhurried 1) call Meter.zero).1 =
        some .timeout ∧
      Outcome.kind? (run ⟨brokenColumns.answer, fun _ => 25⟩ (.unhurried 16) call Meter.zero).1 =
        some .timeout := by
  intro call
  have hregistry : access.registry.Orderly :=
    Sap.orderly_defaults.insert (Script.orderly_override oneInterface)
  have hclass : access.deviceClass.Prompt :=
    List.forall_mem_cons.mpr ⟨Tier.prompt_of_tree (QueryNode.prompt_of_not_isWide rfl),
      List.forall_mem_singleton.mpr (Tier.prompt_of_tree (QueryNode.prompt_of_not_isWide rfl))⟩
  have htree : nestedTree.Prompt := QueryNode.prompt_of_not_isWide (by decide +kernel)
  obtain ⟨hruns, -⟩ := outcome_is_sequential access IdentityField.schema.blank (.rows nestedTree)
    brokenColumns.answer hregistry hclass htree
  have hkind : Outcome.kind? (access.inOrder IdentityField.schema.blank brokenColumns.answer
      (.rows nestedTree)) = some .timeout := by decide +kernel
  refine ⟨hregistry, hclass, htree, ?_, ?_⟩
  · rw [(hruns 10 1 Meter.zero).1]
    exact hkind
  · rw [(hruns 25 16 Meter.zero).1]
    exact hkind

/-- A walk of the column of this number by itself. -/
def walkColumn (digit : Char) (h : digit.isDigit = true) : Poll (List Response) :=
  Poll.request (.walk ⟨[['1'], [digit]], by simp, by simpa [isNumeral] using h⟩)

/-- Reads one column after another beside two others, where each failure drops the rest. -/
def racingOverride : Override := fun _ p _ => do
  let _ ← Poll.all [do let _ ← walkColumn '1' rfl; walkColumn '2' rfl, walkColumn '1' rfl,
    walkColumn '3' rfl]
  Poll.fails (.unsupported p.wording)

/-- A group of 31 labels. -/
def wideColumns : QueryTree :=
  LabelTree.ofList ((List.range 31).map fun i => (toString i, columnLeaf '1' rfl))

/-- A label with 31 labels of its own, of which the first two have as many, before another one. -/
def wideTree : QueryTree :=
  let columns := (List.range 28).map fun i => ("x" ++ toString i, columnLeaf '1' rfl)
  let wide : QueryTree := LabelTree.ofList
    ([("a", wideColumns.toNode), ("b", wideColumns.toNode), ("c", columnLeaf '2' rfl)] ++ columns)
  LabelTree.ofList [("first", wide.toNode), ("second", columnLeaf '3' rfl)]

/-- Concurrency changes what a call comes to if an override lets a failure drop reads that follow one
another: with three permits the third column fails while the first one is read, and with two of them it is
read together with the second column, which fails before it. So it is with a tree that is not prompt: the
second label of the tree is asked for before the third label within the first one, and with 63 permits
only the former is read at once. -/
theorem permits_can_decide_the_outcome :
    let timeOut := some Failure.Kind.timeout
    let endsIn (c : Communicator) (call : Call) (permits rounds : Nat) :=
      (stateAfter ⟨brokenColumns.answer, fun _ => 10⟩ (.unhurried permits)
        (c.call IdentityField.schema.blank call).run Meter.zero rounds).1.value?.map Outcome.kind?
    let racing : Communicator := ⟨accessRouter, Registry.empty.insert Sap.className racingOverride⟩
    let vendor := Call.property (.identity .vendor)
    (Outcome.kind? (racing.inOrder IdentityField.schema.blank brokenColumns.answer vendor) = timeOut ∧
        endsIn racing vendor 2 4 = some timeOut ∧ endsIn racing vendor 3 4 = some (some .decode)) ∧
      Outcome.kind? (access.inOrder IdentityField.schema.blank brokenColumns.answer (.rows wideTree)) =
          timeOut ∧
        endsIn access (.rows wideTree) 64 4 = some timeOut ∧
        endsIn access (.rows wideTree) 63 4 = some (some .decode) := by
  decide +kernel

end Communicator
end DevicePoll
