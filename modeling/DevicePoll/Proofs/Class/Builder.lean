import DevicePoll.Proofs.Class.Compiled
import DevicePoll.Proofs.LabelTree.Grouping
import DevicePoll.Proofs.LabelTree.Leaves

/-! Definitions that are built step by step. Putting a leaf into a definition, on groups that are made on
the way and in place of whatever stands in it, comes to the same as merging the compiled definition with
a tree that holds this leaf alone. -/
namespace DevicePoll

namespace LabelTree
variable {α : Type}

theorem eq_of_mem_insert_empty {label other : String} {node : LabelNode α}
    (h : other ∈ (empty.insert label node).labels) : other = label :=
  (LabelSet.mem_add.mp h).resolve_right (LabelSet.mem_empty other)

theorem child_insert_same (t : LabelTree α) (label : String) (node : LabelNode α)
    (h : label ∈ (t.insert label node).labels) : (t.insert label node).child label h = node :=
  dif_pos rfl

@[simp] theorem empty_merge (t : LabelTree α) : empty.merge t = t := by
  refine ext_get? fun label => ?_
  rw [get?_merge, get?_empty]
  cases t.get? label <;> simp

@[simp] theorem merge_empty (t : LabelTree α) : t.merge empty = t := by
  refine ext_get? fun label => ?_
  rw [get?_merge, get?_empty]

/-- Merging with the tree of one label changes what stands under that label. -/
theorem merge_insert_empty (t : LabelTree α) (label : String) (node : LabelNode α) :
    t.merge (empty.insert label node) = t.insert label (node.onto (t.get? label)) := by
  refine ext_get? fun other => ?_
  rw [get?_merge, get?_insert, get?_insert, get?_empty]
  by_cases hlabel : other = label <;> simp [hlabel]

/-- Of what stands below a group only a group counts. -/
theorem onto_group_only (t : LabelTree α) (base : Option (LabelNode α)) :
    t.toNode.onto (some ((base.bind LabelNode.tree?).getD empty).toNode) = t.toNode.onto base := by
  have hempty : t.toNode.onto (some empty.toNode) = t.toNode := by
    rw [← toNode_merge, empty_merge]
  match base with
  | none => exact hempty.trans (LabelNode.onto_none _).symm
  | some (.leaf value) => exact hempty
  | some (.group labels child) => rfl

end LabelTree

/-! ### A leaf alone -/

namespace LabelNode
variable {α : Type}

/-- The node with one leaf, to which the labels lead. -/
def alone (value : α) : List String → LabelNode α
  | [] => leaf value
  | label :: path => (LabelTree.empty.insert label (alone value path)).toNode

theorem child?_alone (value : α) (label other : String) (path : List String) :
    (alone value (label :: path)).child? other =
      if other = label then some (alone value path) else none := by
  change (LabelTree.empty.insert label (alone value path)).get? other = _
  rw [LabelTree.get?_insert, LabelTree.get?_empty]

theorem descend_alone_iff {value found : α} {labels path : List String} :
    (alone value labels).descend path = some (leaf found) ↔ path = labels ∧ found = value := by
  induction labels generalizing path with
  | nil => cases path <;> simp [alone, descend, eq_comm]
  | cons label labels ih =>
    cases path with
    | nil => simp [alone, LabelTree.toNode]
    | cons other path =>
      rw [descend_cons, child?_alone]
      by_cases hlabel : other = label <;> simp [hlabel, ih]

theorem filled_alone (value : α) (path : List String) : (alone value path).Filled := by
  induction path with
  | nil => trivial
  | cons label path ih =>
    refine ⟨⟨label, LabelSet.mem_add.mpr (.inl rfl)⟩, fun other hother => ?_⟩
    obtain rfl := LabelTree.eq_of_mem_insert_empty hother
    rw [LabelTree.child_insert_same]
    exact ih

end LabelNode

namespace LabelTree
variable {α : Type}

/-- The tree with one leaf, to which the labels lead. -/
def alone (value : α) : List String → LabelTree α
  | [] => empty
  | label :: path => empty.insert label (LabelNode.alone value path)

theorem toNode_alone (value : α) {path : List String} (h : path ≠ []) :
    (alone value path).toNode = LabelNode.alone value path := by
  cases path with
  | nil => exact absurd rfl h
  | cons label path => rfl

end LabelTree

namespace NodeSpec

/-- Putting a leaf into a tree is merging the tree with the leaf alone. -/
theorem withLeaf_eq_merge (spec : LeafSpec) (path : List String) (tree : LabelTree LeafSpec) :
    withLeaf spec path tree = tree.merge (LabelTree.alone spec path) := by
  induction path generalizing tree with
  | nil => rw [withLeaf, LabelTree.alone, LabelTree.merge_empty]
  | cons label path ih =>
    rw [LabelTree.alone, LabelTree.merge_insert_empty]
    cases path with
    | nil => rfl
    | cons next path =>
      have hpath : next :: path ≠ [] := List.cons_ne_nil next path
      rw [withLeaf.eq_3 _ _ _ _ hpath, ih, LabelTree.toNode_merge, LabelTree.onto_group_only,
        LabelTree.toNode_alone spec hpath]

theorem compiles_alone {spec : LeafSpec} {oid : Oid} (hoid : Oid.ofText spec.oid = .ok oid)
    {path : List String} (h : ∀ label ∈ path, Text.isLabel label = true) :
    Compiles (LabelNode.alone spec path) (LabelNode.alone ⟨oid, spec.operators⟩ path) := by
  induction path with
  | nil => exact .leaf hoid
  | cons label path ih =>
    obtain ⟨hhead, htail⟩ := List.forall_mem_cons.mp h
    refine .group (fun other hother => ?_) fun other hother => ?_
    · rw [LabelTree.eq_of_mem_insert_empty hother]
      exact hhead
    · obtain rfl := LabelTree.eq_of_mem_insert_empty hother
      have hleaf := LabelTree.child_insert_same LabelTree.empty other
        (LabelNode.alone (Leaf.mk oid spec.operators) path) hother
      rw [LabelTree.child_insert_same, hleaf]
      exact ih htail

/-- A leaf alone only compiles if its labels and its identifier are in order. -/
theorem valid_of_compiles_alone {spec : LeafSpec} {path : List String} {node : QueryNode}
    (h : Compiles (LabelNode.alone spec path) node) :
    (∀ label ∈ path, Text.isLabel label = true) ∧ ∃ oid, Oid.ofText spec.oid = .ok oid := by
  induction path generalizing node with
  | nil =>
    cases h with
    | leaf hoid => exact ⟨nofun, _, hoid⟩
  | cons label path ih =>
    obtain _ | ⟨hlabels, hchild⟩ := h
    have hmem : label ∈ (LabelTree.empty.insert label (LabelNode.alone spec path)).labels :=
      LabelSet.mem_add.mpr (.inl rfl)
    have hbelow := hchild label hmem
    rw [LabelTree.child_insert_same] at hbelow
    obtain ⟨htail, hoid⟩ := ih hbelow
    exact ⟨List.forall_mem_cons.mpr ⟨hlabels label hmem, htail⟩, hoid⟩

/-- A tree with a leaf put into it compiles if the leaf does, and to the merge with the leaf alone. -/
theorem compiles_withLeaf_iff {spec : LeafSpec} {path : List String} (hpath : path ≠ [])
    {t : LabelTree LeafSpec} {tree found : QueryTree} (h : Compiles t.toNode tree.toNode) :
    Compiles (withLeaf spec path t).toNode found.toNode ↔
      (∀ label ∈ path, Text.isLabel label = true) ∧ ∃ oid, Oid.ofText spec.oid = .ok oid ∧
        found = tree.merge (LabelTree.alone ⟨oid, spec.operators⟩ path) := by
  have hmerged : ∀ oid, (∀ label ∈ path, Text.isLabel label = true) → Oid.ofText spec.oid = .ok oid →
      Compiles (withLeaf spec path t).toNode
        (tree.merge (LabelTree.alone ⟨oid, spec.operators⟩ path)).toNode := by
    intro oid hlabels hoid
    rw [withLeaf_eq_merge, LabelTree.toNode_merge, LabelTree.toNode_merge,
      LabelTree.toNode_alone _ hpath, LabelTree.toNode_alone _ hpath]
    exact (compiles_alone hoid hlabels).onto (.some h)
  constructor
  · intro hfound
    have hlayers := hfound
    rw [withLeaf_eq_merge, LabelTree.toNode_merge, LabelTree.toNode_alone _ hpath] at hlayers
    obtain ⟨above, habove⟩ := exists_compiles_of_onto hlayers
    obtain ⟨hlabels, oid, hoid⟩ := valid_of_compiles_alone habove
    exact ⟨hlabels, oid, hoid, LabelTree.toNode_injective (hfound.unique (hmerged oid hlabels hoid))⟩
  · rintro ⟨hlabels, oid, hoid, rfl⟩
    exact hmerged oid hlabels hoid

end NodeSpec

namespace ClassOverlay
variable {o : ClassOverlay} {tree found : QueryTree}

theorem queryTree_withLeaf_eq_ok_iff (h : o.queryTree = .ok tree) {path oid : String}
    {operators : List Operator} : (o.withLeaf path oid operators).queryTree = .ok found ↔
      (∀ label ∈ Text.parts path, label ≠ "") ∧ ∃ x, Oid.ofText oid = .ok x ∧
        found = tree.merge (LabelTree.alone ⟨x, operators⟩ (Text.parts path)) := by
  have hlabels : (∀ label ∈ Text.parts path, Text.isLabel label = true) ↔
      ∀ label ∈ Text.parts path, label ≠ "" :=
    forall₂_congr fun label hlabel => Text.isLabel_of_mem_parts hlabel
  rw [queryTree_eq_ok_iff, ← hlabels]
  exact NodeSpec.compiles_withLeaf_iff (Text.parts_ne_nil path) (queryTree_eq_ok_iff.mp h)

/-! ### Steps -/

/-- A step in which a definition is built. -/
inductive Step where
  | parent (name : String)
  | component (component : Component) (enabled : Bool)
  | leaf (path oid : String) (operators : List Operator)

def step (o : ClassOverlay) : Step → ClassOverlay
  | .parent name => o.withParent name
  | .component component enabled => o.withComponent component enabled
  | .leaf path oid operators => o.withLeaf path oid operators

/-- The definition after some steps, one after another. -/
def build (o : ClassOverlay) (steps : List Step) : ClassOverlay := steps.foldl step o

/-- The tree that a step adds: a leaf alone, if its labels and its identifier are in order, and nothing
for a parent or a component. -/
inductive Step.Adds : Step → QueryTree → Prop
  | parent (name : String) : Adds (.parent name) LabelTree.empty
  | component (component : Component) (enabled : Bool) :
      Adds (.component component enabled) LabelTree.empty
  | leaf {path oid : String} {operators : List Operator} {x : Oid} :
      (∀ label ∈ Text.parts path, label ≠ "") → Oid.ofText oid = .ok x →
      Adds (.leaf path oid operators) (LabelTree.alone ⟨x, operators⟩ (Text.parts path))

/-- What a step makes of the tree of a definition. -/
theorem queryTree_step_eq_ok_iff (h : o.queryTree = .ok tree) (s : Step) :
    (o.step s).queryTree = .ok found ↔ ∃ layer, s.Adds layer ∧ found = tree.merge layer := by
  have hsame : ∀ {o' : ClassOverlay}, o'.properties = o.properties →
      (o'.queryTree = .ok found ↔ found = tree.merge LabelTree.empty) := by
    intro o' hproperties
    rw [queryTree_eq_ok_iff, hproperties, ← queryTree_eq_ok_iff, h, LabelTree.merge_empty,
      Except.ok.injEq, eq_comm]
  cases s with
  | parent name =>
    refine (hsame rfl).trans ⟨fun hfound => ⟨_, .parent name, hfound⟩, ?_⟩
    rintro ⟨layer, ⟨⟩, hfound⟩
    exact hfound
  | component component enabled =>
    refine (hsame rfl).trans ⟨fun hfound => ⟨_, .component component enabled, hfound⟩, ?_⟩
    rintro ⟨layer, ⟨⟩, hfound⟩
    exact hfound
  | leaf path oid operators =>
    refine (queryTree_withLeaf_eq_ok_iff h).trans ⟨?_, ?_⟩
    · rintro ⟨hlabels, x, hx, hfound⟩
      exact ⟨_, .leaf hlabels hx, hfound⟩
    · rintro ⟨layer, hadds, hfound⟩
      cases hadds with
      | leaf hlabels hx => exact ⟨hlabels, _, hx, hfound⟩

/-- Steps that add trees come to the fold of the merges with these trees. -/
theorem queryTree_build {steps : List Step} {layers : List QueryTree}
    (hlayers : List.Forall₂ Step.Adds steps layers) (h : o.queryTree = .ok tree) :
    (o.build steps).queryTree = .ok (layers.foldl LabelTree.merge tree) := by
  induction hlayers generalizing o tree with
  | nil => exact h
  | cons hadds _ ih => exact ih ((queryTree_step_eq_ok_iff h _).mpr ⟨_, hadds, rfl⟩)

/-- A definition compiles after every step exactly if every step adds a tree. -/
theorem exists_layers_iff (h : o.queryTree = .ok tree) (steps : List Step) :
    (∀ first later, steps = first ++ later → ∃ found, (o.build first).queryTree = .ok found) ↔
      ∃ layers, List.Forall₂ Step.Adds steps layers := by
  constructor
  · intro hfirst
    induction steps generalizing o tree with
    | nil => exact ⟨[], .nil⟩
    | cons step steps ih =>
      obtain ⟨found, hfound⟩ := hfirst [step] steps rfl
      obtain ⟨layer, hadds, -⟩ := (queryTree_step_eq_ok_iff h step).mp hfound
      obtain ⟨layers, hlayers⟩ := ih hfound fun first later hsplit =>
        hfirst (step :: first) later (congrArg (step :: ·) hsplit)
      exact ⟨layer :: layers, .cons hadds hlayers⟩
  · rintro ⟨layers, hlayers⟩ first later rfl
    have hfirst := List.forall₂_take first.length hlayers
    rw [List.take_left] at hfirst
    exact ⟨_, queryTree_build hfirst h⟩

/-- Building a definition is merging trees. A definition that compiles still does after a leaf is put into
it, exactly if no label of the path is empty and the identifier can be read. Whatever stood at the path or
around it, the definition then compiles to the merge with a tree that holds this leaf and nothing else, and
otherwise it is refused as an invalid class. Steps one after another compile to the left fold of these
merges, and a definition compiles all the way if each of its steps adds a tree. -/
theorem builder_steps_are_merges {o : ClassOverlay} {tree : QueryTree} (h : o.queryTree = .ok tree) :
    (∀ path oid operators,
      (∀ found, (o.withLeaf path oid operators).queryTree = .ok found ↔
        (∀ label ∈ Text.parts path, label ≠ "") ∧ ∃ x, Oid.ofText oid = .ok x ∧
          found = tree.merge (LabelTree.alone ⟨x, operators⟩ (Text.parts path))) ∧
      ∀ failure, (o.withLeaf path oid operators).queryTree = .error failure →
        failure.kind = .invalidClass) ∧
    (∀ (path : String) (leaf : Leaf), (LabelTree.alone leaf (Text.parts path)).toNode.Filled ∧
      ∀ labels other, (LabelTree.alone leaf (Text.parts path)).toNode.descend labels =
        some (.leaf other) ↔ labels = Text.parts path ∧ other = leaf) ∧
    ∀ steps : List Step,
      (∀ layers, List.Forall₂ Step.Adds steps layers →
        (o.build steps).queryTree = .ok (layers.foldl LabelTree.merge tree)) ∧
      ((∀ first later, steps = first ++ later → ∃ found, (o.build first).queryTree = .ok found) ↔
        ∃ layers, List.Forall₂ Step.Adds steps layers) := by
  refine ⟨fun path oid operators => ⟨fun found => queryTree_withLeaf_eq_ok_iff h, ?_⟩,
    fun path leaf => ?_, fun steps => ⟨fun layers hlayers => queryTree_build hlayers h, ?_⟩⟩
  · exact fun failure => kind_of_queryTree_error
  · rw [LabelTree.toNode_alone leaf (Text.parts_ne_nil path)]
    exact ⟨LabelNode.filled_alone leaf _, fun labels other => LabelNode.descend_alone_iff⟩
  · exact exists_layers_iff h steps

/-- A definition with a leaf where a group is to stand. -/
def flatProcessors : ClassOverlay := (named "host").withLeaf "cpu" "1.1" []

theorem group_takes_place_of_processors :
    let steps : List Step := [.parent "unix", .leaf "cpu.load" ".1.2" [], .leaf "cpu.heat" "1.3" []]
    ∃ tree found, flatProcessors.queryTree = .ok tree ∧
      (flatProcessors.build steps).queryTree = .ok found ∧
      ((tree.lookup "cpu").bind LabelNode.leaf?).isSome = true ∧
      (found.lookup "cpu").bind LabelNode.leaf? = none ∧
      ((found.lookup "cpu.load").bind LabelNode.leaf?).map (fun leaf => leaf.oid.text) = some "1.2" ∧
      ∃ failure, (flatProcessors.withLeaf "cpu..load" "1.2" []).queryTree = .error failure ∧
        failure.kind = .invalidClass := by
  intro steps
  let load : Oid := ⟨[['1'], ['2']], by simp, by decide⟩
  let heat : Oid := ⟨[['1'], ['3']], by simp, by decide⟩
  let layers : List QueryTree := [LabelTree.empty, LabelTree.alone ⟨load, []⟩ ["cpu", "load"],
    LabelTree.alone ⟨heat, []⟩ ["cpu", "heat"]]
  have hlayers : List.Forall₂ Step.Adds steps layers :=
    .cons (.parent "unix") (.cons (.leaf (by decide) rfl) (.cons (.leaf (by decide) rfl) .nil))
  obtain ⟨tree, htree, hflat, hgroup, hload⟩ : ∃ tree, flatProcessors.queryTree = .ok tree ∧
      ((tree.lookup "cpu").bind LabelNode.leaf?).isSome = true ∧
      ((layers.foldl LabelTree.merge tree).lookup "cpu").bind LabelNode.leaf? = none ∧
      (((layers.foldl LabelTree.merge tree).lookup "cpu.load").bind LabelNode.leaf?).map
        (fun leaf => leaf.oid.text) = some "1.2" := ⟨_, rfl, rfl, rfl, rfl⟩
  obtain ⟨hleaf, -, hsteps⟩ := builder_steps_are_merges htree
  obtain ⟨hcompiles, hrefuses⟩ := hleaf "cpu..load" "1.2" []
  refine ⟨tree, _, htree, (hsteps steps).1 layers hlayers, hflat, hgroup, hload, ?_⟩
  cases hbuilt : (flatProcessors.withLeaf "cpu..load" "1.2" []).queryTree with
  | error failure => exact ⟨failure, rfl, hrefuses failure hbuilt⟩
  | ok found => exact absurd rfl (((hcompiles found).mp hbuilt).1 "" (by decide))

end ClassOverlay
end DevicePoll
