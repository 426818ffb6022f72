import DevicePoll.Proofs.Class.Compile
import DevicePoll.Proofs.Document.Checked
import DevicePoll.Proofs.LabelTree.Latest
import DevicePoll.Proofs.LabelTree.Merge

/-! Compiled definitions. Compiling keeps the shape of a definition: it checks every label and every
identifier where they stand. Hence it does not matter whether definitions are layered and then compiled,
or compiled and then layered. -/
namespace DevicePoll

theorem LabelTree.ofList_toList {α : Type} (t : LabelTree α) : ofList t.toList = t :=
  ofList_eq_of_agree (fun _ he => mem_toList_iff.mp he) fun label hlabel =>
    List.mem_map.mpr ⟨(label, t.child label hlabel), mem_toList_iff.mpr (get?_eq_some hlabel), rfl⟩

namespace NodeSpec

/-- The node is that of the definition, whose labels and identifiers are all in order. -/
inductive Compiles : NodeSpec → QueryNode → Prop
  | leaf {spec : LeafSpec} {oid : Oid} : Oid.ofText spec.oid = .ok oid →
      Compiles (.leaf spec) (.leaf ⟨oid, spec.operators⟩)
  | group {labels : LabelSet} {child : (label : String) → label ∈ labels → NodeSpec}
      {node : (label : String) → label ∈ labels → QueryNode} :
      (∀ label ∈ labels, Text.isLabel label = true) →
      (∀ label h, Compiles (child label h) (node label h)) →
      Compiles (.group labels child) (.group labels node)

theorem compile_leaf (path : String) (spec : LeafSpec) : compile path (.leaf spec) =
    match Oid.ofText spec.oid with
    | .ok oid => .ok (.leaf ⟨oid, spec.operators⟩)
    | .error failure => .error (.within ("label '" ++ path ++ "'") failure) := rfl

theorem compile_group (path : String) (labels : LabelSet)
    (child : (label : String) → label ∈ labels → NodeSpec) : compile path (.group labels child) =
      (LabelTree.toNode ∘ LabelTree.ofList) <$> labels.members.mapM fun label =>
        if Text.isLabel label.1 then
          (label.1, ·) <$> compile (Text.extend path label.1) (child label.1 label.2)
        else Outcome.fails (.badLabel label.1 path) := rfl

theorem Compiles.compile {spec : NodeSpec} {node : QueryNode} (h : Compiles spec node)
    (path : String) : compile path spec = .ok node := by
  induction h generalizing path with
  | leaf hoid => rw [compile_leaf, hoid]
  | @group labels child node hlabels _ ih =>
    have hmembers : labels.members.mapM (fun label =>
        if Text.isLabel label.1 then
          (label.1, ·) <$> NodeSpec.compile (Text.extend path label.1) (child label.1 label.2)
        else Outcome.fails (.badLabel label.1 path)) =
          .ok (LabelTree.toList ⟨labels, node⟩) :=
      mapM_eq_ok fun label _ => by
        rw [if_pos (hlabels label.1 label.2), ih label.1 label.2]
        rfl
    rw [compile_group, hmembers]
    exact congrArg (fun t : QueryTree => Except.ok t.toNode) (LabelTree.ofList_toList _)

/-- A definition compiles to the node of its own shape and to no other. -/
theorem compile_eq_ok_iff {path : String} {spec : NodeSpec} {node : QueryNode} :
    compile path spec = .ok node ↔ Compiles spec node := by
  refine ⟨fun h => ?_, fun h => h.compile path⟩
  induction spec generalizing path node with
  | leaf spec =>
    rw [compile_leaf] at h
    cases hoid : Oid.ofText spec.oid with
    | ok oid =>
      rw [hoid] at h
      cases h
      exact .leaf hoid
    | error failure =>
      rw [hoid] at h
      cases h
  | group labels child ih =>
    have hcompiled := h
    rw [compile_group] at h
    obtain ⟨results, hresults, -⟩ := map_eq_ok h
    have hmember := exists_mapM_eq_ok_iff.mp ⟨results, hresults⟩
    have hlabel : ∀ label hlabel, Text.isLabel label = true ∧
        ∃ below, Compiles (child label hlabel) below := by
      intro label hlabel
      obtain ⟨e, he⟩ := hmember ⟨label, hlabel⟩ (LabelSet.mem_members labels _)
      split at he
      · next hvalid =>
        obtain ⟨below, hbelow, -⟩ := map_eq_ok he
        exact ⟨hvalid, below, ih label hlabel hbelow⟩
      · cases he
    choose hvalid node' hnode using hlabel
    have hgroup : Compiles (.group labels child) (.group labels node') := .group hvalid hnode
    rw [hgroup.compile path] at hcompiled
    exact Except.ok.inj hcompiled ▸ hgroup

theorem Compiles.unique {spec : NodeSpec} {a b : QueryNode} (ha : Compiles spec a)
    (hb : Compiles spec b) : a = b :=
  Except.ok.inj ((ha.compile "").symm.trans (hb.compile ""))

theorem Compiles.exists_tree {t : LabelTree LeafSpec} {node : QueryNode} (h : Compiles t.toNode node) :
    ∃ tree : QueryTree, node = tree.toNode := by
  obtain ⟨labels, child⟩ := t
  cases h
  exact ⟨⟨labels, _⟩, rfl⟩

/-- Layers of definitions compile to the layers of what they compile to. -/
theorem Compiles.onto {upper : NodeSpec} {node : QueryNode} (h : Compiles upper node)
    {lower : Option NodeSpec} {base : Option QueryNode} (hlower : Option.Rel Compiles lower base) :
    Compiles (upper.onto lower) (node.onto base) := by
  induction h generalizing lower base with
  | leaf hoid => exact .leaf hoid
  | @group labels child node hlabels hchild ih =>
    cases hlower with
    | none => exact .group hlabels hchild
    | some hbase =>
      cases hbase with
      | leaf hoid => exact .group hlabels hchild
      | @group others child' node' hothers hchild' =>
        refine .group (fun label hlabel => ?_) fun label hlabel => ?_
        · exact (LabelSet.mem_union.mp hlabel).elim (hothers label) (hlabels label)
        · by_cases hupper : label ∈ labels
          · simp only [dif_pos hupper]
            refine ih label hupper ?_
            by_cases hbelow : label ∈ others
            · simp only [dif_pos hbelow]
              exact .some (hchild' label hbelow)
            · simp only [dif_neg hbelow]
              exact .none
          · simp only [dif_neg hupper]
            exact hchild' label _

/-- Layers only compile if the upper one does, all of which they keep. -/
theorem exists_compiles_of_onto {upper : NodeSpec} {lower : Option NodeSpec} {node : QueryNode}
    (h : Compiles (upper.onto lower) node) : ∃ above, Compiles upper above := by
  induction upper generalizing lower node with
  | leaf spec => exact ⟨node, h⟩
  | group labels child ih =>
    match lower with
    | none => exact ⟨node, h⟩
    | some (.leaf spec) => exact ⟨node, h⟩
    | some (.group others child') =>
      cases h with
      | group hlabels hchild =>
        have habove : ∀ label hlabel, ∃ above, Compiles (child label hlabel) above := by
          intro label hlabel
          have hbelow := hchild label (LabelSet.mem_union.mpr (.inr hlabel))
          simp only [dif_pos hlabel] at hbelow
          exact ih label hlabel hbelow
        choose above habove using habove
        exact ⟨_, .group (fun label hlabel => hlabels label (LabelSet.mem_union.mpr (.inr hlabel)))
          habove⟩

end NodeSpec

/-- The query tree of a definition is what its properties compile to. -/
theorem ClassOverlay.queryTree_eq_ok_iff {o : ClassOverlay} {tree : QueryTree} :
    o.queryTree = .ok tree ↔ NodeSpec.Compiles o.properties.toNode tree.toNode := by
  constructor
  · intro h
    rw [queryTree] at h
    cases hnode : NodeSpec.compile "" o.properties.toNode with
    | error failure =>
      rw [hnode] at h
      cases h
    | ok node =>
      rw [hnode] at h
      have hcompiles := NodeSpec.compile_eq_ok_iff.mp hnode
      obtain ⟨found, rfl⟩ := hcompiles.exists_tree
      obtain rfl : found = tree := Except.ok.inj h
      exact hcompiles
  · intro h
    rw [queryTree, h.compile ""]
    rfl

end DevicePoll
