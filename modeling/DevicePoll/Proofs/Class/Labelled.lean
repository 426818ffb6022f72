import DevicePoll.Proofs.Class.Compiled
import DevicePoll.Proofs.Class.Construction
import DevicePoll.Proofs.LabelTree.Labelled

/-! Paths through the trees of a catalog. Definitions compile only with labels that can stand in a dotted
path, and merging keeps such labels. So every node of a class is found by one dotted path, which is the
path of no other node. -/
namespace DevicePoll

theorem NodeSpec.Compiles.labelled {spec : NodeSpec} {node : QueryNode} (h : Compiles spec node) :
    node.Labelled := by
  induction h with
  | leaf _ => exact .leaf _
  | group hlabels _ ih => exact .group hlabels ih

/-- A tree that a definition compiles to, or that such trees are merged to. -/
inductive QueryTree.Defined : QueryTree → Prop
  | compiled {o : ClassOverlay} {tree : QueryTree} : o.queryTree = .ok tree → Defined tree
  | merged {lower upper : QueryTree} : Defined lower → Defined upper → Defined (lower.merge upper)

theorem QueryTree.Defined.labelled {tree : QueryTree} (h : tree.Defined) : tree.toNode.Labelled := by
  induction h with
  | compiled htree => exact (ClassOverlay.queryTree_eq_ok_iff.mp htree).labelled
  | merged _ _ ihlower ihupper =>
    rw [LabelTree.toNode_merge]
    apply ihupper.onto
    intro node hnode
    exact Option.some.inj hnode ▸ ihlower

/-- A class adds a tree of its own, and the merge of this tree over the one of its parent. -/
theorem Builds.defined {overlays : List ClassOverlay} {o : ClassOverlay} {c : DeviceClass}
    (h : Builds overlays o c) : ∀ tier ∈ c.tiers, tier.own.Defined ∧ tier.tree.Defined := by
  induction h with
  | root _ _ hc =>
    obtain ⟨own, hown, rfl⟩ := ofOverlay_eq_ok hc
    intro tier htier
    obtain rfl := List.mem_singleton.mp htier
    exact ⟨.compiled hown, .compiled hown⟩
  | @derived o above parent c _ _ _ hc ih =>
    obtain ⟨own, hown, rfl⟩ := ofOverlay_eq_ok hc
    have hparent : parent.tree.Defined := (ih parent.head List.mem_cons_self).2
    intro tier htier
    rcases List.mem_cons.mp htier with rfl | habove
    · exact ⟨.compiled hown, .merged hparent (.compiled hown)⟩
    · exact ih tier habove

namespace Catalog

/-- Dotted paths tell the nodes of a catalog apart. All trees of its classes are compiled from definitions
or merged from such trees. In any of these the labels on the way to a node are not empty and have no dots,
the node is found by these labels with dots between them, and no other node has this path; and what is
found by a path is a node to which the labels between its dots lead. -/
theorem dotted_paths_tell_nodes_apart :
    (∀ overlays catalog, ofOverlays overlays = .ok catalog → ∀ name c, catalog.get? name = some c →
      ∀ tier ∈ c.tiers, tier.own.Defined ∧ tier.tree.Defined) ∧
    ∀ tree : QueryTree, tree.Defined →
      (∀ labels node, tree.LeadsTo labels node →
        (∀ label ∈ labels, label ≠ "" ∧ '.' ∉ label.toList) ∧
        tree.lookup (Text.dotted labels) = some node ∧
        ∀ other found, tree.LeadsTo other found → Text.dotted other = Text.dotted labels →
          other = labels ∧ found = node) ∧
      ∀ path node, tree.lookup path = some node →
        ∃ labels, tree.LeadsTo labels node ∧ path = Text.dotted labels := by
  refine ⟨fun overlays catalog hcatalog name c hget => ?_, fun tree htree => ⟨?_, ?_⟩⟩
  · obtain ⟨o, -, -, hbuilds⟩ := (get?_ofOverlays hcatalog).mp hget
    exact hbuilds.defined
  · intro labels node hleads
    refine ⟨fun label hlabel => ?_, hleads.lookup htree.labelled, ?_⟩
    · exact Text.isLabel_iff.mp (hleads.isLabel htree.labelled label hlabel)
    · intro other found hother hpath
      exact hleads.unique htree.labelled hother hpath
  · intro path node hlookup
    exact ⟨Text.parts path, LabelTree.leadsTo_of_lookup hlookup, (Text.dotted_parts path).symm⟩

/-- A class that reads the load of its processors. -/
def plainHost : ClassOverlay := (ClassOverlay.named "host").withLeaf "cpu.load" "1.1" []

/-- A class below it that reads their temperature as well. -/
def warmHost : ClassOverlay :=
  ((ClassOverlay.named "host/warm").withParent "host").withLeaf "cpu.temperature" "1.2" []

theorem merged_processors_have_two_paths : ∃ catalog c load temperature,
    ofOverlays [plainHost, warmHost] = .ok catalog ∧ catalog.get? "host/warm" = some c ∧
    c.tree.Defined ∧ c.tree.LeadsTo ["cpu", "load"] load ∧
    (∀ label ∈ ["cpu", "load"], label ≠ "" ∧ '.' ∉ label.toList) ∧
    c.tree.lookup (Text.dotted ["cpu", "load"]) = some load ∧
    c.tree.LeadsTo ["cpu", "temperature"] temperature ∧
    Text.dotted ["cpu", "temperature"] ≠ Text.dotted ["cpu", "load"] ∧
    ∃ labels, c.tree.LeadsTo labels load ∧ "cpu.load" = Text.dotted labels := by
  obtain ⟨catalog, c, load, temperature, hcatalog, hclass, hload, htemperature⟩ :
      ∃ catalog c load temperature, ofOverlays [plainHost, warmHost] = .ok catalog ∧
        catalog.get? "host/warm" = some c ∧ c.tree.lookup "cpu.load" = some load ∧
        c.tree.lookup "cpu.temperature" = some temperature :=
    ⟨_, _, _, _, ofOverlays_of_round rfl, rfl, rfl, rfl⟩
  have hleads : c.tree.LeadsTo ["cpu", "load"] load := LabelTree.leadsTo_of_lookup hload
  have hbeside : c.tree.LeadsTo ["cpu", "temperature"] temperature :=
    LabelTree.leadsTo_of_lookup htemperature
  obtain ⟨hdefined, hpaths⟩ := dotted_paths_tell_nodes_apart
  have htree := (hdefined _ _ hcatalog _ _ hclass c.head List.mem_cons_self).2
  obtain ⟨hnodes, hfound⟩ := hpaths c.tree htree
  obtain ⟨hlabels, hlookup, hunique⟩ := hnodes _ _ hleads
  refine ⟨catalog, c, load, temperature, hcatalog, hclass, htree, hleads, hlabels, hlookup, hbeside,
    fun hpath => ?_, hfound _ _ hload⟩
  exact absurd (hunique _ _ hbeside hpath).1 (by decide)

end Catalog
end DevicePoll
