import DevicePoll.Proofs.Class.Layered

/-! What the classes of a catalog are. Parent names lead from every definition up to a root; the class
of the definition has the names of these definitions for its lineage, their trees layered from the
root down for its tree, and the flag of the nearest one that mentions a component. -/
namespace DevicePoll

/-- The definitions that parent names lead to, from one definition up to one without a parent. -/
inductive Ascent (overlays : List ClassOverlay) : List ClassOverlay → Prop where
  | root {o : ClassOverlay} : o ∈ overlays → o.parent = none → Ascent overlays [o]
  | derived {o above : ClassOverlay} {farther : List ClassOverlay} : o ∈ overlays →
      o.parent = some above.name → Ascent overlays (above :: farther) →
      Ascent overlays (o :: above :: farther)

namespace Ascent
variable {overlays : List ClassOverlay} {o : ClassOverlay} {line line' : List ClassOverlay}

theorem mem (h : Ascent overlays (o :: line)) : o ∈ overlays := by
  cases h <;> assumption

/-- With distinct names there is one way up from a definition. -/
theorem unique (hdistinct : (overlays.map ClassOverlay.name).Nodup)
    (h : Ascent overlays (o :: line)) (h' : Ascent overlays (o :: line')) : line = line' := by
  induction line generalizing o line' with
  | nil =>
    cases h with
    | root _ hparent =>
      cases h' with
      | root => rfl
      | derived _ hparent' _ =>
        rw [hparent] at hparent'
        cases hparent'
  | cons above farther ih =>
    cases h with
    | derived _ hparent habove =>
      cases h' with
      | root _ hparent' =>
        rw [hparent] at hparent'
        cases hparent'
      | derived _ hparent' habove' =>
        have hname := Option.some.inj (hparent.symm.trans hparent')
        obtain rfl := eq_of_name_eq hdistinct habove.mem habove'.mem hname
        rw [ih habove habove']

end Ascent

/-- What a class has from the definitions of an ascent. -/
structure DeviceClass.Realizes (c : DeviceClass) (line : List ClassOverlay) (own : QueryTree)
    (above : List QueryTree) : Prop where
  compiled : List.Forall₂ (fun o tree => o.queryTree = .ok tree) line (own :: above)
  lineage : c.lineage = line.map ClassOverlay.name
  declared : c.head.own = own
  tree : ∃ root below, (own :: above).reverse = root :: below ∧
    c.tree = below.foldl LabelTree.merge root
  flags : ∀ component, c.hasComponent component =
    (line.findSome? fun o => o.flags component).getD false

namespace DeviceClass.Realizes
variable {c parent : DeviceClass} {o : ClassOverlay} {line : List ClassOverlay}
  {own parentOwn : QueryTree} {above : List QueryTree}

theorem root (hown : o.queryTree = .ok own) :
    (DeviceClass.root o.name own o.flags).Realizes [o] own [] where
  compiled := .cons hown .nil
  lineage := rfl
  declared := rfl
  tree := ⟨own, [], rfl, rfl⟩
  flags component := by
    cases hflag : o.flags component <;> simp [DeviceClass.root, DeviceClass.hasComponent, hflag]

/-- A class adds its own definition below those of its parent. -/
theorem derive (h : parent.Realizes line parentOwn above) (hown : o.queryTree = .ok own) :
    (parent.derive o.name own o.flags).Realizes (o :: line) own (parentOwn :: above) where
  compiled := .cons hown h.compiled
  lineage := congrArg (o.name :: ·) h.lineage
  declared := rfl
  tree := by
    obtain ⟨root, below, hsplit, htree⟩ := h.tree
    refine ⟨root, below ++ [own], ?_, ?_⟩
    · rw [List.reverse_cons, hsplit, List.cons_append]
    · have hmerged : (parent.derive o.name own o.flags).tree = parent.tree.merge own := rfl
      rw [hmerged, htree, List.foldl_append]
      rfl
  flags component := by
    have hparent := h.flags component
    cases hflag : o.flags component <;>
      simp [DeviceClass.derive, DeviceClass.hasComponent, hflag, ← hparent]

/-- The nearest definition that mentions a component decides on it. -/
theorem hasComponent_iff (h : c.Realizes line own above) (component : Component) :
    c.hasComponent component = true ↔ ∃ nearer q farther, line = nearer ++ q :: farther ∧
      q.flags component = some true ∧ ∀ x ∈ nearer, x.flags component = none := by
  rw [← List.findSome?_eq_some_iff, h.flags]
  cases line.findSome? fun o => o.flags component <;> simp

end DeviceClass.Realizes

theorem Builds.realizes {overlays : List ClassOverlay} {o : ClassOverlay} {c : DeviceClass}
    (h : Builds overlays o c) : ∃ line own above,
      Ascent overlays (o :: line) ∧ c.Realizes (o :: line) own above := by
  induction h with
  | root hmem hparent hc =>
    obtain ⟨own, hown, rfl⟩ := ofOverlay_eq_ok hc
    exact ⟨[], own, [], .root hmem hparent, .root hown⟩
  | derived hmem hparent _ hc ih =>
    obtain ⟨line, parentOwn, above, hascent, hrealizes⟩ := ih
    obtain ⟨own, hown, rfl⟩ := ofOverlay_eq_ok hc
    exact ⟨_, own, _, .derived hmem hparent hascent, hrealizes.derive hown⟩

/-- A node that a class declares is in its merged tree: a leaf as it is, and a group with whatever
the ancestors add to it. -/
theorem DeviceClass.Constructed.lookup_of_own {c : DeviceClass} (h : c.Constructed) {path : String}
    {node : QueryNode} (hnode : c.head.own.lookup path = some node) :
    ∃ base, c.tree.lookup path = some (node.onto base) := by
  cases h with
  | root name own flags => exact ⟨none, by rw [LabelNode.onto_none]; exact hnode⟩
  | derive name own flags _ => exact ⟨_, LabelTree.lookup_merge_of_some hnode⟩

namespace Catalog

theorem keys_perm {overlays : List ClassOverlay} {catalog : Catalog}
    (h : ofOverlays overlays = .ok catalog) :
    catalog.keys.Perm (overlays.map ClassOverlay.name) := by
  have hwell := ofOverlays_ok_iff_wellDefined.mp ⟨catalog, h⟩
  have hkeys : catalog.keys.Nodup := by
    refine List.Pairwise.map _ (fun a b hlt heq => ?_) catalog.ascending
    rw [heq] at hlt
    exact LinearKey.irrefl _ hlt
  refine (List.perm_ext_iff_of_nodup hkeys hwell.distinct).mpr fun name => ?_
  rw [SortedMap.mem_keys_iff, Option.isSome_iff_exists, List.mem_map]
  constructor
  · rintro ⟨c, hc⟩
    obtain ⟨o, ho, hname, -⟩ := (get?_ofOverlays h).mp hc
    exact ⟨o, ho, hname⟩
  · rintro ⟨o, ho, rfl⟩
    obtain ⟨built, hstage⟩ := (Stage.begin overlays).rounds h
    rcases hstage.mem_built_or_pending ho with hbuilt | hpending
    · obtain ⟨c, hc, -⟩ := hstage.entry o hbuilt
      exact ⟨c, hc⟩
    · cases hpending

/-- The classes of a catalog. There is one for each definition, and it is made of the definitions
that parent names lead to: their names are its lineage, their trees layered from the root down are
its tree, what the first of them holds is what it declares, and a component is advertised if the
nearest definition that mentions it enables it. -/
theorem classes_are_layered_definitions {overlays : List ClassOverlay} {catalog : Catalog}
    (hcatalog : ofOverlays overlays = .ok catalog) :
    catalog.keys.Perm (overlays.map ClassOverlay.name) ∧
    ∀ name c, catalog.get? name = some c → ∃ o line own above root below,
      o.name = name ∧ Ascent overlays (o :: line) ∧
      (∀ line', Ascent overlays (o :: line') → line' = line) ∧
      List.Forall₂ (fun q tree => q.queryTree = .ok tree) (o :: line) (own :: above) ∧
      c.lineage = (o :: line).map ClassOverlay.name ∧
      (own :: above).reverse = root :: below ∧ c.tree = below.foldl LabelTree.merge root ∧
      (∀ path,
        (c.declares path = true ↔ ∃ node, own.lookup path = some node) ∧
        (∀ leaf, own.lookup path = some (.leaf leaf) →
          c.tree.lookup path = some (.leaf leaf)) ∧
        (∀ labels child, own.lookup path = some (.group labels child) →
          ∃ labels' child', c.tree.lookup path = some (.group labels' child'))) ∧
      ∀ component, c.hasComponent component = true ↔ ∃ nearer q farther,
        o :: line = nearer ++ q :: farther ∧ q.flags component = some true ∧
          ∀ x ∈ nearer, x.flags component = none := by
  refine ⟨keys_perm hcatalog, fun name c hclass => ?_⟩
  have hdistinct := (ofOverlays_ok_iff_wellDefined.mp ⟨catalog, hcatalog⟩).distinct
  have hconstructed := constructed_of_get? hcatalog hclass
  obtain ⟨o, -, hname, hbuilds⟩ := (get?_ofOverlays hcatalog).mp hclass
  obtain ⟨line, own, above, hascent, hrealizes⟩ := hbuilds.realizes
  obtain ⟨root, below, hsplit, htree⟩ := hrealizes.tree
  refine ⟨o, line, own, above, root, below, hname, hascent,
    fun line' hascent' => hascent'.unique hdistinct hascent, hrealizes.compiled,
    hrealizes.lineage, hsplit, htree, fun path => ⟨?declared, ?leaf, ?group⟩,
    hrealizes.hasComponent_iff⟩
  case declared =>
    rw [DeviceClass.declares, Tier.declares, hrealizes.declared, Option.isSome_iff_exists]
  case leaf =>
    intro leaf hleaf
    obtain ⟨base, hbase⟩ := hconstructed.lookup_of_own (hrealizes.declared ▸ hleaf)
    exact hbase
  case group =>
    intro labels child hgroup
    obtain ⟨base, hbase⟩ := hconstructed.lookup_of_own (hrealizes.declared ▸ hgroup)
    obtain ⟨labels', child', honto⟩ := LabelNode.onto_group labels child base
    exact ⟨labels', child', by rw [hbase, honto]⟩

/-- A class that reads the load of its processors. -/
def loadedHost : ClassOverlay :=
  ((ClassOverlay.named "host").withComponent .cpu true).withLeaf "cpu.load"
    "1.3.6.1.2.1.25.3.3.1.2" []

/-- A class below it that does not show its processors, but reads their temperature. -/
def quietHost : ClassOverlay :=
  (((ClassOverlay.named "host/quiet").withParent "host").withComponent .cpu false).withLeaf
    "cpu.temperature" "1.3.6.1.4.1.2021.13.16" []

theorem quiet_host_hides_its_processors : ∃ catalog c own root,
    ofOverlays [loadedHost, quietHost] = .ok catalog ∧ catalog.get? "host/quiet" = some c ∧
    catalog.keys.Perm ["host", "host/quiet"] ∧ c.lineage = ["host/quiet", "host"] ∧
    quietHost.queryTree = .ok own ∧ loadedHost.queryTree = .ok root ∧ c.tree = root.merge own ∧
    c.declares "cpu.load" = false ∧ c.hasComponent .cpu = false := by
  obtain ⟨catalog, c, hcatalog, hclass⟩ : ∃ catalog c,
      ofOverlays [loadedHost, quietHost] = .ok catalog ∧ catalog.get? "host/quiet" = some c :=
    ⟨_, _, ofOverlays_of_round rfl, rfl⟩
  obtain ⟨hkeys, hclasses⟩ := classes_are_layered_definitions hcatalog
  obtain ⟨o, line, own, above, root, below, hname, hascent, hunique, hcompiled, hlineage, hsplit,
    htree, hpaths, hflags⟩ := hclasses "host/quiet" c hclass
  obtain rfl : o = quietHost := by
    rcases List.mem_pair.mp hascent.mem with rfl | rfl
    · exact absurd hname (by decide)
    · rfl
  obtain rfl : [loadedHost] = line :=
    hunique _ (.derived (by simp) rfl (.root (by simp) rfl))
  obtain ⟨_, _, hown, habove, heq⟩ := List.forall₂_cons_left_iff.mp hcompiled
  obtain ⟨rfl, rfl⟩ := List.cons.inj heq
  obtain ⟨_, _, hroot, hnil, rfl⟩ := List.forall₂_cons_left_iff.mp habove
  obtain rfl := List.forall₂_nil_left_iff.mp hnil
  obtain ⟨rfl, rfl⟩ := List.cons.inj hsplit
  have hload : c.declares "cpu.load" = false := by
    have hnone : (quietHost.queryTree.map fun tree => (tree.lookup "cpu.load").isNone) = .ok true :=
      rfl
    rw [hown] at hnone
    refine Bool.eq_false_iff.mpr fun hdeclares => ?_
    obtain ⟨node, hnode⟩ := (hpaths "cpu.load").1.mp hdeclares
    simp [Except.map, hnode] at hnone
  -- The definition itself mentions the processors, so the one above it is not asked.
  have hcpu : c.hasComponent .cpu = false := by
    refine Bool.eq_false_iff.mpr fun hshown => ?_
    obtain ⟨_ | ⟨x, nearer⟩, q, farther, heq, henabled, hnone⟩ := (hflags .cpu).mp hshown
    · obtain ⟨rfl, -⟩ := List.cons.inj heq
      cases henabled
    · obtain ⟨rfl, -⟩ := List.cons.inj heq
      cases hnone _ List.mem_cons_self
  exact ⟨catalog, c, own, _, hcatalog, hclass, hkeys, hlineage, hown, hroot, htree, hload, hcpu⟩

end Catalog
end DevicePoll
