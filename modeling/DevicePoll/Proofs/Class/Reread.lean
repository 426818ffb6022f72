import DevicePoll.Proofs.Class.Written

/-! Whole class definitions that are written and read again. A part that is left out of what is written
is one that a definition without it has as well. -/
namespace DevicePoll

open Document (Rearranges)

variable {tree : Document → Document}

namespace Component

theorem ofLabel?_label (component : Component) : ofLabel? component.label = some component := by
  cases component <;> rfl

theorem label_inj {a b : Component} (h : a.label = b.label) : a = b :=
  Option.some.inj (by rw [← ofLabel?_label a, ← ofLabel?_label b, h])

end Component

namespace ClassOverlay

/-- The definition as it is read again. -/
def signed (o : ClassOverlay) : ClassOverlay :=
  { o with properties := NodeSpec.signedTree o.properties }

/-- All reals of the definition are finite. -/
def IsFinite (o : ClassOverlay) : Prop := NodeSpec.IsFinite o.properties.toNode

/-! ### Flags -/

theorem readFlagEntries_of_agree {target : Component → Option Bool}
    {entries : List (String × Document)} {flags : Component → Option Bool}
    (h : ∀ e ∈ entries, ∃ component enabled, e = (component.label, .boolean enabled) ∧
      target component = some enabled) :
    readFlagEntries entries flags = .ok fun component =>
      if component.label ∈ entries.map Prod.fst then target component else flags component := by
  induction entries generalizing flags with
  | nil => simp [readFlagEntries]
  | cons e entries ih =>
    obtain ⟨⟨component, enabled, rfl, htarget⟩, htail⟩ := List.forall_mem_cons.mp h
    simp only [readFlagEntries, Component.ofLabel?_label, Document.asFlag]
    rw [ih htail]
    refine congrArg Except.ok (funext fun other => ?_)
    by_cases hother : other = component
    · subst hother
      simp [htarget]
    · have hlabel : other.label ≠ component.label := fun heq => hother (Component.label_inj heq)
      simp only [List.map_cons, List.mem_cons, hother, hlabel, false_or, if_false]

theorem mem_mentioned {o : ClassOverlay} {component : Component} {enabled : Bool} :
    (component, enabled) ∈ o.mentioned ↔ o.flags component = some enabled := by
  rw [mentioned, List.mem_filterMap]
  constructor
  · rintro ⟨other, -, hflag⟩
    obtain ⟨found, hfound, heq⟩ := Option.map_eq_some_iff.mp hflag
    cases heq
    exact hfound
  · intro hflag
    exact ⟨component, component.mem_all, by rw [hflag]; rfl⟩

theorem nodup_mentioned (o : ClassOverlay) :
    ((o.mentioned.map fun e => (e.1.label, Document.boolean e.2)).map Prod.fst).Nodup := by
  have hlabels : ((o.mentioned.map fun e => (e.1.label, Document.boolean e.2)).map Prod.fst) =
      Component.all.filterMap fun component => (o.flags component).map fun _ => component.label := by
    rw [List.map_map, mentioned, List.map_filterMap]
    refine List.filterMap_congr fun component _ => ?_
    cases o.flags component <;> rfl
  rw [hlabels]
  refine List.Nodup.filterMap (fun a b label ha hb => ?_) (by decide)
  obtain ⟨_, -, rfl⟩ := Option.map_eq_some_iff.mp ha
  obtain ⟨_, -, heq⟩ := Option.map_eq_some_iff.mp hb
  exact Component.label_inj heq.symm

theorem readFlags_write (htree : Rearranges tree) (o : ClassOverlay) :
    readFlags (tree (.object (o.mentioned.map fun e => (e.1.label, .boolean e.2)))) =
      .ok o.flags := by
  obtain ⟨moved, heq, hmoved⟩ := htree.object o.nodup_mentioned
  have hagree : ∀ e ∈ moved, ∃ component enabled, e = (component.label, .boolean enabled) ∧
      o.flags component = some enabled := by
    intro e he
    rw [hmoved.mem_iff, List.map_map] at he
    obtain ⟨mentioned, hmem, rfl⟩ := List.mem_map.mp he
    exact ⟨mentioned.1, mentioned.2, Prod.ext rfl (htree.boolean _), mem_mentioned.mp hmem⟩
  have hread : readFlagEntries moved (fun _ => none) = .ok o.flags := by
    rw [readFlagEntries_of_agree hagree]
    refine congrArg Except.ok (funext fun component => ?_)
    split
    · rfl
    · next habsent =>
      cases hflag : o.flags component with
      | none => rfl
      | some enabled =>
        refine absurd ?_ habsent
        rw [(hmoved.map Prod.fst).mem_iff, List.map_map, List.map_map]
        exact List.mem_map.mpr ⟨(component, enabled), mem_mentioned.mpr hflag, rfl⟩
  rw [heq, readFlags]
  exact hread

/-! ### Properties -/

theorem readProperties_write (htree : Rearranges tree) {o : ClassOverlay} (h : o.IsFinite) :
    readProperties (tree (NodeSpec.write o.properties.toNode)) = .ok o.signed.properties := by
  obtain ⟨moved, heq, hmoved⟩ := htree.object (NodeSpec.nodup_writeEntries o.properties)
  obtain ⟨hagree, hlabels⟩ := NodeSpec.rearranged_entries
    (fun label mem => NodeSpec.read?_write htree (h label mem)) hmoved
  have hread : ∀ e ∈ moved, ∃ node, NodeSpec.read e.2 = .ok node ∧
      o.signed.properties.get? e.1 = some node := by
    intro e he
    obtain ⟨node, hnode, hget⟩ := hagree e he
    exact ⟨node, by rw [NodeSpec.read, hnode], hget⟩
  obtain ⟨nodes, hnodes, hkeys, hall⟩ := mapM_entries_of_agree hread
  have htree : LabelTree.ofList nodes = o.signed.properties := by
    refine LabelTree.ofList_eq_of_agree hall fun label hlabel => ?_
    rw [hkeys]
    exact hlabels label hlabel
  calc readProperties (tree (NodeSpec.write o.properties.toNode))
      = readProperties (.object moved) := congrArg readProperties heq
    _ = .ok (LabelTree.ofList nodes) := by
      simp only [readProperties, Document.asObject, bind, Except.bind, hnodes]
      rfl
    _ = .ok o.signed.properties := by rw [htree]

/-! ### Whole definitions -/

/-- The definition with the part of a label from another one. -/
def take (target o : ClassOverlay) (label : String) : ClassOverlay where
  name := if label = "name" then target.name else o.name
  parent := if label = "parent" then target.parent else o.parent
  flags := if label = "components" then target.flags else o.flags
  properties := if label = "properties" then target.properties else o.properties

theorem foldl_take (target : ClassOverlay) (labels : List String) (o : ClassOverlay) :
    labels.foldl (take target) o =
      ⟨if "name" ∈ labels then target.name else o.name,
        if "parent" ∈ labels then target.parent else o.parent,
        if "components" ∈ labels then target.flags else o.flags,
        if "properties" ∈ labels then target.properties else o.properties⟩ := by
  have hpart : ∀ {α : Type} (part label : String) (labels : List String) (new old : α),
      (if part ∈ labels then new else if label = part then new else old) =
        if part ∈ label :: labels then new else old := by
    intro α part label labels new old
    by_cases hlater : part ∈ labels
    · simp [hlater]
    · simp [hlater, eq_comm]
  induction labels generalizing o with
  | nil => rfl
  | cons label labels ih =>
    rw [List.foldl_cons, ih]
    simp only [take, hpart]

theorem foldlM_readPart {target : ClassOverlay} {entries : List (String × Document)}
    (h : ∀ e ∈ entries, ∀ o : ClassOverlay, o.readPart e.1 e.2 = .ok (take target o e.1))
    (o : ClassOverlay) :
    entries.foldlM (fun overlay e => overlay.readPart e.1 e.2) o =
      .ok ((entries.map Prod.fst).foldl (take target) o) := by
  induction entries generalizing o with
  | nil => rfl
  | cons e entries ih =>
    obtain ⟨hhead, htail⟩ := List.forall_mem_cons.mp h
    rw [List.foldlM_cons, hhead]
    exact ih htail (take target o e.1)

/-- What is written for a definition. -/
def writtenEntries (o : ClassOverlay) : List (String × Document) :=
  let flags := o.mentioned.map fun e => (e.1.label, Document.boolean e.2)
  ("name", .text o.name) ::
    (match o.parent with
      | none => []
      | some parent => [("parent", .text parent)]) ++
    (if flags.isEmpty then [] else [("components", .object flags)]) ++
    (if o.properties.isEmpty then []
      else [("properties", NodeSpec.write o.properties.toNode)])

theorem nodup_writtenEntries (o : ClassOverlay) : (o.writtenEntries.map Prod.fst).Nodup := by
  unfold writtenEntries
  cases o.parent <;> dsimp only <;> split <;> split <;> simp

theorem mem_writtenEntries {o : ClassOverlay} {e : String × Document} (he : e ∈ o.writtenEntries) :
    e = ("name", .text o.name) ∨ (∃ parent, o.parent = some parent ∧ e = ("parent", .text parent)) ∨
      e = ("components", .object (o.mentioned.map fun e => (e.1.label, .boolean e.2))) ∨
      e = ("properties", NodeSpec.write o.properties.toNode) := by
  rw [writtenEntries, List.cons_append, List.cons_append, List.mem_cons, List.mem_append,
    List.mem_append] at he
  rcases he with hname | (hparent | hcomponents) | hproperties
  · exact .inl hname
  · cases hfound : o.parent with
    | none => simp [hfound] at hparent
    | some parent => exact .inr (.inl ⟨parent, rfl, by simpa [hfound] using hparent⟩)
  · split at hcomponents
    · simp at hcomponents
    · exact .inr (.inr (.inl (List.mem_singleton.mp hcomponents)))
  · split at hproperties
    · simp at hproperties
    · exact .inr (.inr (.inr (List.mem_singleton.mp hproperties)))

theorem readPart_writtenEntries (htree : Rearranges tree) {o : ClassOverlay} (h : o.IsFinite)
    {e : String × Document} (he : e ∈ o.writtenEntries) (acc : ClassOverlay) :
    acc.readPart e.1 (tree e.2) = .ok (take o.signed acc e.1) := by
  rcases mem_writtenEntries he with rfl | ⟨parent, hparent, rfl⟩ | rfl | rfl
  · simp only [htree.text]
    rfl
  · have htarget : o.signed.parent = some parent := hparent
    simp only [htree.text, take, htarget]
    rfl
  · simp only [readPart, readFlags_write htree o]
    rfl
  · simp only [readPart, readProperties_write htree h]
    rfl

theorem flags_eq_none {o : ClassOverlay} (h : o.mentioned = []) : o.flags = fun _ => none := by
  funext component
  cases hflag : o.flags component with
  | none => rfl
  | some enabled =>
    have hmem := mem_mentioned.mpr hflag
    rw [h] at hmem
    simp at hmem

theorem signedTree_eq_empty {t : LabelTree LeafSpec} (h : t.isEmpty = true) :
    NodeSpec.signedTree t = LabelTree.empty := by
  refine LabelTree.ext_get? fun label => ?_
  have hlabels : t.labels.entries = [] := List.isEmpty_iff.mp h
  have habsent : ¬label ∈ (NodeSpec.signedTree t).labels := by
    intro hmem
    have hkey : label ∈ t.labels.keys := LabelSet.mem_keys.mpr hmem
    rw [SortedMap.keys, hlabels] at hkey
    simp at hkey
  rw [LabelTree.get?_eq_none habsent, LabelTree.get?_empty]

/-- A definition is that of its parts: one that is left out is as in a definition without it. -/
theorem foldl_take_named (o : ClassOverlay) {labels : List String}
    (hlabels : ∀ label, label ∈ labels ↔ label ∈ o.writtenEntries.map Prod.fst) :
    labels.foldl (take o.signed) (named "") = o.signed := by
  have hname : "name" ∈ o.writtenEntries.map Prod.fst := by simp [writtenEntries]
  have hparent : "parent" ∉ o.writtenEntries.map Prod.fst → o.signed.parent = none := by
    intro habsent
    cases hfound : o.parent with
    | none => exact hfound
    | some parent => simp [writtenEntries, hfound] at habsent
  have hflags : "components" ∉ o.writtenEntries.map Prod.fst → o.signed.flags = fun _ => none := by
    intro habsent
    show o.flags = _
    refine flags_eq_none (Classical.byContradiction fun hmentioned => habsent ?_)
    simp [writtenEntries, hmentioned]
  have hproperties : "properties" ∉ o.writtenEntries.map Prod.fst →
      o.signed.properties = LabelTree.empty := by
    intro habsent
    refine signedTree_eq_empty (Classical.byContradiction fun hfilled => habsent ?_)
    simp [writtenEntries, hfilled]
  rw [foldl_take]
  simp only [hlabels, hname, if_true, named]
  rw [ite_eq_left_iff.mpr fun habsent => (hparent habsent).symm,
    ite_eq_left_iff.mpr fun habsent => (hflags habsent).symm,
    ite_eq_left_iff.mpr fun habsent => (hproperties habsent).symm]

/-- A definition that is written and read again. -/
theorem read_write (htree : Rearranges tree) {o : ClassOverlay} (h : o.IsFinite) :
    read (tree o.write) = .ok o.signed := by
  obtain ⟨moved, heq, hmoved, hrepeated, hlookup⟩ := htree.lookups o.nodup_writtenEntries
  have hlabels : ∀ label, label ∈ moved.map Prod.fst ↔ label ∈ o.writtenEntries.map Prod.fst := by
    intro label
    rw [(hmoved.map Prod.fst).mem_iff, List.map_map]
    rfl
  have hparts : ∀ e ∈ moved, ∀ acc : ClassOverlay,
      acc.readPart e.1 e.2 = .ok (take o.signed acc e.1) := by
    intro e he acc
    obtain ⟨entry, hentry, rfl⟩ := List.mem_map.mp (hmoved.mem_iff.mp he)
    exact readPart_writtenEntries htree h hentry acc
  have hread : readParts moved = .ok o.signed := by
    rw [readParts, foldlM_readPart hparts, foldl_take_named o hlabels]
  have hname : (Document.lookup? "name" moved).isSome = true := by
    rw [hlookup, (Document.lookup?_eq_some_iff o.nodup_writtenEntries).mpr List.mem_cons_self]
    rfl
  calc read (tree o.write) = read (.object moved) := congrArg read heq
    _ = .ok o.signed := by
      rw [read, hread]
      simp only [bind, Except.bind, hrepeated, hname, if_true]

end ClassOverlay
end DevicePoll
