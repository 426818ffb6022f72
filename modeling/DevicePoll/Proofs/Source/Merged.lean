import DevicePoll.Proofs.Class.Layered
import DevicePoll.Proofs.Source.Declared
import DevicePoll.Proofs.Source.Scan

/-! Chains without overrides. The merged tree of a class and the chain of its class steps tell the
same story: the node that the merged tree holds at the path of a property is what the nearest
declaring class reads, and no other class is asked before it. -/
namespace DevicePoll

/-- The class as one tier without ancestors, defined by its merged tree. -/
def DeviceClass.flattened (c : DeviceClass) : Tier := { c.head with own := c.tree }

theorem DeviceClass.node?_flattened (c : DeviceClass) (path : String) :
    c.flattened.node? path = c.tree.lookup path := by
  cases h : c.tree.lookup path with
  | none => exact Tier.node?_of_not_declares (Tier.declares_eq_false_iff.mpr h)
  | some node => exact (Tier.node?_of_declares (Tier.declares_of_own h)).trans h

/-- Candidates that fail at once without implementing anything leave no trace in a scan. -/
theorem scan_append_of_absent {α : Type} {before : List (Candidate α)}
    (hbefore : ∀ b ∈ before, b.ask.FailsAtOnce .notImplemented) (rest : List (Candidate α)) :
    scan (before ++ rest) = scan rest := by
  induction before with
  | nil => rfl
  | cons b before ih =>
    obtain ⟨failure, hask, hkind⟩ := hbefore b List.mem_cons_self
    have hyields : failure.yields = true := by rw [Failure.yields, hkind]; rfl
    have hfound : failure.isNotFound = false := by rw [Failure.isNotFound, hkind]; rfl
    rw [List.cons_append, scan, hask, Reading.done_bind,
      ih fun d hd => hbefore d (List.mem_cons_of_mem _ hd)]
    simp only [Outcome.decides_error, hyields, Outcome.isNotFound_error, hfound, Verdict.after_false,
      Bool.not_true, Bool.false_eq_true, ↓reduceDIte]
    exact bind_pure (scan rest)

section Chain
variable (p : Property) (identity : Identity)

theorem candidates_empty (tiers : List Tier) :
    (candidates Registry.empty p identity tiers).map Candidate.ask =
      tiers.map fun t => (t.property p).run := by
  induction tiers with
  | nil => rfl
  | cons tier ancestors ih =>
    have hdeeper : Candidate.ask ∘ Candidate.deeper = (Candidate.ask : Candidate p.Value → _) := rfl
    have hnone : Registry.create Registry.empty tier.name
        (chainSource Registry.empty ancestors) = none := rfl
    rw [candidates, hnone, List.map_append, List.map_map, hdeeper, ih]
    rfl

end Chain

section Head
variable {c : DeviceClass} {p : Property} (identity : Identity)
  (hgate : p.gate c.hasComponent = .ok ())
include hgate

/-- With no overrides the head of a chain runs the step of the nearest declaring class, and goes on
only if that step does not decide. -/
theorem headSource_of_nearest {nearer farther : List Tier} {d : Tier}
    (hsplit : c.tiers = nearer ++ d :: farther)
    (hnearer : ∀ t ∈ nearer, (t.property p).run.FailsAtOnce .notImplemented) :
    ∃ (level : Nat) (fallback : Outcome p.Value → Reading (Outcome p.Value)),
      (headSource Registry.empty c p identity).run =
        (d.property p).run >>= fun outcome : Outcome p.Value =>
          if outcome.decides then .done (p.settle true level outcome) else fallback outcome := by
  have hasks := candidates_empty p identity c.tiers
  rw [hsplit, List.map_append, List.map_cons, List.map_eq_append_iff] at hasks
  obtain ⟨before, rest, hcandidates, hbefore, hrest⟩ := hasks
  obtain ⟨decider, after, rfl, hdecider, -⟩ := List.map_eq_cons_iff.mp hrest
  have habsent : ∀ b ∈ before, b.ask.FailsAtOnce .notImplemented := by
    intro b hb
    have hmem : b.ask ∈ nearer.map fun t => (t.property p).run :=
      hbefore ▸ List.mem_map_of_mem hb
    obtain ⟨t, ht, hask⟩ := List.mem_map.mp hmem
    rw [← hask]
    exact hnearer t ht
  refine ⟨decider.level, fun outcome => scan after >>= fun v =>
    .done (p.conclude true (v.after outcome.isNotFound)), ?_⟩
  rw [headSource_run _ _ _ _ hgate, hsplit, hcandidates, scan_append_of_absent habsent, scan,
    hdecider, bind_assoc]
  congr 1
  funext outcome
  by_cases ends : outcome.decides
  · simp only [ends, ↓reduceDIte, ↓reduceIte, Reading.done_bind, Property.conclude]
  · simp only [ends, Bool.false_eq_true, ↓reduceDIte, ↓reduceIte, bind_assoc, Reading.done_bind]

theorem headSource_of_absent
    (habsent : ∀ t ∈ c.tiers, (t.property p).run.FailsAtOnce .notImplemented) :
    (headSource Registry.empty c p identity).run.FailsAtOnce .notImplemented := by
  have hasks := candidates_empty p identity c.tiers
  have hall : ∀ b ∈ candidates Registry.empty p identity c.tiers,
      b.ask.FailsAtOnce .notImplemented := by
    intro b hb
    have hmem : b.ask ∈ c.tiers.map fun t => (t.property p).run :=
      hasks ▸ List.mem_map_of_mem hb
    obtain ⟨t, ht, hask⟩ := List.mem_map.mp hmem
    rw [← hask]
    exact habsent t ht
  have hscan := scan_append_of_absent hall []
  rw [List.append_nil] at hscan
  refine ⟨undecided p.wording false, ?_, rfl⟩
  rw [headSource_run _ _ _ _ hgate, hscan]
  rfl

end Head

/-- What a chain without overrides makes of the node that the merged tree holds at the path of a
property. A node of the right form is read by the nearest class that declares the path, and its
outcome stands if it decides: a failure as it is, a value as the head shows it, and an empty
identity as a value that was not found. A node of the other form is an invalid class, and without a
node nothing is implemented, unless a leaf above the path hides one. -/
theorem merged_tree_agrees_with_chain {overlays : List ClassOverlay} {catalog : Catalog}
    (hcatalog : Catalog.ofOverlays overlays = .ok catalog) {name : String} {c : DeviceClass}
    (hclass : catalog.get? name = some c) (p : Property) (identity : Identity)
    (hgate : p.gate c.hasComponent = .ok ()) :
    (∀ node, c.tree.lookup p.path = some node → p.Fits node →
      ∃ nearer d farther, c.tiers = nearer ++ d :: farther ∧
        (∀ t ∈ nearer, t.declares p.path = false ∧
          (t.property p).run.FailsAtOnce .notImplemented) ∧
        d.declares p.path = true ∧ d.node? p.path = some node ∧
        d.property p = c.flattened.property p ∧
        ∃ (settle : Outcome p.Value → Outcome p.Value)
            (fallback : Outcome p.Value → Reading (Outcome p.Value)),
          (headSource Registry.empty c p identity).run =
            ((d.property p).run >>= fun outcome : Outcome p.Value =>
              if outcome.decides then .done (settle outcome) else fallback outcome) ∧
          ∀ outcome, p.Settles outcome (settle outcome)) ∧
    (∀ node, c.tree.lookup p.path = some node → ¬p.Fits node →
      (headSource Registry.empty c p identity).run.FailsAtOnce .invalidClass) ∧
    (c.tree.lookup p.path = none → (∀ t ∈ c.tiers, ¬t.own.LeafAbove p.path) →
      (headSource Registry.empty c p identity).run.FailsAtOnce .notImplemented) := by
  have hlayered := (Catalog.constructed_of_get? hcatalog hclass).layered
  have habsent : ∀ t : Tier, t.declares p.path = false →
      (t.property p).run.FailsAtOnce .notImplemented := by
    intro t ht
    rw [Tier.property_of_absent (Tier.node?_of_not_declares ht)]
    exact Poll.failsAtOnce_fails _
  refine ⟨?fits, ?unfit, ?absent⟩
  case fits =>
    intro node hnode _
    obtain ⟨nearer, d, farther, hsplit, hnearer, hd, hlookup⟩ := hlayered.exists_nearest hnode
    have hfound : d.node? p.path = some node := (Tier.node?_of_declares hd).trans hlookup
    have hflat : c.flattened.node? p.path = some node := (c.node?_flattened p.path).trans hnode
    obtain ⟨level, fallback, hrun⟩ := headSource_of_nearest identity hgate hsplit fun t ht =>
      habsent t (hnearer t ht)
    exact ⟨nearer, d, farther, hsplit, fun t ht => ⟨hnearer t ht, habsent t (hnearer t ht)⟩, hd,
      hfound, Tier.property_eq_of_node hfound hflat, p.settle true level, fallback, hrun,
      p.settles_settle level⟩
  case unfit =>
    intro node hnode hunfit
    obtain ⟨nearer, d, farther, hsplit, hnearer, hd, hlookup⟩ := hlayered.exists_nearest hnode
    have hfound : d.node? p.path = some node := (Tier.node?_of_declares hd).trans hlookup
    obtain ⟨shape, hstep⟩ := Tier.property_of_unfit hfound hunfit
    obtain ⟨level, fallback, hrun⟩ := headSource_of_nearest identity hgate hsplit fun t ht =>
      habsent t (hnearer t ht)
    refine ⟨.because (.wrongShape p.path shape), ?_, rfl⟩
    rw [hrun, hstep]
    rfl
  case absent =>
    intro hnone hopen
    have hnowhere := hlayered.not_declares hnone hopen
    exact headSource_of_absent identity hgate fun t ht => habsent t (hnowhere t ht)

/-- A class that reads its vendor and trims it. -/
def trimmedVendor : ClassOverlay :=
  (ClassOverlay.named "generic").withLeaf "identify.vendor" "1.3.6.1.2.1.1.1" [.trim]

/-- A class below it that only knows its model. -/
def modelOnly : ClassOverlay :=
  ((ClassOverlay.named "acme").withParent "generic").withLeaf "identify.model"
    "1.3.6.1.2.1.1.5" []

theorem inherited_vendor_is_read_by_parent : ∃ catalog c leaf,
    Catalog.ofOverlays [trimmedVendor, modelOnly] = .ok catalog ∧
    catalog.get? "acme" = some c ∧
    (Property.identity .vendor).gate c.hasComponent = .ok () ∧
    c.tree.lookup (Property.identity .vendor).path = some (.leaf leaf) ∧
    (Property.identity .vendor).Fits (.leaf leaf) ∧
    ∃ nearer d farther, c.tiers = nearer ++ d :: farther ∧
      d.declares (Property.identity .vendor).path = true ∧
      d.node? (Property.identity .vendor).path = some (.leaf leaf) := by
  obtain ⟨catalog, c, leaf, hcatalog, hclass, hgate, hleaf, hfits⟩ : ∃ catalog c leaf,
      Catalog.ofOverlays [trimmedVendor, modelOnly] = .ok catalog ∧
      catalog.get? "acme" = some c ∧
      (Property.identity .vendor).gate c.hasComponent = .ok () ∧
      c.tree.lookup (Property.identity .vendor).path = some (.leaf leaf) ∧
      (Property.identity .vendor).Fits (.leaf leaf) :=
    ⟨_, _, _, Catalog.ofOverlays_of_round rfl, rfl, rfl, rfl, rfl⟩
  obtain ⟨hfit, -, -⟩ := merged_tree_agrees_with_chain hcatalog hclass (.identity .vendor)
    (fun _ => none) hgate
  obtain ⟨nearer, d, farther, hsplit, -, hd, hfound, -⟩ := hfit (.leaf leaf) hleaf hfits
  exact ⟨catalog, c, leaf, hcatalog, hclass, hgate, hleaf, hfits, nearer, d, farther, hsplit, hd,
    hfound⟩

/-- A device that answers every walk with a blank. -/
def blankReply : (request : Request) → Outcome request.Reply
  | .walk root => .ok [⟨root.text ++ ".0", .text " "⟩]
  | .get oid => Outcome.fails (.noInstance oid.absolute)

/-- The step of the declaring class ends in the empty text, and the head in a failure. -/
theorem blank_vendor_is_refused_by_head : ∃ catalog c node,
    Catalog.ofOverlays [trimmedVendor] = .ok catalog ∧ catalog.get? "generic" = some c ∧
    (Property.identity .vendor).gate c.hasComponent = .ok () ∧
    c.tree.lookup (Property.identity .vendor).path = some node ∧
    (Property.identity .vendor).Fits node ∧ c.tiers = [c.head] ∧
    c.head.declares (Property.identity .vendor).path = true ∧
    (c.head.property (.identity .vendor)).run.eval blankReply = .ok "" ∧
    (headSource Registry.empty c (.identity .vendor) fun _ => none).run.eval blankReply =
      .error (.because (.blankText "vendor")) :=
  ⟨_, _, _, Catalog.ofOverlays_of_round rfl, rfl, rfl, rfl, rfl, rfl, rfl, rfl, rfl⟩

end DevicePoll
