import DevicePoll.Class.Catalog
import DevicePoll.Proofs.Class.Lineage

/-! Construction of catalogs. A list of definitions gives a catalog exactly when it is well-defined,
and the classes then depend on the definitions alone and not on their order. -/
namespace DevicePoll

namespace Catalog

/-- The class a definition waits for, once there is nothing to wait for. -/
def ready (catalog : Catalog) (o : ClassOverlay) : Option (Option DeviceClass) :=
  match o.parent with
  | none => some none
  | some name => (catalog.get? name).map some

/-- One step of a round: a definition is refused, deferred or built. -/
theorem round_cons (o : ClassOverlay) (rest : List ClassOverlay) (catalog : Catalog) :
    round (o :: rest) catalog =
      if catalog.contains o.name then Outcome.fails (.duplicateClass o.name)
      else match catalog.ready o with
        | none => (round rest catalog).map fun r => (r.1, o :: r.2)
        | some parent => DeviceClass.ofOverlay parent o >>= fun c =>
            round rest (catalog.insert o.name c) := by
  rw [round, ready]
  split
  · rfl
  · cases o.parent with
    | none =>
      simp only
      cases DeviceClass.ofOverlay none o <;> rfl
    | some name =>
      simp only
      cases catalog.get? name with
      | none =>
        simp only [Option.map_none]
        cases round rest catalog <;> rfl
      | some parent =>
        simp only [Option.map_some]
        cases DeviceClass.ofOverlay (some parent) o <;> rfl

/-- A round that goes well has deferred or built its first definition. -/
theorem round_cons_ok {o : ClassOverlay} {rest deferred : List ClassOverlay}
    {catalog after : Catalog} (h : round (o :: rest) catalog = .ok (after, deferred)) :
    catalog.contains o.name = false ∧
      ((catalog.ready o = none ∧
          ∃ later, round rest catalog = .ok (after, later) ∧ deferred = o :: later) ∨
        ∃ parent c, catalog.ready o = some parent ∧ DeviceClass.ofOverlay parent o = .ok c ∧
          round rest (catalog.insert o.name c) = .ok (after, deferred)) := by
  rw [round_cons] at h
  split at h
  · cases h
  · next hnew =>
    refine ⟨by simpa using hnew, ?_⟩
    split at h
    · next hwait =>
      cases hrest : round rest catalog with
      | error failure =>
        rw [hrest] at h
        cases h
      | ok r =>
        rw [hrest] at h
        cases h
        exact .inl ⟨hwait, r.2, rfl, rfl⟩
    · next parent hgo =>
      cases hc : DeviceClass.ofOverlay parent o with
      | error failure =>
        rw [hc] at h
        cases h
      | ok c =>
        rw [hc] at h
        exact .inr ⟨parent, c, hgo, hc, h⟩

theorem ready_insert {catalog : Catalog} {o : ClassOverlay} (name : String) (c : DeviceClass)
    (h : ready (catalog.insert name c) o = none) : catalog.ready o = none := by
  unfold ready at h ⊢
  cases hparent : o.parent with
  | none => simp [hparent] at h
  | some above =>
    simp only [hparent, Option.map_eq_none_iff, SortedMap.get?_insert] at h ⊢
    split at h
    · cases h
    · exact h

/-- A round defers some of its definitions in their order, and only such ones as had to wait when it
began. -/
theorem deferred_of_round {pending deferred : List ClassOverlay} {catalog after : Catalog}
    (h : round pending catalog = .ok (after, deferred)) :
    deferred.Sublist pending ∧ ∀ o ∈ deferred, catalog.ready o = none := by
  induction pending generalizing catalog deferred with
  | nil =>
    cases h
    simp
  | cons o rest ih =>
    obtain ⟨-, ⟨hwait, later, hrest, rfl⟩ | ⟨parent, c, -, -, hrest⟩⟩ := round_cons_ok h
    · obtain ⟨hsub, hready⟩ := ih hrest
      refine ⟨hsub.cons_cons o, fun x hx => ?_⟩
      rcases List.mem_cons.mp hx with rfl | hx
      · exact hwait
      · exact hready x hx
    · obtain ⟨hsub, hready⟩ := ih hrest
      exact ⟨hsub.cons o, fun x hx => ready_insert o.name c (hready x hx)⟩

/-- What holds between any two steps of a construction: every definition is built or pending, and
the catalog holds the classes of those that are built. -/
structure Stage (overlays built pending : List ClassOverlay) (catalog : Catalog) : Prop where
  all : (built ++ pending).Perm overlays
  distinct : (built.map ClassOverlay.name).Nodup
  entry : ∀ o ∈ built, ∃ c, catalog.get? o.name = some c ∧ Builds overlays o c
  source : ∀ name c, catalog.get? name = some c → ∃ o ∈ built, o.name = name

theorem Stage.begin (overlays : List ClassOverlay) :
    Stage overlays [] overlays SortedMap.empty where
  all := List.Perm.refl overlays
  distinct := List.nodup_nil
  entry o ho := by simp at ho
  source name c h := by simp at h

namespace Stage
variable {overlays built pending : List ClassOverlay} {catalog : Catalog}

theorem mem_built_or_pending (h : Stage overlays built pending catalog) {o : ClassOverlay}
    (ho : o ∈ overlays) : o ∈ built ∨ o ∈ pending :=
  List.mem_append.mp (h.all.symm.subset ho)

theorem perm {pending' : List ClassOverlay} (h : Stage overlays built pending catalog)
    (hperm : pending'.Perm pending) : Stage overlays built pending' catalog :=
  { h with all := (hperm.append_left built).trans h.all }

theorem builds_of_ready {o : ClassOverlay} {parent : Option DeviceClass} {c : DeviceClass}
    (h : Stage overlays built pending catalog) (ho : o ∈ overlays)
    (hready : catalog.ready o = some parent) (hc : DeviceClass.ofOverlay parent o = .ok c) :
    Builds overlays o c := by
  unfold ready at hready
  cases hparent : o.parent with
  | none =>
    rw [hparent] at hready
    cases hready
    exact .root ho hparent hc
  | some name =>
    simp only [hparent, Option.map_eq_some_iff] at hready
    obtain ⟨above, hget, rfl⟩ := hready
    obtain ⟨q, hq, rfl⟩ := h.source name above hget
    obtain ⟨d, hd, hbuilds⟩ := h.entry q hq
    obtain rfl : d = above := Option.some.inj (hd.symm.trans hget)
    exact .derived ho hparent hbuilds hc

/-- One definition is built. -/
theorem build {o : ClassOverlay} {parent : Option DeviceClass} {c : DeviceClass}
    (h : Stage overlays built (o :: pending) catalog) (hnew : catalog.contains o.name = false)
    (hready : catalog.ready o = some parent) (hc : DeviceClass.ofOverlay parent o = .ok c) :
    Stage overlays (o :: built) pending (catalog.insert o.name c) := by
  have ho : o ∈ overlays := h.all.subset (by simp)
  have hget : catalog.get? o.name = none := by simpa [SortedMap.contains] using hnew
  have hfresh : ∀ x ∈ built, x.name ≠ o.name := by
    intro x hx hname
    obtain ⟨d, hd, -⟩ := h.entry x hx
    rw [hname, hget] at hd
    cases hd
  refine ⟨List.perm_middle.symm.trans h.all, ?_, ?_, ?_⟩
  · rw [List.map_cons, List.nodup_cons]
    refine ⟨fun hmem => ?_, h.distinct⟩
    obtain ⟨x, hx, hname⟩ := List.mem_map.mp hmem
    exact hfresh x hx hname
  · intro x hx
    rcases List.mem_cons.mp hx with rfl | hx
    · exact ⟨c, by simp, h.builds_of_ready ho hready hc⟩
    · obtain ⟨d, hd, hbuilds⟩ := h.entry x hx
      exact ⟨d, by simpa [hfresh x hx] using hd, hbuilds⟩
  · intro name d hd
    rw [SortedMap.get?_insert] at hd
    split at hd
    · next hname => exact ⟨o, List.mem_cons_self, hname.symm⟩
    · obtain ⟨x, hx, hname⟩ := h.source name d hd
      exact ⟨x, List.mem_cons_of_mem o hx, hname⟩

/-- A whole round keeps the invariant, whatever else is pending. -/
theorem round {more deferred : List ClassOverlay} {after : Catalog}
    (h : Stage overlays built (pending ++ more) catalog)
    (hround : Catalog.round pending catalog = .ok (after, deferred)) :
    ∃ built', Stage overlays built' (deferred ++ more) after := by
  induction pending generalizing catalog built more deferred with
  | nil =>
    cases hround
    exact ⟨built, h⟩
  | cons o rest ih =>
    obtain ⟨hnew, ⟨-, later, hrest, rfl⟩ | ⟨parent, c, hgo, hc, hrest⟩⟩ := round_cons_ok hround
    · obtain ⟨built', hstage⟩ := ih (h.perm List.perm_middle) hrest
      exact ⟨built', hstage.perm List.perm_middle.symm⟩
    · exact ih (h.build hnew hgo hc) hrest

theorem whole_round {deferred : List ClassOverlay} {after : Catalog}
    (h : Stage overlays built pending catalog)
    (hround : Catalog.round pending catalog = .ok (after, deferred)) :
    ∃ built', Stage overlays built' deferred after := by
  have hmore : Stage overlays built (pending ++ []) catalog := by simpa using h
  simpa using hmore.round hround

/-- Construction ends with every definition built. -/
theorem rounds {after : Catalog} (h : Stage overlays built pending catalog)
    (hrounds : Catalog.rounds pending catalog = .ok after) :
    ∃ built', Stage overlays built' [] after := by
  induction pending, catalog using rounds.induct generalizing built with
  | case1 catalog =>
    rw [Catalog.rounds] at hrounds
    cases hrounds
    exact ⟨built, h⟩
  | case2 catalog o rest failure hround =>
    rw [Catalog.rounds, hround] at hrounds
    cases hrounds
  | case3 catalog o rest middle deferred hround hfewer ih =>
    rw [Catalog.rounds, hround] at hrounds
    simp only [hfewer, ↓reduceDIte] at hrounds
    obtain ⟨built', hstage⟩ := h.whole_round hround
    exact ih hstage hrounds
  | case4 catalog o rest middle deferred hround hfewer =>
    rw [Catalog.rounds, hround] at hrounds
    simp only [hfewer, ↓reduceDIte] at hrounds
    cases hrounds

/-- A finished catalog holds the classes that the definitions build, and nothing else. -/
theorem get?_eq_some_iff (h : Stage overlays built [] catalog) {name : String} {c : DeviceClass} :
    catalog.get? name = some c ↔ ∃ o ∈ overlays, o.name = name ∧ Builds overlays o c := by
  have hall : built.Perm overlays := by simpa using h.all
  have hdistinct : (overlays.map ClassOverlay.name).Nodup :=
    (hall.map ClassOverlay.name).nodup_iff.mp h.distinct
  constructor
  · intro hget
    obtain ⟨o, ho, rfl⟩ := h.source name c hget
    obtain ⟨d, hd, hbuilds⟩ := h.entry o ho
    obtain rfl : d = c := Option.some.inj (hd.symm.trans hget)
    exact ⟨o, hall.subset ho, rfl, hbuilds⟩
  · rintro ⟨o, ho, rfl, hbuilds⟩
    obtain ⟨d, hd, hbuilds'⟩ := h.entry o (hall.symm.subset ho)
    rw [hd, hbuilds.unique hdistinct hbuilds']

theorem wellDefined (h : Stage overlays built [] catalog) : WellDefined overlays := by
  have hall : built.Perm overlays := by simpa using h.all
  have hbuilds : ∀ o ∈ overlays, ∃ c, Builds overlays o c := by
    intro o ho
    obtain ⟨c, -, hc⟩ := h.entry o (hall.symm.subset ho)
    exact ⟨c, hc⟩
  constructor
  · exact (hall.map ClassOverlay.name).nodup_iff.mp h.distinct
  · intro o ho
    obtain ⟨c, hc⟩ := hbuilds o ho
    exact hc.compiles
  · intro o ho
    obtain ⟨c, hc⟩ := hbuilds o ho
    exact hc.grounded

/-- A pending definition has not been built under another definition's name. -/
theorem contains_eq_false {o : ClassOverlay} (hwell : WellDefined overlays)
    (h : Stage overlays built (o :: pending) catalog) : catalog.contains o.name = false := by
  have hnames := (h.all.map ClassOverlay.name).nodup_iff.mpr hwell.distinct
  rw [List.map_append, List.nodup_append] at hnames
  cases hget : catalog.get? o.name with
  | none => simp [SortedMap.contains, hget]
  | some c =>
    obtain ⟨x, hx, hname⟩ := h.source o.name c hget
    have hne := hnames.2.2 x.name (List.mem_map_of_mem hx) o.name (by simp)
    exact absurd hname hne

theorem round_ok {more : List ClassOverlay} (hwell : WellDefined overlays)
    (h : Stage overlays built (pending ++ more) catalog) :
    ∃ r, Catalog.round pending catalog = .ok r := by
  induction pending generalizing catalog built more with
  | nil => exact ⟨_, rfl⟩
  | cons o rest ih =>
    have hnew := h.contains_eq_false hwell
    rw [round_cons, hnew]
    cases hready : catalog.ready o with
    | none =>
      obtain ⟨r, hr⟩ := ih (h.perm List.perm_middle)
      exact ⟨_, by simp only [hr]; rfl⟩
    | some parent =>
      obtain ⟨tree, htree⟩ := hwell.compiles o (h.all.subset (by simp))
      obtain ⟨c, hc⟩ := ofOverlay_ok_of_queryTree htree parent
      obtain ⟨r, hr⟩ := ih (h.build hnew hready hc)
      exact ⟨r, by simp only [hc]; exact hr⟩

/-- The way up from a pending definition leads to one that need not wait. -/
theorem exists_ready {o : ClassOverlay} (h : Stage overlays built pending catalog)
    (hgrounded : Grounded overlays o) (ho : o ∈ pending) :
    ∃ x ∈ pending, catalog.ready x ≠ none := by
  induction hgrounded with
  | root _ hparent => exact ⟨_, ho, by simp [ready, hparent]⟩
  | derived _ hparent habove ih =>
    rcases h.mem_built_or_pending habove.mem with hbuilt | hpending
    · obtain ⟨c, hc, -⟩ := h.entry _ hbuilt
      exact ⟨_, ho, by simp [ready, hparent, hc]⟩
    · exact ih hpending

/-- Every round over well-defined definitions builds at least one of them. -/
theorem deferred_lt {deferred : List ClassOverlay} {after : Catalog}
    (hwell : WellDefined overlays) (h : Stage overlays built pending catalog)
    (hne : pending ≠ []) (hround : Catalog.round pending catalog = .ok (after, deferred)) :
    deferred.length < pending.length := by
  obtain ⟨hsub, hwait⟩ := deferred_of_round hround
  obtain ⟨o, ho⟩ := List.exists_mem_of_ne_nil pending hne
  have hgrounded := hwell.grounded o (h.all.subset (List.mem_append_right built ho))
  obtain ⟨x, hx, hready⟩ := h.exists_ready hgrounded ho
  refine Nat.lt_of_le_of_ne hsub.length_le fun hlen => hready (hwait x ?_)
  rw [hsub.eq_of_length hlen]
  exact hx

theorem rounds_ok (hwell : WellDefined overlays) (h : Stage overlays built pending catalog) :
    ∃ after, Catalog.rounds pending catalog = .ok after := by
  induction pending, catalog using rounds.induct generalizing built with
  | case1 catalog => exact ⟨catalog, by rw [Catalog.rounds]⟩
  | case2 catalog o rest failure hround =>
    have hmore : Stage overlays built ((o :: rest) ++ []) catalog := by simpa using h
    obtain ⟨r, hr⟩ := hmore.round_ok hwell
    rw [hr] at hround
    cases hround
  | case3 catalog o rest middle deferred hround hfewer ih =>
    obtain ⟨built', hstage⟩ := h.whole_round hround
    obtain ⟨after, hafter⟩ := ih hstage
    refine ⟨after, ?_⟩
    rw [Catalog.rounds, hround]
    simpa only [hfewer, ↓reduceDIte] using hafter
  | case4 catalog o rest middle deferred hround hfewer =>
    exact absurd (h.deferred_lt hwell (by simp) hround) hfewer

end Stage

theorem kind_of_round_error {pending : List ClassOverlay} {catalog : Catalog} {failure : Failure}
    (h : round pending catalog = .error failure) : failure.kind = .invalidClass := by
  induction pending generalizing catalog with
  | nil => cases h
  | cons o rest ih =>
    rw [round_cons] at h
    split at h
    · cases h
      rfl
    · split at h
      · cases hrest : round rest catalog with
        | ok r =>
          rw [hrest] at h
          cases h
        | error e =>
          rw [hrest] at h
          cases h
          exact ih hrest
      · next parent _ =>
        cases hc : DeviceClass.ofOverlay parent o with
        | ok c =>
          rw [hc] at h
          exact ih h
        | error e =>
          rw [hc] at h
          cases h
          exact kind_of_ofOverlay_error hc

theorem kind_of_rounds_error {pending : List ClassOverlay} {catalog : Catalog} {failure : Failure}
    (h : rounds pending catalog = .error failure) : failure.kind = .invalidClass := by
  induction pending, catalog using rounds.induct with
  | case1 catalog =>
    rw [rounds] at h
    cases h
  | case2 catalog o rest e hround =>
    rw [rounds, hround] at h
    cases h
    exact kind_of_round_error hround
  | case3 catalog o rest middle deferred hround hfewer ih =>
    rw [rounds, hround] at h
    simp only [hfewer, ↓reduceDIte] at h
    exact ih h
  | case4 catalog o rest middle deferred hround hfewer =>
    rw [rounds, hround] at h
    simp only [hfewer, ↓reduceDIte] at h
    cases h
    rfl

/-- Definitions that all find their parents before them take one round. -/
theorem ofOverlays_of_round {overlays : List ClassOverlay} {catalog : Catalog}
    (h : round overlays SortedMap.empty = .ok (catalog, [])) :
    ofOverlays overlays = .ok catalog := by
  unfold ofOverlays
  cases overlays with
  | nil =>
    cases h
    rw [rounds]
  | cons o rest =>
    rw [rounds, h]
    simp [rounds]

theorem ofOverlays_ok_iff_wellDefined {overlays : List ClassOverlay} :
    (∃ catalog, ofOverlays overlays = .ok catalog) ↔ WellDefined overlays := by
  constructor
  · rintro ⟨catalog, h⟩
    obtain ⟨built, hstage⟩ := (Stage.begin overlays).rounds h
    exact hstage.wellDefined
  · intro hwell
    exact (Stage.begin overlays).rounds_ok hwell

/-- A catalog holds the class that each of its definitions builds, by name. -/
theorem get?_ofOverlays {overlays : List ClassOverlay} {catalog : Catalog}
    (h : ofOverlays overlays = .ok catalog) {name : String} {c : DeviceClass} :
    catalog.get? name = some c ↔ ∃ o ∈ overlays, o.name = name ∧ Builds overlays o c := by
  obtain ⟨built, hstage⟩ := (Stage.begin overlays).rounds h
  exact hstage.get?_eq_some_iff

theorem get?_of_perm {overlays overlays' : List ClassOverlay} {catalog catalog' : Catalog}
    (hperm : overlays'.Perm overlays) (h : ofOverlays overlays = .ok catalog)
    (h' : ofOverlays overlays' = .ok catalog') {name : String} {c : DeviceClass}
    (hget : catalog'.get? name = some c) : catalog.get? name = some c := by
  obtain ⟨o, ho, hname, hbuilds⟩ := (get?_ofOverlays h').mp hget
  exact (get?_ofOverlays h).mpr ⟨o, hperm.subset ho, hname, hbuilds.mono hperm.subset⟩

theorem eq_of_perm {overlays overlays' : List ClassOverlay} {catalog catalog' : Catalog}
    (hperm : overlays'.Perm overlays) (h : ofOverlays overlays = .ok catalog)
    (h' : ofOverlays overlays' = .ok catalog') : catalog' = catalog := by
  refine SortedMap.ext_get? fun name => Option.ext fun c => ?_
  constructor
  · exact get?_of_perm hperm h h'
  · exact get?_of_perm hperm.symm h' h

/-- The construction of catalogs. It succeeds on well-defined lists and on no others, every failure
is one of the definitions, and the order of the definitions does not matter. -/
theorem construction_is_order_independent (overlays : List ClassOverlay) :
    ((∃ catalog, ofOverlays overlays = .ok catalog) ↔ WellDefined overlays) ∧
    (∀ failure, ofOverlays overlays = .error failure → failure.kind = .invalidClass) ∧
    ∀ overlays' : List ClassOverlay, overlays'.Perm overlays →
      (∃ catalog, ofOverlays overlays = .ok catalog ∧ ofOverlays overlays' = .ok catalog) ∨
      ∃ failure failure', ofOverlays overlays = .error failure ∧
        ofOverlays overlays' = .error failure' := by
  refine ⟨ofOverlays_ok_iff_wellDefined, fun failure h => kind_of_rounds_error h, ?_⟩
  intro overlays' hperm
  cases h : ofOverlays overlays with
  | ok catalog =>
    have hwell := (ofOverlays_ok_iff_wellDefined.mp ⟨catalog, h⟩).of_perm hperm
    obtain ⟨catalog', h'⟩ := ofOverlays_ok_iff_wellDefined.mpr hwell
    obtain rfl := eq_of_perm hperm h h'
    exact .inl ⟨catalog', rfl, h'⟩
  | error failure =>
    cases h' : ofOverlays overlays' with
    | error failure' => exact .inr ⟨failure, failure', rfl, rfl⟩
    | ok catalog' =>
      have hwell := (ofOverlays_ok_iff_wellDefined.mp ⟨catalog', h'⟩).of_perm hperm.symm
      obtain ⟨catalog, hok⟩ := ofOverlays_ok_iff_wellDefined.mpr hwell
      rw [hok] at h
      cases h

end Catalog
end DevicePoll
