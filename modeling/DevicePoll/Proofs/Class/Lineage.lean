import DevicePoll.Class.Basic
import DevicePoll.Proofs.Class.Compile
import Mathlib.Data.List.Nodup

/-! Lineages of definitions. A definition builds a class once parent names lead from it to a
definition without a parent; with distinct names that class is determined by the definitions as a
set. -/
namespace DevicePoll

/-- Parent names lead from a definition through the list to one without a parent. -/
inductive Grounded (overlays : List ClassOverlay) : ClassOverlay → Prop where
  | root {o : ClassOverlay} : o ∈ overlays → o.parent = none → Grounded overlays o
  | derived {o above : ClassOverlay} : o ∈ overlays → o.parent = some above.name →
      Grounded overlays above → Grounded overlays o

/-- What a list of definitions must satisfy to give a catalog. -/
structure WellDefined (overlays : List ClassOverlay) : Prop where
  distinct : (overlays.map ClassOverlay.name).Nodup
  compiles : ∀ o ∈ overlays, ∃ tree, o.queryTree = .ok tree
  grounded : ∀ o ∈ overlays, Grounded overlays o

/-- The class of a definition, built from the classes of the definitions above it. -/
inductive Builds (overlays : List ClassOverlay) : ClassOverlay → DeviceClass → Prop where
  | root {o : ClassOverlay} {c : DeviceClass} : o ∈ overlays → o.parent = none →
      DeviceClass.ofOverlay none o = .ok c → Builds overlays o c
  | derived {o above : ClassOverlay} {parent c : DeviceClass} : o ∈ overlays →
      o.parent = some above.name → Builds overlays above parent →
      DeviceClass.ofOverlay (some parent) o = .ok c → Builds overlays o c

theorem ofOverlay_ok_of_queryTree {o : ClassOverlay} {tree : QueryTree}
    (h : o.queryTree = .ok tree) (parent : Option DeviceClass) :
    ∃ c, DeviceClass.ofOverlay parent o = .ok c := by
  rw [DeviceClass.ofOverlay, h]
  exact ⟨_, rfl⟩

theorem ofOverlay_eq_ok {o : ClassOverlay} {parent : Option DeviceClass} {c : DeviceClass}
    (h : DeviceClass.ofOverlay parent o = .ok c) : ∃ own, o.queryTree = .ok own ∧
      c = parent.elim (DeviceClass.root o.name own o.flags)
        fun above => above.derive o.name own o.flags := by
  cases hown : o.queryTree with
  | ok own =>
    rw [DeviceClass.ofOverlay, hown] at h
    obtain rfl := Except.ok.inj h
    refine ⟨own, rfl, ?_⟩
    cases parent <;> rfl
  | error failure =>
    rw [DeviceClass.ofOverlay, hown] at h
    cases h

theorem kind_of_ofOverlay_error {o : ClassOverlay} {parent : Option DeviceClass}
    {failure : Failure} (h : DeviceClass.ofOverlay parent o = .error failure) :
    failure.kind = .invalidClass := by
  cases htree : o.queryTree with
  | ok tree =>
    rw [DeviceClass.ofOverlay, htree] at h
    cases h
  | error e =>
    rw [DeviceClass.ofOverlay, htree] at h
    cases h
    exact ClassOverlay.kind_of_queryTree_error htree

theorem Grounded.mem {overlays : List ClassOverlay} {o : ClassOverlay} (h : Grounded overlays o) :
    o ∈ overlays := by
  cases h <;> assumption

namespace Builds
variable {overlays : List ClassOverlay} {o : ClassOverlay} {c : DeviceClass}

theorem grounded (h : Builds overlays o c) : Grounded overlays o := by
  induction h with
  | root hmem hparent _ => exact .root hmem hparent
  | derived hmem hparent _ _ ih => exact .derived hmem hparent ih

theorem compiles (h : Builds overlays o c) : ∃ tree, o.queryTree = .ok tree := by
  cases h with
  | root _ _ hc =>
    obtain ⟨own, hown, -⟩ := ofOverlay_eq_ok hc
    exact ⟨own, hown⟩
  | derived _ _ _ hc =>
    obtain ⟨own, hown, -⟩ := ofOverlay_eq_ok hc
    exact ⟨own, hown⟩

theorem name_eq (h : Builds overlays o c) : c.name = o.name := by
  cases h with
  | root _ _ hc =>
    obtain ⟨own, -, rfl⟩ := ofOverlay_eq_ok hc
    rfl
  | derived _ _ _ hc =>
    obtain ⟨own, -, rfl⟩ := ofOverlay_eq_ok hc
    rfl

end Builds

theorem eq_of_name_eq {overlays : List ClassOverlay} {o o' : ClassOverlay}
    (hdistinct : (overlays.map ClassOverlay.name).Nodup) (ho : o ∈ overlays) (ho' : o' ∈ overlays)
    (hname : o.name = o'.name) : o = o' :=
  List.inj_on_of_nodup_map hdistinct ho ho' hname

/-- With distinct names a definition has one class at most. -/
theorem Builds.unique {overlays : List ClassOverlay} {o : ClassOverlay} {c c' : DeviceClass}
    (hdistinct : (overlays.map ClassOverlay.name).Nodup) (h : Builds overlays o c)
    (h' : Builds overlays o c') : c = c' := by
  induction h generalizing c' with
  | root _ hparent hc =>
    cases h' with
    | root _ _ hc' => exact Except.ok.inj (hc.symm.trans hc')
    | derived _ hparent' _ _ =>
      rw [hparent] at hparent'
      cases hparent'
  | derived _ hparent habove hc ih =>
    cases h' with
    | root _ hparent' _ =>
      rw [hparent] at hparent'
      cases hparent'
    | derived _ hparent' habove' hc' =>
      have hname := Option.some.inj (hparent.symm.trans hparent')
      obtain rfl := eq_of_name_eq hdistinct habove.grounded.mem habove'.grounded.mem hname
      obtain rfl := ih habove'
      exact Except.ok.inj (hc.symm.trans hc')

section Permutation
variable {overlays overlays' : List ClassOverlay} (hsub : overlays ⊆ overlays')
include hsub

theorem Grounded.mono {o : ClassOverlay} (h : Grounded overlays o) : Grounded overlays' o := by
  induction h with
  | root hmem hparent => exact .root (hsub hmem) hparent
  | derived hmem hparent _ ih => exact .derived (hsub hmem) hparent ih

theorem Builds.mono {o : ClassOverlay} {c : DeviceClass} (h : Builds overlays o c) :
    Builds overlays' o c := by
  induction h with
  | root hmem hparent hc => exact .root (hsub hmem) hparent hc
  | derived hmem hparent _ hc ih => exact .derived (hsub hmem) hparent ih hc

end Permutation

theorem WellDefined.of_perm {overlays overlays' : List ClassOverlay}
    (hperm : overlays'.Perm overlays) (h : WellDefined overlays) : WellDefined overlays' where
  distinct := (hperm.map ClassOverlay.name).nodup_iff.mpr h.distinct
  compiles o ho := h.compiles o (hperm.subset ho)
  grounded o ho := (h.grounded o (hperm.subset ho)).mono hperm.symm.subset

end DevicePoll
