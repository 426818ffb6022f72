import DevicePoll.Document.Layer
import DevicePoll.Proofs.LabelTree.Latest
import Mathlib.Data.List.Nodup

/-! Documents whose entries stand in another order. A data file keeps the order in which an object was
written, while a value tree sorts its labels; as long as no label is repeated, every look-up finds the
same. -/
namespace DevicePoll.Document

/-- A change of documents that at most moves the entries of objects. -/
structure Rearranges (tree : Document → Document) : Prop where
  null : tree null = null
  boolean (value : Bool) : tree (boolean value) = boolean value
  integer (value : Int) : tree (integer value) = integer value
  real (value : Float) : tree (real value) = real value
  text (value : String) : tree (text value) = text value
  list (items : List Document) : tree (list items) = list (items.map tree)
  object {entries : List (String × Document)} (distinct : (entries.map Prod.fst).Nodup) :
    ∃ moved, tree (object entries) = object moved ∧
      moved.Perm (entries.map fun e => (e.1, tree e.2))

theorem rearranges_id : Rearranges id where
  null := rfl
  boolean _ := rfl
  integer _ := rfl
  real _ := rfl
  text _ := rfl
  list items := by rw [List.map_id, id]
  object {entries} _ := ⟨entries, rfl, by rw [show (fun e : String × Document => (e.1, id e.2)) = id
    from rfl, List.map_id]⟩

section Entries
variable {label : String} {value : Document} {entries moved : List (String × Document)}

theorem mem_of_lookup? (h : lookup? label entries = some value) : (label, value) ∈ entries := by
  induction entries with
  | nil => simp [lookup?] at h
  | cons e entries ih =>
    rw [lookup?] at h
    split at h
    · next later hlater => exact List.mem_cons_of_mem _ (ih (hlater.trans h))
    · split at h
      · next hkey =>
        cases h
        rw [← hkey]
        exact List.mem_cons_self
      · simp at h

theorem lookup?_eq_some_iff (distinct : (entries.map Prod.fst).Nodup) :
    lookup? label entries = some value ↔ (label, value) ∈ entries := by
  induction entries with
  | nil => simp [lookup?]
  | cons e entries ih =>
    obtain ⟨key, first⟩ := e
    obtain ⟨hfirst, hrest⟩ := List.nodup_cons.mp distinct
    rw [List.mem_cons, ← ih hrest, lookup?]
    by_cases hkey : key = label
    · subst hkey
      have habsent : lookup? key entries = none := by
        cases hlater : lookup? key entries with
        | none => rfl
        | some later => exact absurd (List.mem_map_of_mem (mem_of_lookup? hlater)) hfirst
      simp [habsent, eq_comm]
    · cases lookup? label entries <;> simp [hkey, Ne.symm hkey]

theorem lookup?_eq_of_perm (distinct : (entries.map Prod.fst).Nodup) (hmoved : moved.Perm entries) :
    lookup? label moved = lookup? label entries := by
  have hdistinct : (moved.map Prod.fst).Nodup := (hmoved.map Prod.fst).nodup_iff.mpr distinct
  ext value
  rw [lookup?_eq_some_iff hdistinct, lookup?_eq_some_iff distinct, hmoved.mem_iff]

theorem lookup?_map (f : Document → Document) (label : String) (entries : List (String × Document)) :
    lookup? label (entries.map fun e => (e.1, f e.2)) = (lookup? label entries).map f := by
  induction entries with
  | nil => rfl
  | cons e entries ih =>
    obtain ⟨key, first⟩ := e
    rw [List.map_cons, lookup?, lookup?, ih]
    cases lookup? label entries with
    | some later => rfl
    | none =>
      simp only [Option.map_none]
      split <;> rfl

theorem repeated?_eq_none (distinct : (entries.map Prod.fst).Nodup) (labels : List String) :
    repeated? labels entries = none := by
  refine List.find?_eq_none.mpr fun label _ => ?_
  have hcount : entries.countP (fun e => e.1 = label) ≤ 1 := by
    have hlabel := List.nodup_iff_count_le_one.mp distinct label
    rw [List.count, List.countP_map] at hlabel
    exact Nat.le_trans (List.countP_mono_left fun e _ he => by simpa using he) hlabel
  simpa using hcount

/-- Rearranged entries are found under the same labels. -/
theorem Rearranges.lookups {tree : Document → Document} (htree : Rearranges tree)
    (distinct : (entries.map Prod.fst).Nodup) :
    ∃ moved, tree (.object entries) = Document.object moved ∧
      moved.Perm (entries.map fun e => (e.1, tree e.2)) ∧
      (∀ labels, repeated? labels moved = none) ∧
      ∀ label, lookup? label moved = (lookup? label entries).map tree := by
  obtain ⟨moved, heq, hmoved⟩ := htree.object distinct
  have hdistinct : ((entries.map fun e => (e.1, tree e.2)).map Prod.fst).Nodup := by
    rwa [List.map_map]
  refine ⟨moved, heq, hmoved, ?_, fun label => ?_⟩
  · exact repeated?_eq_none ((hmoved.map Prod.fst).nodup_iff.mpr hdistinct)
  · rw [lookup?_eq_of_perm hdistinct hmoved, lookup?_map]

end Entries

/-! ### Sorted entries -/

theorem perm_insertEntry {label : String} {value : Document} {entries : List (String × Document)}
    (h : label ∉ entries.map Prod.fst) :
    (canonicalEntries.insertEntry label value entries).Perm ((label, value) :: entries) := by
  induction entries with
  | nil => exact List.Perm.refl _
  | cons e entries ih =>
    obtain ⟨key, old⟩ := e
    obtain ⟨hkey, hrest⟩ : label ≠ key ∧ label ∉ entries.map Prod.fst := by simpa using h
    rw [canonicalEntries.insertEntry, if_neg hkey]
    split
    · exact List.Perm.refl _
    · exact ((ih hrest).cons _).trans (List.Perm.swap _ _ _)

theorem perm_canonicalEntries {entries : List (String × Document)}
    (distinct : (entries.map Prod.fst).Nodup) : (canonicalEntries entries).Perm entries := by
  have hfold : ∀ sorted : List (String × Document),
      ((sorted ++ entries).map Prod.fst).Nodup →
        (entries.foldl (fun l e => canonicalEntries.insertEntry e.1 e.2 l) sorted).Perm
          (sorted ++ entries) := by
    induction entries with
    | nil =>
      intro sorted _
      rw [List.append_nil, List.foldl_nil]
    | cons e entries ih =>
      intro sorted hnodup
      obtain ⟨label, value⟩ := e
      have hmiddle : (sorted ++ (label, value) :: entries).Perm
          ((label, value) :: sorted ++ entries) := List.perm_middle
      have hnodup' := (hmiddle.map Prod.fst).nodup_iff.mp hnodup
      have hlabel : label ∉ sorted.map Prod.fst := by
        intro hmem
        obtain ⟨e, he, rfl⟩ := List.mem_map.mp hmem
        exact (List.nodup_cons.mp hnodup').1
          (List.mem_map.mpr ⟨e, List.mem_append_left _ he, rfl⟩)
      have hinsert : (canonicalEntries.insertEntry label value sorted).Perm
          ((label, value) :: sorted) := perm_insertEntry hlabel
      have hstep := ih (List.nodup_cons.mp distinct).2 (canonicalEntries.insertEntry label value sorted)
        (((hinsert.append_right entries).map Prod.fst).nodup_iff.mpr hnodup')
      exact (hstep.trans (hinsert.append_right entries)).trans hmiddle.symm
  exact hfold [] distinct

theorem canonicalItems_eq (items : List Document) : canonicalItems items = items.map canonical := by
  induction items with
  | nil => rfl
  | cons item items ih => rw [canonicalItems, ih, List.map_cons]

theorem canonicalValues_eq (entries : List (String × Document)) :
    canonicalValues entries = entries.map fun e => (e.1, canonical e.2) := by
  induction entries with
  | nil => rfl
  | cons e entries ih => rw [canonicalValues, ih, List.map_cons]

theorem rearranges_canonical : Rearranges canonical where
  null := rfl
  boolean _ := rfl
  integer _ := rfl
  real _ := rfl
  text _ := rfl
  list items := by rw [canonical, canonicalItems_eq]
  object {entries} distinct := by
    refine ⟨_, by rw [canonical], ?_⟩
    rw [canonicalValues_eq]
    refine perm_canonicalEntries ?_
    simpa [Function.comp_def] using distinct

end DevicePoll.Document
