import DevicePoll.LabelTree
import Mathlib.Data.Option.Basic

/-! Entries that are given one after another. Of several entries with one key the latest counts, so a
map or a tree that is made from its own entries is what it was. -/
namespace DevicePoll

variable {κ α β : Type}

/-- The value of the latest entry with a key, or else what was there before. -/
def latest [DecidableEq κ] (key : κ) (entries : List (κ × α)) (before : Option α) : Option α :=
  entries.foldl (fun found e => if key = e.1 then some e.2 else found) before

section Latest
variable [DecidableEq κ] {key : κ} {entries : List (κ × α)} {before : Option α}

@[simp] theorem latest_nil (key : κ) (before : Option α) : latest key [] before = before := rfl

@[simp] theorem latest_cons (key : κ) (e : κ × α) (entries : List (κ × α)) (before : Option α) :
    latest key (e :: entries) before =
      latest key entries (if key = e.1 then some e.2 else before) := rfl

/-- Entries that agree with a table give what the table holds. -/
theorem latest_of_agree {table : κ → Option α} (h : ∀ e ∈ entries, table e.1 = some e.2) :
    latest key entries before = if key ∈ entries.map Prod.fst then table key else before := by
  induction entries generalizing before with
  | nil => simp
  | cons e entries ih =>
    obtain ⟨hhead, htail⟩ := List.forall_mem_cons.mp h
    rw [latest_cons, ih htail]
    by_cases hkey : key = e.1
    · simp [hkey, hhead]
    · simp only [List.map_cons, List.mem_cons, hkey, false_or, ↓reduceIte]

theorem mem_of_latest {value : α} (h : latest key entries before = some value) :
    (key, value) ∈ entries ∨ before = some value := by
  induction entries generalizing before with
  | nil => exact .inr h
  | cons e entries ih =>
    rw [latest_cons] at h
    rcases ih h with hmem | hbefore
    · exact .inl (List.mem_cons_of_mem e hmem)
    · split at hbefore
      · next hkey =>
        cases hbefore
        rw [hkey]
        exact .inl List.mem_cons_self
      · exact .inr hbefore

theorem latest_of_notMem (h : key ∉ entries.map Prod.fst) : latest key entries before = before := by
  induction entries generalizing before with
  | nil => rfl
  | cons e entries ih =>
    rw [List.map_cons, List.mem_cons, not_or] at h
    rw [latest_cons, ih h.2, if_neg h.1]

/-- An entry whose key does not come again. -/
theorem latest_of_last (first : List (κ × α)) {value : α} {later : List (κ × α)}
    (h : key ∉ later.map Prod.fst) :
    latest key (first ++ (key, value) :: later) before = some value := by
  unfold latest
  rw [List.foldl_append]
  exact (latest_of_notMem h).trans (if_pos rfl)

end Latest

namespace SortedMap
variable [LT κ] [DecidableEq κ] [DecidableLT κ] [LinearKey κ]

theorem get?_ofList (entries : List (κ × α)) (key : κ) :
    (ofList entries).get? key = latest key entries none := by
  have hfold : ∀ m : SortedMap κ α, (entries.foldl (fun m e => m.insert e.1 e.2) m).get? key =
      latest key entries (m.get? key) := by
    induction entries with
    | nil => intro m; rfl
    | cons e entries ih =>
      intro m
      rw [List.foldl_cons, ih, get?_insert, latest_cons]
  exact hfold empty

/-- Entries with different keys are all found again. -/
theorem get?_ofList_eq_some_iff {entries : List (κ × α)} (hkeys : (entries.map Prod.fst).Nodup)
    {key : κ} {value : α} : (ofList entries).get? key = some value ↔ (key, value) ∈ entries := by
  rw [get?_ofList]
  constructor
  · intro h
    exact (mem_of_latest h).resolve_right nofun
  · intro h
    obtain ⟨first, later, rfl⟩ := List.append_of_mem h
    rw [List.map_append, List.nodup_append] at hkeys
    exact latest_of_last first (List.nodup_cons.mp hkeys.2.1).1

/-- The order of entries with different keys does not matter. -/
theorem ofList_eq_of_perm {entries moved : List (κ × α)} (h : moved.Perm entries)
    (hkeys : (entries.map Prod.fst).Nodup) : ofList moved = ofList entries := by
  have hmoved : (moved.map Prod.fst).Nodup := (h.map Prod.fst).nodup_iff.mpr hkeys
  refine ext_get? fun key => ?_
  ext value
  rw [get?_ofList_eq_some_iff hmoved, get?_ofList_eq_some_iff hkeys, h.mem_iff]

/-- A map is that of any entries that agree with it and leave out no key. -/
theorem ofList_eq_of_agree {m : SortedMap κ α} {entries : List (κ × α)}
    (hagree : ∀ e ∈ entries, m.get? e.1 = some e.2)
    (hkeys : ∀ key ∈ m.keys, key ∈ entries.map Prod.fst) : ofList entries = m := by
  refine ext_get? fun key => ?_
  rw [get?_ofList, latest_of_agree hagree]
  split
  · rfl
  · next hkey =>
    have habsent : ¬(m.get? key).isSome := fun hsome => hkey (hkeys key (mem_keys_iff.mpr hsome))
    exact (Option.not_isSome_iff_eq_none.mp habsent).symm

/-- The entries of a map, given one after another, give what the map holds. -/
theorem latest_entries (m : SortedMap κ α) (key : κ) (before : Option α) :
    latest key m.entries before = (m.get? key).or before := by
  rw [latest_of_agree fun e he => mem_entries_iff.mp he]
  have hkey : key ∈ m.entries.map Prod.fst ↔ (m.get? key).isSome := mem_keys_iff
  cases hget : m.get? key <;> simp [hkey, hget]

theorem mem_of_mem_ofList {entries : List (κ × α)} {e : κ × α} (h : e ∈ (ofList entries).entries) :
    e ∈ entries := by
  have hget := mem_entries_iff.mp h
  rw [get?_ofList] at hget
  exact (mem_of_latest hget).resolve_right nofun

omit [DecidableEq κ] [DecidableLT κ] in
theorem nodup_keys (m : SortedMap κ α) : m.keys.Nodup := by
  refine List.pairwise_map.mpr (m.ascending.imp fun {a b} hlt heq => ?_)
  rw [heq] at hlt
  exact LinearKey.irrefl _ hlt

omit [DecidableEq κ] [DecidableLT κ] [LinearKey κ] in
theorem map_eq_self {f : α → α} {m : SortedMap κ α} (h : ∀ e ∈ m.entries, f e.2 = e.2) :
    m.map f = m := by
  obtain ⟨entries, hascending⟩ := m
  simp only [map, mk.injEq]
  calc entries.map (fun e => (e.1, f e.2)) = entries.map id :=
        List.map_congr_left fun e he => Prod.ext rfl (h e he)
    _ = entries := List.map_id entries

end SortedMap

namespace LabelTree

theorem get?_ofList (nodes : List (String × LabelNode α)) (label : String) :
    (ofList nodes).get? label = latest label nodes none := by
  have hfold : ∀ t : LabelTree α, (nodes.foldl (fun t e => t.insert e.1 e.2) t).get? label =
      latest label nodes (t.get? label) := by
    induction nodes with
    | nil => intro t; rfl
    | cons e nodes ih =>
      intro t
      rw [List.foldl_cons, ih, get?_insert, latest_cons]
  rw [ofList, hfold, get?_empty]

theorem mem_toList_iff {t : LabelTree α} {label : String} {node : LabelNode α} :
    (label, node) ∈ t.toList ↔ t.get? label = some node := by
  constructor
  · intro h
    obtain ⟨member, -, heq⟩ := List.mem_map.mp h
    cases heq
    exact get?_eq_some member.2
  · intro h
    have hlabel : label ∈ t.labels := isSome_get?_iff.mp (by rw [h]; rfl)
    rw [get?_eq_some hlabel] at h
    cases h
    exact List.mem_map.mpr ⟨⟨label, hlabel⟩, LabelSet.mem_members _ _, rfl⟩

/-- A tree is that of any labelled nodes that agree with it and leave out no label. -/
theorem ofList_eq_of_agree {t : LabelTree α} {nodes : List (String × LabelNode α)}
    (hagree : ∀ e ∈ nodes, t.get? e.1 = some e.2)
    (hlabels : ∀ label ∈ t.labels, label ∈ nodes.map Prod.fst) : ofList nodes = t := by
  refine ext_get? fun label => ?_
  rw [get?_ofList, latest_of_agree hagree]
  split
  · rfl
  · next hlabel =>
    have habsent : ¬(t.get? label).isSome := fun hsome =>
      hlabel (hlabels label (isSome_get?_iff.mp hsome))
    exact (Option.not_isSome_iff_eq_none.mp habsent).symm

theorem mem_of_mem_ofList {nodes : List (String × LabelNode α)} {e : String × LabelNode α}
    (h : e ∈ (ofList nodes).toList) : e ∈ nodes := by
  have hget := mem_toList_iff.mp h
  rw [get?_ofList] at hget
  exact (mem_of_latest hget).resolve_right nofun

end LabelTree
end DevicePoll
