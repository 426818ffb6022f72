/-! Finite maps whose entries ascend by key. A map is determined by its look-ups, so two ways of
building one are equal as soon as every key finds the same value. -/
namespace DevicePoll

universe u v

/-- Keys with a strict linear order. -/
class LinearKey (κ : Type) [LT κ] : Prop where
  irrefl : ∀ a : κ, ¬a < a
  trans : ∀ {a b c : κ}, a < b → b < c → a < c
  connex : ∀ {a b : κ}, ¬a < b → ¬b < a → a = b

/-- Texts by their characters, first difference first. -/
instance : LinearKey String where
  irrefl := String.lt_irrefl
  trans := String.lt_trans
  connex h k := String.le_antisymm (String.not_lt.1 k) (String.not_lt.1 h)

instance : LinearKey UInt64 where
  irrefl := UInt64.lt_irrefl
  trans := UInt64.lt_trans
  connex h k := UInt64.le_antisymm (UInt64.not_lt.1 k) (UInt64.not_lt.1 h)

structure SortedMap (κ : Type) (α : Type u) [LT κ] where
  entries : List (κ × α)
  ascending : entries.Pairwise fun a b => a.1 < b.1

namespace SortedMap
set_option linter.unusedSectionVars false

variable {κ : Type} {α : Type u} {β : Type v} [LT κ] [DecidableEq κ] [DecidableLT κ] [LinearKey κ]

/-- The entries with one more; an entry with the same key is replaced. -/
def insertEntry (key : κ) (value : α) : List (κ × α) → List (κ × α)
  | [] => [(key, value)]
  | (k, v) :: rest =>
    if key < k then (key, value) :: (k, v) :: rest
    else if key = k then (key, value) :: rest
    else (k, v) :: insertEntry key value rest

def find? (key : κ) : List (κ × α) → Option α
  | [] => none
  | (k, v) :: rest => if key = k then some v else find? key rest

theorem mem_insertEntry {key : κ} {value : α} {e : κ × α} {l : List (κ × α)}
    (h : e ∈ insertEntry key value l) : e = (key, value) ∨ e ∈ l := by
  induction l with
  | nil => simpa [insertEntry] using h
  | cons head rest ih =>
    obtain ⟨k, v⟩ := head
    unfold insertEntry at h
    split at h
    · simpa using h
    · split at h
      · rcases List.mem_cons.1 h with h | h
        · exact .inl h
        · exact .inr (List.mem_cons_of_mem _ h)
      · rcases List.mem_cons.1 h with h | h
        · exact .inr (h ▸ List.mem_cons_self)
        · exact (ih h).imp id (List.mem_cons_of_mem _)

theorem pairwise_insertEntry (key : κ) (value : α) {l : List (κ × α)}
    (h : l.Pairwise fun a b => a.1 < b.1) :
    (insertEntry key value l).Pairwise fun a b => a.1 < b.1 := by
  induction l with
  | nil => simp [insertEntry]
  | cons head rest ih =>
    obtain ⟨k, v⟩ := head
    have hd := List.pairwise_cons.1 h
    unfold insertEntry
    split
    · next lt =>
      refine List.pairwise_cons.2 ⟨fun e he => ?_, h⟩
      rcases List.mem_cons.1 he with rfl | he
      · exact lt
      · exact LinearKey.trans lt (hd.1 e he)
    · split
      · next eq => subst eq; exact List.pairwise_cons.2 ⟨hd.1, hd.2⟩
      · next nlt ne =>
        refine List.pairwise_cons.2 ⟨fun e he => ?_, ih hd.2⟩
        rcases mem_insertEntry he with rfl | he
        · exact Classical.byContradiction fun nlt' => ne (LinearKey.connex nlt nlt')
        · exact hd.1 e he

theorem find?_insertEntry (key k : κ) (value : α) (l : List (κ × α)) :
    find? k (insertEntry key value l) = if k = key then some value else find? k l := by
  induction l with
  | nil => simp [insertEntry, find?]
  | cons head rest ih =>
    obtain ⟨k', v⟩ := head
    unfold insertEntry
    split
    · simp [find?]
    · split
      · next eq => subst eq; by_cases h : k = key <;> simp [find?, h]
      · next ne =>
        by_cases h : k = k'
        · subst h; simp [find?, Ne.symm ne]
        · simp [find?, h, ih]

theorem mem_of_find? {key : κ} {value : α} {l : List (κ × α)} (h : find? key l = some value) :
    (key, value) ∈ l := by
  induction l with
  | nil => simp [find?] at h
  | cons head rest ih =>
    obtain ⟨k, v⟩ := head
    unfold find? at h
    split at h
    · next eq => subst eq; simp only [Option.some.injEq] at h; subst h; exact List.mem_cons_self
    · exact List.mem_cons_of_mem _ (ih h)

theorem find?_of_mem {key : κ} {value : α} {l : List (κ × α)}
    (asc : l.Pairwise fun a b => a.1 < b.1) (h : (key, value) ∈ l) :
    find? key l = some value := by
  induction l with
  | nil => simp at h
  | cons head rest ih =>
    obtain ⟨k, v⟩ := head
    have hd := List.pairwise_cons.1 asc
    rcases List.mem_cons.1 h with h | h
    · cases h; simp [find?]
    · have lt := hd.1 _ h
      have ne : key ≠ k := fun e => LinearKey.irrefl k (e ▸ lt)
      simp [find?, ne, ih hd.2 h]

theorem entries_eq_of_find? {a b : List (κ × α)} (ha : a.Pairwise fun a b => a.1 < b.1)
    (hb : b.Pairwise fun a b => a.1 < b.1) (h : ∀ key, find? key a = find? key b) : a = b := by
  induction a generalizing b with
  | nil =>
    cases b with
    | nil => rfl
    | cons head rest => have := h head.1; simp [find?] at this
  | cons x xs ih =>
    cases b with
    | nil => have := h x.1; simp [find?] at this
    | cons y ys =>
      have hx := List.pairwise_cons.1 ha
      have hy := List.pairwise_cons.1 hb
      have key : x.1 = y.1 := by
        refine LinearKey.connex (fun lt => ?_) (fun lt => ?_)
        · have found : find? x.1 (y :: ys) = some x.2 := by rw [← h]; simp [find?]
          rcases List.mem_cons.1 (mem_of_find? found) with e | e
          · exact LinearKey.irrefl _ (by rw [← e] at lt; exact lt)
          · exact LinearKey.irrefl _ (LinearKey.trans lt (hy.1 _ e))
        · have found : find? y.1 (x :: xs) = some y.2 := by rw [h]; simp [find?]
          rcases List.mem_cons.1 (mem_of_find? found) with e | e
          · exact LinearKey.irrefl _ (by rw [← e] at lt; exact lt)
          · exact LinearKey.irrefl _ (LinearKey.trans lt (hx.1 _ e))
      have value : x.2 = y.2 := by
        have := h x.1
        simpa [find?, key] using this
      have rest : xs = ys := by
        refine ih hx.2 hy.2 fun k => ?_
        have step := h k
        by_cases hk : k = x.1
        · have absentX : find? k xs = none := by
            cases hf : find? k xs with
            | none => rfl
            | some v => exact absurd (hx.1 _ (mem_of_find? hf)) (hk ▸ LinearKey.irrefl _)
          have absentY : find? k ys = none := by
            cases hf : find? k ys with
            | none => rfl
            | some v => exact absurd (hy.1 _ (mem_of_find? hf)) (by
                rw [hk, key]; exact LinearKey.irrefl _)
          rw [absentX, absentY]
        · have hk' : k ≠ y.1 := key ▸ hk
          obtain ⟨x₁, x₂⟩ := x
          obtain ⟨y₁, y₂⟩ := y
          simpa [find?, hk, hk'] using step
      rw [rest, show x = y from Prod.ext key value]

def empty : SortedMap κ α := ⟨[], List.Pairwise.nil⟩

def get? (m : SortedMap κ α) (key : κ) : Option α := find? key m.entries

def contains (m : SortedMap κ α) (key : κ) : Bool := (m.get? key).isSome

def insert (m : SortedMap κ α) (key : κ) (value : α) : SortedMap κ α :=
  ⟨insertEntry key value m.entries, pairwise_insertEntry key value m.ascending⟩

/-- The map of some entries; of repeated keys the last one counts. -/
def ofList (l : List (κ × α)) : SortedMap κ α :=
  l.foldl (fun m e => m.insert e.1 e.2) empty

def keys (m : SortedMap κ α) : List κ := m.entries.map Prod.fst

def values (m : SortedMap κ α) : List α := m.entries.map Prod.snd

def size (m : SortedMap κ α) : Nat := m.entries.length

def isEmpty (m : SortedMap κ α) : Bool := m.entries.isEmpty

/-- The map with every value changed. -/
def map (f : α → β) (m : SortedMap κ α) : SortedMap κ β :=
  ⟨m.entries.map fun e => (e.1, f e.2), List.pairwise_map.2 m.ascending⟩

theorem ext_get? {a b : SortedMap κ α} (h : ∀ key, a.get? key = b.get? key) : a = b := by
  cases a with | mk x hx =>
  cases b with | mk y hy =>
  have e : x = y := entries_eq_of_find? hx hy h
  subst e
  rfl

@[simp] theorem get?_empty (key : κ) : (empty : SortedMap κ α).get? key = none := rfl

@[simp] theorem get?_insert (m : SortedMap κ α) (key k : κ) (value : α) :
    (m.insert key value).get? k = if k = key then some value else m.get? k :=
  find?_insertEntry key k value m.entries

theorem mem_entries_iff {m : SortedMap κ α} {key : κ} {value : α} :
    (key, value) ∈ m.entries ↔ m.get? key = some value :=
  ⟨find?_of_mem m.ascending, mem_of_find?⟩

theorem mem_keys_iff {m : SortedMap κ α} {key : κ} : key ∈ m.keys ↔ (m.get? key).isSome := by
  rw [Option.isSome_iff_exists]
  constructor
  · intro h
    obtain ⟨e, he, rfl⟩ := List.mem_map.1 h
    exact ⟨e.2, mem_entries_iff.1 he⟩
  · rintro ⟨v, hv⟩
    exact List.mem_map.2 ⟨(key, v), mem_entries_iff.2 hv, rfl⟩

@[simp] theorem get?_map (f : α → β) (m : SortedMap κ α) (key : κ) :
    (m.map f).get? key = (m.get? key).map f := by
  cases m with | mk l h =>
  simp only [map, get?]
  clear h
  induction l with
  | nil => rfl
  | cons head rest ih =>
    by_cases hk : key = head.1 <;> simp [find?, hk, ih]

end SortedMap
end DevicePoll
