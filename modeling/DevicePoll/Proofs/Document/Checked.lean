import Mathlib.Data.List.Forall2

/-! Checked steps one after another. A list of steps succeeds when each of them does, and what a
successful one found was found by one of its steps. -/
namespace DevicePoll

universe u

variable {ε α β : Type}

theorem bind_eq_ok {x : Except ε α} {f : α → Except ε β} {b : β} (h : x >>= f = .ok b) :
    ∃ a, x = .ok a ∧ f a = .ok b := by
  cases x with
  | error failure => simp [bind, Except.bind] at h
  | ok a => exact ⟨a, rfl, h⟩

theorem map_eq_ok {x : Except ε α} {f : α → β} {b : β} (h : x.map f = .ok b) :
    ∃ a, x = .ok a ∧ f a = b := by
  cases x with
  | error failure => simp [Except.map] at h
  | ok a => exact ⟨a, rfl, Except.ok.inj h⟩

theorem toOption_eq_some_iff {x : Except ε α} {a : α} : x.toOption = some a ↔ x = .ok a := by
  cases x <;> simp [Except.toOption]

/-- A list of checked steps that all succeed. -/
theorem mapM_eq_ok {α : Type u} {f : α → Except ε β} {g : α → β} {l : List α}
    (h : ∀ a ∈ l, f a = .ok (g a)) : l.mapM f = .ok (l.map g) := by
  induction l with
  | nil => rfl
  | cons a l ih =>
    obtain ⟨hhead, htail⟩ := List.forall_mem_cons.mp h
    rw [List.mapM_cons, hhead, ih htail]
    rfl

/-- Entries that are read one after another and agree with a table. -/
theorem mapM_entries_of_agree {read : α → Except ε β} {table : String → Option β}
    {entries : List (String × α)} (h : ∀ e ∈ entries, ∃ b, read e.2 = .ok b ∧ table e.1 = some b) :
    ∃ results, entries.mapM (fun e => (e.1, ·) <$> read e.2) = .ok results ∧
      results.map Prod.fst = entries.map Prod.fst ∧ ∀ e ∈ results, table e.1 = some e.2 := by
  induction entries with
  | nil => exact ⟨[], rfl, rfl, by simp⟩
  | cons e entries ih =>
    obtain ⟨⟨b, hb, hagree⟩, htail⟩ := List.forall_mem_cons.mp h
    obtain ⟨results, hresults, hlabels, hall⟩ := ih htail
    refine ⟨(e.1, b) :: results, ?_, ?_, List.forall_mem_cons.mpr ⟨hagree, hall⟩⟩
    · rw [List.mapM_cons, hb, hresults]
      rfl
    · rw [List.map_cons, List.map_cons, hlabels]

/-- Checked steps that all succeed, each beside its result. -/
theorem mapM_eq_ok_iff {f : α → Except ε β} {l : List α} {results : List β} :
    l.mapM f = .ok results ↔ List.Forall₂ (fun a b => f a = .ok b) l results := by
  induction l generalizing results with
  | nil =>
    rw [List.forall₂_nil_left_iff, List.mapM_nil]
    exact ⟨fun h => (Except.ok.inj h).symm, fun h => congrArg Except.ok h.symm⟩
  | cons a l ih =>
    rw [List.mapM_cons, List.forall₂_cons_left_iff]
    constructor
    · intro h
      obtain ⟨b, hb, h⟩ := bind_eq_ok h
      obtain ⟨bs, hbs, h⟩ := bind_eq_ok h
      exact ⟨b, bs, hb, ih.mp hbs, (Except.ok.inj h).symm⟩
    · rintro ⟨b, bs, hb, hbs, rfl⟩
      rw [hb, ih.mpr hbs]
      rfl

theorem exists_mapM_eq_ok_iff {f : α → Except ε β} {l : List α} :
    (∃ results, l.mapM f = .ok results) ↔ ∀ a ∈ l, ∃ b, f a = .ok b := by
  simp only [mapM_eq_ok_iff]
  constructor
  · rintro ⟨results, hresults⟩ a ha
    obtain ⟨k, hk, rfl⟩ := List.getElem_of_mem ha
    exact ⟨_, hresults.get hk (hresults.length_eq ▸ hk)⟩
  · intro h
    induction l with
    | nil => exact ⟨[], .nil⟩
    | cons a l ih =>
      obtain ⟨⟨b, hb⟩, htail⟩ := List.forall_mem_cons.mp h
      obtain ⟨bs, hbs⟩ := ih htail
      exact ⟨b :: bs, .cons hb hbs⟩

/-- Every result of checked steps is that of one of them. -/
theorem exists_of_mem_mapM {f : α → Except ε β} {l : List α} {results : List β}
    (h : l.mapM f = .ok results) {b : β} (hb : b ∈ results) : ∃ a ∈ l, f a = .ok b := by
  have hall := mapM_eq_ok_iff.mp h
  obtain ⟨k, hk, rfl⟩ := List.getElem_of_mem hb
  have hk' : k < l.length := hall.length_eq ▸ hk
  exact ⟨l[k], List.getElem_mem hk', hall.get hk' hk⟩

end DevicePoll
