import DevicePoll.Text.Dotted

/-! Prefixes of dotted texts. One text lies above another if the parts of the first one are the first
parts of the second one, with at least one more behind them. -/
namespace DevicePoll.Text

/-- A dotted text goes on behind another one. -/
def IsAbove (above path : String) : Prop := ∃ rest, path = above ++ "." ++ rest

theorem splitDots_append_dot (a b : List Char) :
    splitDots (a ++ '.' :: b) = splitDots a ++ splitDots b := by
  induction a with
  | nil => simp [splitDots]
  | cons c a ih =>
    by_cases hc : c = '.'
    · simp [splitDots, hc, ih]
    · cases hsplit : splitDots a with
      | nil => exact absurd hsplit (splitDots_ne_nil a)
      | cons part parts => simp [splitDots, hc, ih, hsplit]

theorem dot_notMem_of_mem_splitDots {cs part : List Char} (h : part ∈ splitDots cs) :
    '.' ∉ part := by
  induction cs generalizing part with
  | nil =>
    obtain rfl : part = [] := by simpa [splitDots] using h
    simp
  | cons c rest ih =>
    by_cases hc : c = '.'
    · simp only [splitDots, hc, ↓reduceIte, List.mem_cons] at h
      rcases h with rfl | h
      · simp
      · exact ih h
    · cases hsplit : splitDots rest with
      | nil => exact absurd hsplit (splitDots_ne_nil rest)
      | cons first parts =>
        simp only [splitDots, hc, ↓reduceIte, hsplit, List.mem_cons] at h
        rcases h with rfl | h
        · have hfirst : '.' ∉ first := ih (by simp [hsplit])
          simp [hfirst, Ne.symm hc]
        · exact ih (by simp [hsplit, h])

theorem splitDots_of_dot_notMem {cs : List Char} (h : '.' ∉ cs) : splitDots cs = [cs] := by
  induction cs with
  | nil => rfl
  | cons c rest ih =>
    have hc : c ≠ '.' := fun e => h (by simp [e])
    have hrest : '.' ∉ rest := fun e => h (List.mem_cons_of_mem c e)
    simp [splitDots, hc, ih hrest]

theorem splitDots_joinDots {parts : List (List Char)} (hne : parts ≠ [])
    (h : ∀ part ∈ parts, '.' ∉ part) : splitDots (joinDots parts) = parts := by
  induction parts with
  | nil => exact absurd rfl hne
  | cons part parts ih =>
    have hpart := splitDots_of_dot_notMem (h part List.mem_cons_self)
    cases parts with
    | nil => exact hpart
    | cons next parts =>
      have htail := ih (by simp) fun q hq => h q (List.mem_cons_of_mem part hq)
      rw [joinDots, splitDots_append_dot, hpart, htail]
      · rfl
      · simp

theorem joinDots_append {a b : List (List Char)} (ha : a ≠ []) (hb : b ≠ []) :
    joinDots (a ++ b) = joinDots a ++ '.' :: joinDots b := by
  induction a with
  | nil => exact absurd rfl ha
  | cons part a ih =>
    cases a with
    | nil =>
      cases b with
      | nil => exact absurd rfl hb
      | cons next b => rfl
    | cons next a =>
      have htail := ih (by simp)
      simp only [List.cons_append, joinDots] at htail ⊢
      simp [htail]

theorem parts_append_dot (above rest : String) :
    parts (above ++ "." ++ rest) = parts above ++ parts rest := by
  have hlist : (above ++ "." ++ rest).toList = above.toList ++ '.' :: rest.toList := by
    simp
  rw [parts, hlist, splitDots_append_dot, List.map_append]
  rfl

theorem parts_ne_nil (s : String) : parts s ≠ [] := by simp [parts]

theorem dot_notMem_of_mem_parts {path label : String} (h : label ∈ parts path) :
    '.' ∉ label.toList := by
  obtain ⟨part, hpart, rfl⟩ := List.mem_map.mp h
  simpa using dot_notMem_of_mem_splitDots hpart

theorem isLabel_iff {label : String} : isLabel label = true ↔ label ≠ "" ∧ '.' ∉ label.toList := by
  simp [isLabel]

/-- The parts of a path are labels unless they are empty. -/
theorem isLabel_of_mem_parts {path label : String} (h : label ∈ parts path) :
    isLabel label = true ↔ label ≠ "" := by
  rw [isLabel_iff]
  exact and_iff_left (dot_notMem_of_mem_parts h)

theorem parts_dotted {labels : List String} (hne : labels ≠ [])
    (h : ∀ label ∈ labels, '.' ∉ label.toList) : parts (dotted labels) = labels := by
  have hjoin : splitDots (joinDots (labels.map String.toList)) = labels.map String.toList := by
    apply splitDots_joinDots (by simpa using hne)
    intro part hpart
    obtain ⟨label, hlabel, rfl⟩ := List.mem_map.mp hpart
    exact h label hlabel
  simp [parts, dotted, hjoin, Function.comp_def]

/-- Labels without dots are told from their dotted path. -/
theorem dotted_inj {a b : List String} (ha : a ≠ []) (hb : b ≠ [])
    (hdots : ∀ label ∈ a ++ b, '.' ∉ label.toList) (h : dotted a = dotted b) : a = b := by
  rw [← parts_dotted ha fun label hlabel => hdots label (List.mem_append_left b hlabel), h,
    parts_dotted hb fun label hlabel => hdots label (List.mem_append_right a hlabel)]

/-- The texts above a path are those of its first parts. -/
theorem isAbove_of_parts {path : String} {a b : List String} (hparts : parts path = a ++ b)
    (ha : a ≠ []) (hb : b ≠ []) : IsAbove (dotted a) path ∧ parts (dotted a) = a := by
  have hdots : ∀ label ∈ a, '.' ∉ label.toList := by
    intro label hlabel
    have hmem : label ∈ parts path := by rw [hparts]; exact List.mem_append_left b hlabel
    exact dot_notMem_of_mem_parts hmem
  refine ⟨⟨dotted b, ?_⟩, parts_dotted ha hdots⟩
  rw [← dotted_parts path, hparts]
  apply String.toList_inj.mp
  simp [dotted, joinDots_append, ha, hb]

/-- Above a path of two parts there is its first part alone. -/
theorem eq_of_isAbove_pair {above path first second : String} (h : IsAbove above path)
    (hparts : parts path = [first, second]) : above = dotted [first] := by
  obtain ⟨rest, rfl⟩ := h
  rw [parts_append_dot] at hparts
  have hsplit : parts above = [first] := by
    cases habove : parts above with
    | nil => exact absurd habove (parts_ne_nil above)
    | cons label more =>
      rw [habove] at hparts
      cases more with
      | nil => rw [(List.cons.inj hparts).1]
      | cons next more =>
        have hmore : more ++ parts rest = [] :=
          (List.cons.inj (List.cons.inj hparts).2).2
        exact absurd (List.append_eq_nil_iff.mp hmore).2 (parts_ne_nil rest)
  rw [← dotted_parts above, hsplit]

end DevicePoll.Text
