import DevicePoll.Class.Overlay

/-! Compiling class definitions. Whatever a definition is refused for, the failure is one of the
definition itself. -/
namespace DevicePoll

theorem Oid.kind_of_ofText_error {s : String} {failure : Failure}
    (h : Oid.ofText s = .error failure) : failure.kind = .invalidClass := by
  simp only [Oid.ofText] at h
  split at h
  · cases h
    rfl
  · split at h
    · cases h
    · cases h
      rfl

/-- A list of checked steps fails only if one of its steps does. -/
theorem mapM_error {α β : Type} {f : α → Outcome β} {l : List α} {failure : Failure}
    (h : l.mapM f = .error failure) : ∃ a ∈ l, f a = .error failure := by
  induction l with
  | nil => cases h
  | cons a rest ih =>
    rw [List.mapM_cons] at h
    cases hhead : f a with
    | error e =>
      rw [hhead] at h
      cases h
      exact ⟨a, List.mem_cons_self, hhead⟩
    | ok b =>
      cases htail : rest.mapM f with
      | ok bs =>
        rw [hhead, htail] at h
        cases h
      | error e =>
        rw [hhead, htail] at h
        cases h
        obtain ⟨c, hc, hfails⟩ := ih htail
        exact ⟨c, List.mem_cons_of_mem a hc, hfails⟩

theorem map_error {α β : Type} {f : α → β} {outcome : Outcome α} {failure : Failure}
    (h : f <$> outcome = .error failure) : outcome = .error failure := by
  cases outcome with
  | ok value => cases h
  | error e =>
    cases h
    rfl

theorem NodeSpec.kind_of_compile_error {path : String} {spec : NodeSpec} {failure : Failure}
    (h : NodeSpec.compile path spec = .error failure) : failure.kind = .invalidClass := by
  induction spec generalizing path with
  | leaf spec =>
    unfold NodeSpec.compile at h
    cases hoid : Oid.ofText spec.oid with
    | ok oid =>
      rw [hoid] at h
      cases h
    | error e =>
      rw [hoid] at h
      cases h
      exact (Failure.kind_within _ e).trans (Oid.kind_of_ofText_error hoid)
  | group labels child ih =>
    unfold NodeSpec.compile at h
    obtain ⟨label, -, hlabel⟩ := mapM_error (map_error h)
    split at hlabel
    · exact ih label.1 label.2 (map_error hlabel)
    · cases hlabel
      rfl

theorem ClassOverlay.kind_of_queryTree_error {overlay : ClassOverlay} {failure : Failure}
    (h : overlay.queryTree = .error failure) : failure.kind = .invalidClass := by
  unfold ClassOverlay.queryTree at h
  cases hnode : NodeSpec.compile "" overlay.properties.toNode with
  | ok node =>
    rw [hnode] at h
    cases h
  | error e =>
    rw [hnode] at h
    cases h
    exact (Failure.kind_within _ e).trans (NodeSpec.kind_of_compile_error hnode)

end DevicePoll
