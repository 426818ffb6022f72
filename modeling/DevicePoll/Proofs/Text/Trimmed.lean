import DevicePoll.Text.Blank
import Mathlib.Data.List.DropRight

/-! Texts between blanks. A text is its blanks at both ends around its trimmed part, and blanks around
a text change nothing about that part. -/
namespace DevicePoll.Text

/-- Blank characters and nothing else. -/
def Blanks (cs : List Char) : Prop := ∀ c ∈ cs, isBlank c = true

theorem dropEndWhile_append_of_pos {p : Char → Bool} {cs after : List Char}
    (h : ∀ c ∈ after, p c = true) : dropEndWhile p (cs ++ after) = dropEndWhile p cs := by
  have hreverse : ∀ c ∈ after.reverse, p c = true := fun c hc => h c (List.mem_reverse.mp hc)
  rw [dropEndWhile, List.reverse_append, List.dropWhile_append_of_pos hreverse, dropEndWhile]

/-- Nothing in front of a character that stays is dropped from the end. -/
theorem dropEndWhile_append_cons {p : Char → Bool} {c : Char} (h : p c = false)
    (start rest : List Char) :
    dropEndWhile p (start ++ c :: rest) = start ++ c :: dropEndWhile p rest := by
  have hreverse : (start ++ c :: rest).reverse = rest.reverse ++ c :: start.reverse := by simp
  rw [dropEndWhile, hreverse, List.dropWhile_append, dropEndWhile]
  split
  · next hnil =>
    rw [List.isEmpty_iff.mp hnil, List.dropWhile_cons_of_neg (by simp [h])]
    simp
  · simp

theorem exists_trimmed (cs : List Char) :
    ∃ before after, Blanks before ∧ Blanks after ∧ cs = before ++ trimmed cs ++ after := by
  refine ⟨cs.takeWhile isBlank, (cs.dropWhile isBlank).rtakeWhile isBlank,
    fun c hc => List.mem_takeWhile_imp hc, fun c hc => List.mem_rtakeWhile_imp hc, ?_⟩
  have hend : trimmed cs ++ (cs.dropWhile isBlank).rtakeWhile isBlank = cs.dropWhile isBlank :=
    List.rdropWhile_append_rtakeWhile
  rw [List.append_assoc, hend, List.takeWhile_append_dropWhile]

/-- Blanks around a text are trimmed away. -/
theorem trimmed_between {before mid after : List Char} (hbefore : Blanks before)
    (hafter : Blanks after) : trimmed (before ++ mid ++ after) = trimmed mid := by
  have hfront : (before ++ mid ++ after).dropWhile isBlank = (mid ++ after).dropWhile isBlank := by
    rw [List.append_assoc, List.dropWhile_append_of_pos hbefore]
  rw [trimmed, trimmed, hfront, List.dropWhile_append]
  split
  · next hnil =>
    have hall : after.dropWhile isBlank = [] := List.dropWhile_eq_nil_iff.mpr hafter
    rw [List.isEmpty_iff.mp hnil, hall]
  · exact dropEndWhile_append_of_pos hafter

theorem trimmed_cons {first : Char} {rest : List Char} (hfirst : isBlank first = false) :
    trimmed (first :: rest) = first :: dropEndWhile isBlank rest := by
  rw [trimmed, List.dropWhile_cons_of_neg (by simp [hfirst])]
  exact dropEndWhile_append_cons hfirst [] rest

theorem trimmed_trimmed (cs : List Char) : trimmed (trimmed cs) = trimmed cs := by
  obtain ⟨before, after, hbefore, hafter, hcs⟩ := exists_trimmed cs
  conv_rhs => rw [hcs]
  exact (trimmed_between hbefore hafter).symm

theorem trimmed_eq_self {cs : List Char} (h : ∀ c ∈ cs, isBlank c = false) : trimmed cs = cs := by
  obtain ⟨before, after, hbefore, hafter, hcs⟩ := exists_trimmed cs
  have hnone {blanks : List Char} (hblanks : Blanks blanks) (hmem : ∀ c ∈ blanks, c ∈ cs) :
      blanks = [] := by
    apply List.eq_nil_iff_forall_not_mem.mpr
    intro c hc
    exact absurd (hblanks c hc) (by simp [h c (hmem c hc)])
  rw [hnone hbefore (fun c hc => by rw [hcs]; simp [hc]),
    hnone hafter (fun c hc => by rw [hcs]; simp [hc])] at hcs
  simpa using hcs.symm

end DevicePoll.Text
