import DevicePoll.Proofs.Decimal.Whole
import DevicePoll.Proofs.Text.Path
import DevicePoll.Proofs.Text.Trimmed
import Mathlib.Data.List.TakeWhile

/-! Identifiers as texts. Numerals that are joined by dots are an identifier, blanks and dots around
them aside, and a text lies below an identifier exactly if it goes on behind it. -/
namespace DevicePoll

theorem isNumeral_append {a b : List Char} (ha : isNumeral a = true) (hb : isNumeral b = true) :
    isNumeral (a ++ b) = true := by
  rw [isNumeral_iff] at ha hb ⊢
  refine ⟨by simp [ha.1], fun c hc => ?_⟩
  rcases List.mem_append.mp hc with hc | hc
  · exact ha.2 c hc
  · exact hb.2 c hc

theorem dot_notMem_of_isNumeral {cs : List Char} (h : isNumeral cs = true) : '.' ∉ cs := by
  intro hdot
  have hdigit := (isNumeral_iff.mp h).2 '.' hdot
  revert hdigit
  decide

/-! ### Joined numerals -/

namespace Text

theorem afterStart?_eq_some_iff {start cs rest : List Char} :
    afterStart? start cs = some rest ↔ cs = start ++ rest := by
  induction start generalizing cs with
  | nil => simp [afterStart?]
  | cons c start ih =>
    cases cs with
    | nil => simp [afterStart?]
    | cons d cs =>
      unfold afterStart?
      split
      · next heq => simp [ih, heq]
      · next hne => simp [Ne.symm hne]

theorem afterStart?_eq_none_iff {start cs : List Char} :
    afterStart? start cs = none ↔ ∀ rest, cs ≠ start ++ rest := by
  simp only [Option.eq_none_iff_forall_ne_some, ne_eq, afterStart?_eq_some_iff]

theorem mem_joinDots {parts : List (List Char)} {c : Char} (h : c ∈ joinDots parts) :
    c = '.' ∨ ∃ part ∈ parts, c ∈ part := by
  induction parts with
  | nil => cases h
  | cons part parts ih =>
    cases parts with
    | nil => exact .inr ⟨part, List.mem_cons_self, h⟩
    | cons next parts =>
      rw [joinDots, List.mem_append, List.mem_cons] at h
      · rcases h with h | h | h
        · exact .inr ⟨part, List.mem_cons_self, h⟩
        · exact .inl h
        · rcases ih h with h | ⟨other, hother, hc⟩
          · exact .inl h
          · exact .inr ⟨other, List.mem_cons_of_mem part hother, hc⟩
      · simp

variable {parts : List (List Char)} (hne : parts ≠ [])
  (hnumerals : ∀ part ∈ parts, isNumeral part = true)
include hne hnumerals

theorem joinDots_starts_with_digit : ∃ c rest, joinDots parts = c :: rest ∧ c.isDigit = true := by
  cases parts with
  | nil => exact absurd rfl hne
  | cons part parts =>
    obtain ⟨hpart, hdigits⟩ := isNumeral_iff.mp (hnumerals part List.mem_cons_self)
    cases part with
    | nil => exact absurd rfl hpart
    | cons c part =>
      have hc := hdigits c List.mem_cons_self
      cases parts with
      | nil => exact ⟨c, part, rfl, hc⟩
      | cons next parts => exact ⟨c, _, rfl, hc⟩

/-- Dots at the start of joined numerals are dropped, and nothing else. -/
theorem dropDots_joinDots (dots : Nat) (rest : List Char) :
    Oid.dropDots (List.replicate dots '.' ++ (joinDots parts ++ rest)) = joinDots parts ++ rest := by
  obtain ⟨c, more, hjoined, hc⟩ := joinDots_starts_with_digit hne hnumerals
  have hdot : ¬c = '.' := by
    rintro rfl
    revert hc
    decide
  have hdots : ∀ d ∈ List.replicate dots '.', decide (d = '.') = true := fun d hd =>
    decide_eq_true (List.eq_of_mem_replicate hd)
  rw [Oid.dropDots, List.dropWhile_append_of_pos hdots, hjoined, List.cons_append,
    List.dropWhile_cons_of_neg (by simpa using hdot)]

end Text

namespace Oid

theorem splitDots_core (oid : Oid) : Text.splitDots oid.core = oid.parts :=
  Text.splitDots_joinDots oid.nonempty fun part hpart =>
    dot_notMem_of_isNumeral (oid.numerals part hpart)

/-- Characters are the dotted form of an identifier exactly if it has the parts between their dots. -/
theorem ofCore?_eq_some_iff {cs : List Char} {oid : Oid} :
    ofCore? cs = some oid ↔ cs = oid.core := by
  unfold ofCore?
  constructor
  · intro h
    split at h
    · cases h
      exact (Text.joinDots_splitDots cs).symm
    · cases h
  · rintro rfl
    have hsplit := splitDots_core oid
    rw [dif_pos (hsplit.symm ▸ oid.numerals)]
    simp only [hsplit]

/-- A text is an identifier if its dotted form is left when blanks and dots in front are dropped. -/
theorem ofText_eq_ok_iff {s : String} {oid : Oid} :
    ofText s = .ok oid ↔ dropDots (Text.trimmed s.toList) = oid.core := by
  obtain ⟨c, rest, hjoined, -⟩ := Text.joinDots_starts_with_digit oid.nonempty oid.numerals
  have hcore : oid.core = c :: rest := hjoined
  simp only [ofText]
  rw [← ofCore?_eq_some_iff]
  constructor
  · intro h
    split at h
    · cases h
    · split at h
      · next found hfound =>
        cases h
        exact hfound
      · cases h
  · intro h
    have hnonempty : (dropDots (Text.trimmed s.toList)).isEmpty = false := by
      rw [ofCore?_eq_some_iff.mp h, hcore, List.isEmpty_cons]
    simp only [hnonempty, Bool.false_eq_true, ↓reduceIte, h]

theorem notBlank_of_mem_core {oid : Oid} {c : Char} (h : c ∈ oid.core) :
    Text.isBlank c = false := by
  rcases Text.mem_joinDots h with rfl | ⟨part, hpart, hc⟩
  · decide
  · exact Text.isBlank_digit ((isNumeral_iff.mp (oid.numerals part hpart)).2 c hc)

/-- Dots in front of the dotted form are dropped, and nothing of what follows them. -/
theorem dropDots_core (oid : Oid) (dots : Nat) (rest : List Char) :
    dropDots (List.replicate dots '.' ++ (oid.core ++ rest)) = oid.core ++ rest :=
  Text.dropDots_joinDots oid.nonempty oid.numerals dots rest

/-- The dotted form of an identifier is read as that identifier, also behind dots. -/
theorem ofText_replicate_core (oid : Oid) (dots : Nat) :
    ofText (String.ofList (List.replicate dots '.' ++ oid.core)) = .ok oid := by
  have htrimmed : Text.trimmed (List.replicate dots '.' ++ oid.core) =
      List.replicate dots '.' ++ oid.core := by
    apply Text.trimmed_eq_self
    intro c hc
    rcases List.mem_append.mp hc with hdot | hcore
    · obtain rfl : c = '.' := List.eq_of_mem_replicate hdot
      decide
    · exact notBlank_of_mem_core hcore
  rw [ofText_eq_ok_iff, String.toList_ofList, htrimmed]
  simpa using dropDots_core oid dots []

/-- Numerals that are joined by dots are read as an identifier of these parts. -/
theorem ofText_joinDots {parts : List (List Char)} (hne : parts ≠ [])
    (hnumerals : ∀ part ∈ parts, isNumeral part = true) :
    ofText (String.ofList (Text.joinDots parts)) = .ok ⟨parts, hne, hnumerals⟩ :=
  ofText_replicate_core ⟨parts, hne, hnumerals⟩ 0

/-- Numerals behind an identifier are an identifier below it. -/
theorem child_joinDots (oid : Oid) {parts : List (List Char)} (hne : parts ≠ [])
    (hnumerals : ∀ part ∈ parts, isNumeral part = true) :
    oid.child (String.ofList (Text.joinDots parts)) = .ok ⟨oid.parts ++ parts, by simp [hne],
      fun part hpart => (List.mem_append.mp hpart).elim (oid.numerals part) (hnumerals part)⟩ := by
  have hdrop : dropDots (Text.joinDots parts) = Text.joinDots parts := by
    simpa using Text.dropDots_joinDots hne hnumerals 0 []
  rw [child, String.toList_ofList, hdrop, core, ← Text.joinDots_append oid.nonempty hne]
  exact ofText_joinDots _ _

theorem exists_dots (cs : List Char) : ∃ dots, cs = List.replicate dots '.' ++ dropDots cs := by
  refine ⟨(cs.takeWhile (· = '.')).length, ?_⟩
  have hdots : cs.takeWhile (· = '.') = List.replicate (cs.takeWhile (· = '.')).length '.' :=
    List.eq_replicate_iff.mpr ⟨rfl, fun c hc => by simpa using List.mem_takeWhile_imp hc⟩
  rw [← hdots, dropDots, List.takeWhile_append_dropWhile]

/-- A text lies below an identifier if it goes on behind it once the dots at its start are dropped. -/
theorem suffixOf_eq_some_iff_dropDots (oid : Oid) {s : String} {parts : List String} :
    oid.suffixOf s = some parts ↔ ∃ rest, dropDots s.toList = oid.core ++ '.' :: rest ∧
      parts = (Text.splitDots rest).map String.ofList := by
  have hafter (rest : List Char) :
      Text.afterStart? (oid.core ++ ['.']) (dropDots s.toList) = some rest ↔
        dropDots s.toList = oid.core ++ '.' :: rest := by
    rw [Text.afterStart?_eq_some_iff, List.append_assoc, List.singleton_append]
  simp only [← hafter, suffixOf]
  cases Text.afterStart? (oid.core ++ ['.']) (dropDots s.toList) with
  | none => simp
  | some rest => simp [eq_comm]

theorem suffixOf_eq_some_iff (oid : Oid) {s : String} {parts : List String} :
    oid.suffixOf s = some parts ↔ ∃ dots rest,
      s.toList = List.replicate dots '.' ++ (oid.core ++ '.' :: rest) ∧
        parts = (Text.splitDots rest).map String.ofList := by
  rw [suffixOf_eq_some_iff_dropDots]
  constructor
  · rintro ⟨rest, hdrop, hparts⟩
    obtain ⟨dots, hs⟩ := exists_dots s.toList
    exact ⟨dots, rest, by rw [← hdrop]; exact hs, hparts⟩
  · rintro ⟨dots, rest, hs, hparts⟩
    exact ⟨rest, by rw [hs, dropDots_core], hparts⟩

/-- Identifiers are equal if their texts are. -/
theorem text_injective : Function.Injective text := by
  intro a b h
  have hcore : a.core = b.core := by simpa [text] using congrArg String.toList h
  have hparts : a.parts = b.parts := by rw [← splitDots_core, ← splitDots_core, hcore]
  cases a
  cases b
  simpa using hparts

end Oid
end DevicePoll
