import DevicePoll.Proofs.Text.Identifier

/-! Identifiers below identifiers. Going down by further parts and asking which parts lie below are
inverse to each other, and whether a text lies below an identifier is a matter of whole parts. -/
namespace DevicePoll
namespace Oid

/-- A text without the dots in front of it and without the blanks behind it. -/
def stem (s : String) : String :=
  String.ofList (Text.dropEndWhile Text.isBlank (dropDots s.toList))

/-- Texts of decimal digits, at least one of them. -/
def Numerals (parts : List String) : Prop :=
  parts ≠ [] ∧ ∀ part ∈ parts, isNumeral part.toList = true

theorem Numerals.append {a b : List String} (ha : Numerals a) (hb : Numerals b) :
    Numerals (a ++ b) := by
  refine ⟨by simp [ha.1], fun part hpart => ?_⟩
  rcases List.mem_append.mp hpart with hmem | hmem
  · exact ha.2 part hmem
  · exact hb.2 part hmem

/-- What goes down from an identifier is read as its dotted form, a dot and the stem of the text. -/
theorem dropDots_trimmed_below (oid : Oid) (s : String) :
    dropDots (Text.trimmed (oid.core ++ '.' :: dropDots s.toList)) =
      oid.core ++ '.' :: (stem s).toList := by
  obtain ⟨c, rest, hcore, hdigit⟩ := Text.joinDots_starts_with_digit oid.nonempty oid.numerals
  have hblank : Text.isBlank c = false := Text.isBlank_digit hdigit
  have hdot : Text.isBlank '.' = false := by decide
  have htrimmed : Text.trimmed (oid.core ++ '.' :: dropDots s.toList) =
      oid.core ++ '.' :: (stem s).toList := by
    rw [core, hcore, List.cons_append, Text.trimmed_cons hblank,
      Text.dropEndWhile_append_cons hdot, stem, String.toList_ofList, List.cons_append]
  rw [htrimmed]
  exact dropDots_core oid 0 _

/-- One goes down to an identifier exactly by a text whose stem is numerals that it has behind the
parts from where one goes. -/
theorem child_eq_ok_iff {oid below : Oid} {s : String} :
    oid.child s = .ok below ↔ ∃ parts, Numerals parts ∧ stem s = Text.dotted parts ∧
      below.parts = oid.parts ++ parts.map String.toList := by
  rw [child, ofText_eq_ok_iff, String.toList_ofList, dropDots_trimmed_below]
  constructor
  · intro h
    have hparts : below.parts = oid.parts ++ Text.splitDots (stem s).toList := by
      rw [← splitDots_core, ← h, Text.splitDots_append_dot, splitDots_core]
    have hlist : (Text.parts (stem s)).map String.toList = Text.splitDots (stem s).toList := by
      simp [Text.parts, Function.comp_def]
    refine ⟨Text.parts (stem s), ⟨Text.parts_ne_nil _, fun part hpart => ?_⟩,
      (Text.dotted_parts _).symm, by rw [hlist, hparts]⟩
    apply below.numerals
    rw [hparts, ← hlist]
    exact List.mem_append_right _ (List.mem_map_of_mem hpart)
  · rintro ⟨parts, hnumerals, hstem, hparts⟩
    have hne : parts.map String.toList ≠ [] := by simpa using hnumerals.1
    rw [core, core, hparts, Text.joinDots_append oid.nonempty hne, hstem, Text.dotted,
      String.toList_ofList]

/-- Numerals below an identifier can always be gone down by. -/
theorem exists_child (oid : Oid) {s : String} {parts : List String} (hnumerals : Numerals parts)
    (hstem : stem s = Text.dotted parts) :
    ∃ below : Oid, oid.child s = .ok below ∧ below.parts = oid.parts ++ parts.map String.toList := by
  have hmem : ∀ part ∈ oid.parts ++ parts.map String.toList, isNumeral part = true := by
    intro part hpart
    rcases List.mem_append.mp hpart with hmem | hmem
    · exact oid.numerals part hmem
    · obtain ⟨label, hlabel, rfl⟩ := List.mem_map.mp hmem
      exact hnumerals.2 label hlabel
  refine ⟨⟨oid.parts ++ parts.map String.toList, by simp [oid.nonempty], hmem⟩, ?_, rfl⟩
  exact child_eq_ok_iff.mpr ⟨parts, hnumerals, hstem, rfl⟩

theorem stem_dotted {parts : List String} (h : Numerals parts) :
    stem (Text.dotted parts) = Text.dotted parts := by
  have hne : parts.map String.toList ≠ [] := by simpa using h.1
  let oid : Oid := ⟨parts.map String.toList, hne, by simpa using h.2⟩
  have hdrop : dropDots (Text.dotted parts).toList = oid.core := by
    have hkeep := dropDots_core oid 0 []
    simpa [Text.dotted, core] using hkeep
  have hend : Text.dropEndWhile Text.isBlank oid.core = oid.core := by
    apply List.rdropWhile_eq_self_iff.mpr
    intro hcore
    have hlast : Text.isBlank (oid.core.getLast hcore) = false :=
      notBlank_of_mem_core (List.getLast_mem hcore)
    simp [hlast]
  rw [stem, hdrop, hend, Text.dotted]
  rfl

/-- A text lies below an identifier if its parts, dots at its start aside, are those of the identifier
and at least one more. -/
theorem suffixOf_eq_some_iff_parts (oid : Oid) {x : String} {parts : List String} :
    oid.suffixOf x = some parts ↔ parts ≠ [] ∧
      Text.splitDots (dropDots x.toList) = oid.parts ++ parts.map String.toList := by
  rw [suffixOf_eq_some_iff_dropDots]
  constructor
  · rintro ⟨rest, hdrop, rfl⟩
    refine ⟨by simp, ?_⟩
    rw [hdrop, Text.splitDots_append_dot, splitDots_core]
    simp [Function.comp_def]
  · rintro ⟨hne, hsplit⟩
    have hmap : parts.map String.toList ≠ [] := by simpa using hne
    have hdrop : dropDots x.toList =
        oid.core ++ '.' :: Text.joinDots (parts.map String.toList) := by
      rw [core, ← Text.joinDots_append oid.nonempty hmap, ← hsplit, Text.joinDots_splitDots]
    refine ⟨Text.joinDots (parts.map String.toList), hdrop, ?_⟩
    rw [hdrop, Text.splitDots_append_dot, splitDots_core] at hsplit
    rw [List.append_cancel_left hsplit]
    simp [Function.comp_def]

/-- The parts of an identifier below another one are found again in its text and its absolute form. -/
theorem suffixOf_of_parts {oid below : Oid} {parts : List String} (hne : parts ≠ [])
    (hbelow : below.parts = oid.parts ++ parts.map String.toList) :
    oid.suffixOf below.text = some parts ∧ oid.suffixOf below.absolute = some parts := by
  have hdrop (dots : Nat) : dropDots (List.replicate dots '.' ++ below.core) = below.core := by
    simpa using dropDots_core below dots []
  constructor
  · rw [suffixOf_eq_some_iff_parts, text, String.toList_ofList]
    exact ⟨hne, by rw [show dropDots below.core = below.core from hdrop 0, splitDots_core, hbelow]⟩
  · have habsolute : below.absolute.toList = List.replicate 1 '.' ++ below.core := by
      simp [absolute, text]
    rw [suffixOf_eq_some_iff_parts, habsolute, hdrop, splitDots_core]
    exact ⟨hne, hbelow⟩

theorem suffixOf_eq_some_iff_text (oid : Oid) {x : String} {parts : List String} (hne : parts ≠ [])
    (hdots : ∀ part ∈ parts, '.' ∉ part.toList) :
    oid.suffixOf x = some parts ↔
      String.ofList (dropDots x.toList) = oid.text ++ "." ++ Text.dotted parts := by
  have hmap : parts.map String.toList ≠ [] := by simpa using hne
  have hjoin : Text.splitDots (Text.joinDots (parts.map String.toList)) = parts.map String.toList :=
    Text.splitDots_joinDots hmap (by simpa using hdots)
  have htext : (oid.text ++ "." ++ Text.dotted parts).toList =
      oid.core ++ '.' :: Text.joinDots (parts.map String.toList) := by
    simp [text, Text.dotted]
  rw [suffixOf_eq_some_iff_parts, ← String.toList_inj, String.toList_ofList, htext]
  constructor
  · rintro ⟨-, hsplit⟩
    rw [core, ← Text.joinDots_append oid.nonempty hmap, ← hsplit, Text.joinDots_splitDots]
  · intro hdrop
    exact ⟨hne, by rw [hdrop, Text.splitDots_append_dot, splitDots_core, hjoin]⟩

/-- A text whose part only starts like the last part of an identifier does not lie below it. -/
theorem suffixOf_sibling (oid : Oid) {x : String} {above rest : List (List Char)}
    {last more : List Char} (hparts : oid.parts = above ++ [last]) (hmore : more ≠ [])
    (hx : Text.splitDots (dropDots x.toList) = above ++ (last ++ more) :: rest) :
    oid.suffixOf x = none := by
  cases hsuffix : oid.suffixOf x with
  | none => rfl
  | some parts =>
    obtain ⟨-, hsplit⟩ := (suffixOf_eq_some_iff_parts oid).mp hsuffix
    rw [hx, hparts, List.append_assoc, List.append_cancel_left_eq] at hsplit
    have hlast : last ++ more = last := (List.cons.inj hsplit).1
    exact absurd (List.append_right_eq_self.mp hlast) hmore

/-- Going down twice is going down once by both texts with a dot between them. -/
theorem child_child (oid : Oid) {a b : List String} (ha : Numerals a) (hb : Numerals b) :
    ∃ middle below : Oid, oid.child (Text.dotted a) = .ok middle ∧
      middle.child (Text.dotted b) = .ok below ∧
      oid.child (Text.dotted a ++ "." ++ Text.dotted b) = .ok below := by
  have hboth : Text.dotted a ++ "." ++ Text.dotted b = Text.dotted (a ++ b) := by
    have hne : a.map String.toList ≠ [] ∧ b.map String.toList ≠ [] := by simp [ha.1, hb.1]
    apply String.toList_inj.mp
    simp [Text.dotted, Text.joinDots_append hne.1 hne.2]
  obtain ⟨middle, hmiddle, hmiddleParts⟩ := exists_child oid ha (stem_dotted ha)
  obtain ⟨below, hbelow, hbelowParts⟩ := exists_child middle hb (stem_dotted hb)
  refine ⟨middle, below, hmiddle, hbelow, ?_⟩
  rw [hboth, child_eq_ok_iff]
  refine ⟨a ++ b, ha.append hb, stem_dotted (ha.append hb), ?_⟩
  rw [hbelowParts, hmiddleParts, List.append_assoc, List.map_append]

/-- Going down and asking which parts lie below are inverse to each other. One goes down exactly by a
text whose stem is numerals, and finds them again behind the identifier; a text has given parts below
an identifier exactly if it is the identifier, a dot and these parts; a sibling has none; and going
down twice is going down once. -/
theorem child_inverse_suffixOf (oid : Oid) :
    (∀ s, (∃ below, oid.child s = .ok below) ↔
      ∃ parts, Numerals parts ∧ stem s = Text.dotted parts) ∧
    (∀ s below parts, oid.child s = .ok below → Numerals parts → stem s = Text.dotted parts →
      oid.suffixOf below.text = some parts ∧ oid.suffixOf below.absolute = some parts) ∧
    (∀ x parts, parts ≠ [] → (∀ part ∈ parts, '.' ∉ part.toList) →
      (oid.suffixOf x = some parts ↔
        String.ofList (dropDots x.toList) = oid.text ++ "." ++ Text.dotted parts)) ∧
    (∀ x above last more rest, oid.parts = above ++ [last] → more ≠ [] →
      Text.splitDots (dropDots x.toList) = above ++ (last ++ more) :: rest →
      oid.suffixOf x = none) ∧
    ∀ a b, Numerals a → Numerals b → ∃ middle below, oid.child (Text.dotted a) = .ok middle ∧
      middle.child (Text.dotted b) = .ok below ∧
      oid.child (Text.dotted a ++ "." ++ Text.dotted b) = .ok below := by
  refine ⟨fun s => ⟨?_, ?_⟩, ?_, fun x parts => suffixOf_eq_some_iff_text oid,
    fun x above last more rest => suffixOf_sibling oid, fun a b => child_child oid⟩
  · rintro ⟨below, hbelow⟩
    obtain ⟨parts, hnumerals, hstem, -⟩ := child_eq_ok_iff.mp hbelow
    exact ⟨parts, hnumerals, hstem⟩
  · rintro ⟨parts, hnumerals, hstem⟩
    obtain ⟨below, hbelow, -⟩ := exists_child oid hnumerals hstem
    exact ⟨below, hbelow⟩
  · intro s below parts hbelow hnumerals hstem
    obtain ⟨found, hfound, hfoundParts⟩ := exists_child oid hnumerals hstem
    obtain rfl : found = below := Except.ok.inj (hfound.symm.trans hbelow)
    exact suffixOf_of_parts hnumerals.1 hfoundParts

/-- Below `1.3.6`, behind dots and before a blank, and beside it. -/
theorem child_inverse_suffixOf_three_parts :
    ∃ oid below : Oid, oid.text = "1.3.6" ∧ Numerals ["4", "17"] ∧
      stem "..4.17\n" = Text.dotted ["4", "17"] ∧ oid.child "..4.17\n" = .ok below ∧
      oid.suffixOf below.absolute = some ["4", "17"] ∧
      oid.suffixOf ".1.3.6.x" = some ["x"] ∧ oid.suffixOf "1.3.60.1" = none ∧
      ∃ middle, oid.child (Text.dotted ["4"]) = .ok middle := by
  let oid : Oid := ⟨[['1'], ['3'], ['6']], by simp, by decide⟩
  let below : Oid := ⟨[['1'], ['3'], ['6'], ['4'], ['1', '7']], by simp, by decide⟩
  obtain ⟨-, hfound, htext, hsibling, hchild⟩ := child_inverse_suffixOf oid
  have hnumerals : Numerals ["4", "17"] := ⟨by simp, by decide⟩
  have hstem : stem "..4.17\n" = Text.dotted ["4", "17"] := by decide +kernel
  have hbelow : oid.child "..4.17\n" = .ok below :=
    child_eq_ok_iff.mpr ⟨["4", "17"], hnumerals, hstem, by decide +kernel⟩
  have hbeside : Text.splitDots (dropDots "1.3.60.1".toList) = [['1'], ['3']] ++ (['6'] ++ ['0']) ::
      [['1']] := by decide +kernel
  obtain ⟨middle, -, hmiddle, -, -⟩ := hchild ["4"] ["17"] ⟨by simp, by decide⟩ ⟨by simp, by decide⟩
  have hsuffix := (hfound _ below _ hbelow hnumerals hstem).2
  have hletter := (htext ".1.3.6.x" ["x"] (by simp) (by decide)).mpr (by decide +kernel)
  have htext : oid.text = "1.3.6" := by decide +kernel
  have hnone := hsibling "1.3.60.1" [['1'], ['3']] ['6'] ['0'] [['1']] rfl (by simp) hbeside
  exact ⟨oid, below, htext, hnumerals, hstem, hbelow, hsuffix, hletter, hnone, middle, hmiddle⟩

end Oid
end DevicePoll
