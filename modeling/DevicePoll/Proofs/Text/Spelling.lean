import DevicePoll.Proofs.Class.Compile
import DevicePoll.Proofs.Document.Quoted
import DevicePoll.Proofs.Text.Identifier

/-! How identifiers are spelled. The texts that are read as an identifier are those of a small grammar,
and the dotted form is the one spelling among them that every way of writing an identifier keeps. -/
namespace DevicePoll

namespace Text

/-- Runs of decimal digits with a single dot between any two of them. -/
inductive IsCore : List Char → Prop
  | run {digits : List Char} (h : isNumeral digits = true) : IsCore digits
  | dot {digits rest : List Char} (h : isNumeral digits = true) (more : IsCore rest) :
      IsCore (digits ++ '.' :: rest)

/-- A text is a core behind any number of dots, with blanks around both. -/
def Spells (s core : String) : Prop :=
  IsCore core.toList ∧ ∃ before dots after, Blanks before ∧ Blanks after ∧
    s.toList = before ++ (List.replicate dots '.' ++ core.toList) ++ after

/-- Cores are the dotted forms of identifiers. -/
theorem isCore_iff {cs : List Char} : IsCore cs ↔ ∃ oid : Oid, oid.core = cs := by
  constructor
  · intro h
    induction h with
    | @run digits h => exact ⟨⟨[digits], by simp, by simpa using h⟩, rfl⟩
    | @dot digits _ h _ ih =>
      obtain ⟨below, rfl⟩ := ih
      refine ⟨⟨[digits] ++ below.parts, by simp, ?_⟩,
        joinDots_append (List.cons_ne_nil digits []) below.nonempty⟩
      exact List.forall_mem_cons.mpr ⟨h, below.numerals⟩
  · rintro ⟨⟨parts, hne, hnumerals⟩, rfl⟩
    induction parts with
    | nil => exact absurd rfl hne
    | cons part parts ih =>
      obtain ⟨hpart, hparts⟩ := List.forall_mem_cons.mp hnumerals
      cases parts with
      | nil => exact .run hpart
      | cons next parts => exact .dot hpart (ih (by simp) hparts)

end Text

namespace Oid

/-- A text is read as an identifier exactly if it spells its text. -/
theorem ofText_eq_ok_iff_spells {s : String} {oid : Oid} :
    ofText s = .ok oid ↔ Text.Spells s oid.text := by
  have htext : oid.text.toList = oid.core := String.toList_ofList
  rw [ofText_eq_ok_iff, Text.Spells, htext]
  constructor
  · intro h
    obtain ⟨before, after, hbefore, hafter, hs⟩ := Text.exists_trimmed s.toList
    obtain ⟨dots, hdots⟩ := exists_dots (Text.trimmed s.toList)
    refine ⟨Text.isCore_iff.mpr ⟨oid, rfl⟩, before, dots, after, hbefore, hafter, ?_⟩
    rw [← h, ← hdots]
    exact hs
  · rintro ⟨-, before, dots, after, hbefore, hafter, hs⟩
    rw [hs, Text.trimmed_between hbefore hafter]
    have hread := ofText_eq_ok_iff.mp (ofText_replicate_core oid dots)
    rwa [String.toList_ofList] at hread

theorem exists_ofText_iff {s core : String} :
    (∃ oid, ofText s = .ok oid ∧ oid.text = core) ↔ Text.Spells s core := by
  constructor
  · rintro ⟨oid, hread, rfl⟩
    exact ofText_eq_ok_iff_spells.mp hread
  · intro h
    obtain ⟨oid, hcore⟩ := Text.isCore_iff.mp h.1
    have htext : oid.text = core := by rw [text, hcore, String.ofList_toList]
    exact ⟨oid, ofText_eq_ok_iff_spells.mpr (htext ▸ h), htext⟩

theorem ofDocument_eq_ok_iff {document : Document} {oid : Oid} :
    ofDocument document = .ok oid ↔ ∃ s, document = .text s ∧ ofText s = .ok oid := by
  cases document with
  | text s =>
    have hread : Document.asText (.text s) = .ok s := rfl
    cases hs : ofText s with
    | ok found => simp [ofDocument, hread, bind, Except.bind, hs]
    | error failure => simp [ofDocument, hread, bind, Except.bind, hs]
  | null | boolean | integer | real | list | object | table =>
    constructor
    · intro h
      cases h
    · rintro ⟨s, hs, -⟩
      cases hs

/-- Two spellings are read alike exactly if they spell the same core. -/
theorem ofText_eq_iff_of_spells {s t core other : String} (hs : Text.Spells s core)
    (ht : Text.Spells t other) : ofText s = ofText t ↔ core = other := by
  obtain ⟨a, ha, rfl⟩ := exists_ofText_iff.mpr hs
  obtain ⟨b, hb, rfl⟩ := exists_ofText_iff.mpr ht
  rw [ha, hb, Except.ok.injEq]
  exact text_injective.eq_iff.symm

/-- An identifier below another one is spelled by the texts of both. -/
theorem spells_of_child {oid below : Oid} {suffix : String} (h : oid.child suffix = .ok below) :
    Text.Spells (oid.text ++ "." ++ String.ofList (dropDots suffix.toList)) below.text := by
  have hspelled := ofText_eq_ok_iff_spells.mp h
  have heq : String.ofList (oid.core ++ '.' :: dropDots suffix.toList) =
      oid.text ++ "." ++ String.ofList (dropDots suffix.toList) := by
    apply String.toList_inj.mp
    simp [text]
  rwa [heq] at hspelled

/-- An identifier is read from its text, its absolute form and its document. -/
theorem reads_of_forms (oid : Oid) : ofText oid.text = .ok oid ∧ ofText oid.absolute = .ok oid ∧
    ofDocument oid.toDocument = .ok oid ∧
    Document.Json.readWith ofDocument (Document.Json.write oid.toDocument) = .ok oid := by
  have htext : ofText oid.text = .ok oid := ofText_replicate_core oid 0
  have habsolute : ofText oid.absolute = .ok oid := by
    have heq : oid.absolute = String.ofList (List.replicate 1 '.' ++ oid.core) := by
      apply String.toList_inj.mp
      simp [absolute, text]
    rw [heq]
    exact ofText_replicate_core oid 1
  have hdocument : ofDocument oid.toDocument = .ok oid :=
    ofDocument_eq_ok_iff.mpr ⟨oid.text, rfl, htext⟩
  refine ⟨htext, habsolute, hdocument, ?_⟩
  exact (Document.Json.readWith_write_text ofDocument oid.text).trans hdocument

/-- The texts that are read as identifiers are those that spell a core, which becomes the text of the
identifier; whatever else is refused is refused as a bad definition. So every way of obtaining an
identifier leads to a core, all its forms are read as it, and identifiers are the same exactly if the
cores that were spelled are. -/
theorem reads_exactly_spellings (s : String) :
    (∀ core, (∃ oid, ofText s = .ok oid ∧ oid.text = core) ↔ Text.Spells s core) ∧
    (∀ failure, ofText s = .error failure → failure.kind = .invalidClass) ∧
    (∀ document oid, ofDocument document = .ok oid ↔
      ∃ t, document = .text t ∧ Text.Spells t oid.text) ∧
    (∀ oid below : Oid, oid.child s = .ok below →
      Text.Spells (oid.text ++ "." ++ String.ofList (dropDots s.toList)) below.text) ∧
    (∀ oid : Oid, ofText oid.text = .ok oid ∧ ofText oid.absolute = .ok oid ∧
      ofDocument oid.toDocument = .ok oid ∧
      Document.Json.readWith ofDocument (Document.Json.write oid.toDocument) = .ok oid) ∧
    ∀ t core other, Text.Spells s core → Text.Spells t other →
      (ofText s = ofText t ↔ core = other) := by
  refine ⟨fun core => exists_ofText_iff, fun failure => kind_of_ofText_error, ?_,
    fun oid below => spells_of_child, reads_of_forms, fun t core other => ofText_eq_iff_of_spells⟩
  intro document oid
  rw [ofDocument_eq_ok_iff]
  simp only [ofText_eq_ok_iff_spells]

/-- An identifier behind two dots between blanks, and the same one behind another identifier. -/
theorem reads_spelling_between_blanks :
    Text.Spells "\u3000..1.3.6\t\n" "1.3.6" ∧ Text.Spells "1.3.6" "1.3.6" ∧
      ofText "\u3000..1.3.6\t\n" = ofText "1.3.6" ∧
      (∃ oid below : Oid, oid.child "..6\n" = .ok below ∧
        Text.Spells (oid.text ++ "." ++ String.ofList (dropDots "..6\n".toList)) below.text) ∧
      ∃ failure, ofText ".1..3" = .error failure ∧ failure.kind = .invalidClass := by
  let oid : Oid := ⟨[['1'], ['3'], ['6']], by simp, by decide⟩
  have hspells := ((reads_exactly_spellings "\u3000..1.3.6\t\n").1 "1.3.6").mp ⟨oid, rfl, rfl⟩
  have hplain := ((reads_exactly_spellings "1.3.6").1 "1.3.6").mp ⟨oid, rfl, rfl⟩
  obtain ⟨-, -, -, -, -, hsame⟩ := reads_exactly_spellings "\u3000..1.3.6\t\n"
  obtain ⟨-, -, -, hchild, -, -⟩ := reads_exactly_spellings "..6\n"
  have hbelow : (⟨[['1'], ['3']], by simp, by decide⟩ : Oid).child "..6\n" = .ok oid := rfl
  refine ⟨hspells, hplain, (hsame "1.3.6" "1.3.6" "1.3.6" hspells hplain).mpr rfl,
    ⟨_, oid, hbelow, hchild _ oid hbelow⟩, _, rfl, ?_⟩
  exact (reads_exactly_spellings ".1..3").2.1 _ rfl

end Oid
end DevicePoll
