import DevicePoll.Document.Json
import DevicePoll.Text.Quoted
import Mathlib.Data.List.Basic

/-! Texts in quotes. Whatever characters a text has, the text that is written for it is read as that
text again, one character after the other. -/
namespace DevicePoll.Document.Json

theorem length_le_byteCount (cs : List Char) : cs.length ≤ byteCount cs := by
  have hfold : ∀ (l : List Char) (n : Nat), n + l.length ≤ l.foldl (fun n c => n + c.utf8Size) n := by
    intro l
    induction l with
    | nil => intro n; simp
    | cons c l ih =>
      intro n
      have hstep := ih (n + c.utf8Size)
      have hsize := c.utf8Size_pos
      simp only [List.length_cons, List.foldl_cons]
      omega
  simpa [byteCount] using hfold cs 0

theorem scanHex_append {ds : List Char} {n : Nat} (hlength : ds.length = 4)
    (hvalue : Text.magnitude? 16 ds = some n) (rest : List Char) :
    scanHex (ds ++ rest) = .ok (n, rest) := by
  have hbytes : ¬byteCount (ds ++ rest) < 4 := by
    have hle := length_le_byteCount (ds ++ rest)
    rw [List.length_append, hlength] at hle
    omega
  have hlong : ¬(ds ++ rest).length < 4 := by
    rw [List.length_append, hlength]
    omega
  have htake : (ds ++ rest).take 4 = ds := List.take_left' hlength
  have hdrop : (ds ++ rest).drop 4 = rest := List.drop_left' hlength
  simp only [scanHex, hbytes, hlong, htake, hdrop, hvalue, ↓reduceIte]

/-- A control character is written by four hexadecimal digits that denote it. -/
theorem scanCodePoint_control {c : Char} (h : c.toNat < 0x20) (rest : List Char) :
    scanCodePoint (['0', '0'] ++ (if c.toNat < 0x10 then ['0'] else []) ++ Text.hexDigits c.toNat
      ++ rest) = .ok (c, rest) := by
  have hdigits : ∀ n < 0x20,
      (['0', '0'] ++ (if n < 0x10 then ['0'] else []) ++ Text.hexDigits n).length = 4 ∧
      Text.magnitude? 16 (['0', '0'] ++ (if n < 0x10 then ['0'] else []) ++ Text.hexDigits n) =
        some n := by
    decide
  obtain ⟨hlength, hvalue⟩ := hdigits c.toNat h
  have hlow : ¬(0xDC00 ≤ c.toNat ∧ c.toNat ≤ 0xDFFF) := by omega
  have hhigh : ¬(0xD800 ≤ c.toNat ∧ c.toNat ≤ 0xDBFF) := by omega
  simp only [scanCodePoint, scanHex_append hlength hvalue, hlow, hhigh, ↓reduceIte, Char.ofNat_toNat]

/-- What is written for a character is read as that character. -/
theorem scanText_writtenChar (fuel : Nat) (read : List Char) (c : Char) (rest : List Char) :
    scanText (fuel + 1) read (Text.writtenChar c ++ rest) = scanText fuel (c :: read) rest := by
  unfold Text.writtenChar
  split
  case h_8 hquote hslash _ _ _ _ _ =>
    split
    · next hcontrol =>
      have hcode := scanCodePoint_control hcontrol rest
      simp only [List.cons_append, List.nil_append, List.append_assoc] at hcode ⊢
      simp [scanText, hcode]
    · next hplain =>
      have hne : c ≠ '"' ∧ c ≠ '\\' := ⟨hquote, hslash⟩
      simp [scanText, hplain, hne]
  all_goals rfl

theorem scanText_written (cs read rest : List Char) {fuel : Nat} (hfuel : cs.length < fuel) :
    scanText fuel read (cs.flatMap Text.writtenChar ++ '"' :: rest) =
      .ok (String.ofList (read.reverse ++ cs), rest) := by
  induction cs generalizing read fuel with
  | nil =>
    obtain ⟨fuel, rfl⟩ := Nat.exists_eq_add_of_lt hfuel
    simp [scanText]
  | cons c cs ih =>
    cases fuel with
    | zero => exact absurd hfuel (Nat.not_lt_zero _)
    | succ fuel =>
      rw [List.flatMap_cons, List.append_assoc, scanText_writtenChar,
        ih (c :: read) (Nat.lt_of_succ_lt_succ hfuel)]
      simp

theorem length_le_written (cs : List Char) : cs.length ≤ (cs.flatMap Text.writtenChar).length := by
  induction cs with
  | nil => simp
  | cons c cs ih =>
    have hone : 1 ≤ (Text.writtenChar c).length := by
      unfold Text.writtenChar
      split
      case h_8 => split <;> simp
      all_goals decide
    simp only [List.flatMap_cons, List.length_append, List.length_cons]
    omega

/-- A text is written so that reading gives it back. -/
theorem readWith_write_text {α : Type} (read : Document → Read α) (s : String) :
    readWith read (write (.text s)) = read (.text s) := by
  have hlist : (Text.written s).toList = '"' :: (s.toList.flatMap Text.writtenChar ++ ['"']) := by
    simp [Text.written]
  have hquoted : scanQuoted (s.toList.flatMap Text.writtenChar ++ ['"']) = .ok (s, []) := by
    have hfuel : s.toList.length < (s.toList.flatMap Text.writtenChar ++ ['"']).length + 1 := by
      have hlength := length_le_written s.toList
      rw [List.length_append]
      omega
    simpa [scanQuoted] using scanText_written s.toList [] [] hfuel
  have hscan (fuel : Nat) : scanDocument (fuel + 1) maxDepth (Text.written s).toList =
      .ok (.text s, []) := by
    rw [hlist]
    simp [scanDocument, skip, isSpace, hquoted, Except.map]
  rw [write, readWith]
  simp only [hscan]
  cases read (.text s) <;> rfl

end DevicePoll.Document.Json
