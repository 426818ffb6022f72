import DevicePoll.Override.Sap
import DevicePoll.Proofs.Document.Checked
import DevicePoll.Proofs.Query.Unhurried
import DevicePoll.Proofs.Text.Identifier

/-! Rows of the table of access points. A row names an access point by three numbers, the last two of
which make the index of an interface, and its counters stand in two columns under the same numbers.
Here it is told what each step of the reading of a row accepts, and what it makes of that. -/
namespace DevicePoll.Sap

/-! ### The identifiers of a row -/

namespace Index

/-- The parts of identifiers that name the access point. -/
def numbers (i : Index) : List (List Char) := [i.service.toList, i.trunk.toList, i.sub.toList]

/-- The numbers are written in decimal digits. -/
def IsNumeral (i : Index) : Prop := ∀ number ∈ i.numbers, isNumeral number = true

/-- The text names the access point in the table, dots at its start aside. -/
def IsAt (i : Index) (oid : String) : Prop :=
  i.IsNumeral ∧ ∃ dots, oid = String.ofList (List.replicate dots '.') ++ tableOid.text ++ "." ++
    i.service ++ "." ++ i.trunk ++ "." ++ i.sub

/-- The number that the digits of the trunk and of the access point itself make together. -/
def interfaceNumber (i : Index) : Nat := Nat.ofDigitChars 10 (i.trunk ++ i.sub).toList 0

variable {i : Index}

theorem suffix_eq (i : Index) : i.suffix = String.ofList (Text.joinDots i.numbers) := by
  apply String.toList_inj.mp
  simp [suffix, numbers, Text.joinDots]

theorem isNumeral_iff_all : i.IsNumeral ↔
    ([i.service, i.trunk, i.sub].all fun part => DevicePoll.isNumeral part.toList) = true := by
  simp [IsNumeral, numbers]

theorem isAt_iff {oid : String} : i.IsAt oid ↔ i.IsNumeral ∧ ∃ dots, oid.toList =
    List.replicate dots '.' ++ (tableOid.core ++ '.' :: Text.joinDots i.numbers) := by
  refine and_congr_right fun _ => exists_congr fun dots => ?_
  rw [← String.toList_inj]
  simp [Oid.text, numbers, Text.joinDots]

theorem ofParts_eq_ok_iff {parts : List String} :
    ofParts parts = .ok i ↔ parts = [i.service, i.trunk, i.sub] ∧ i.IsNumeral := by
  constructor
  · intro h
    unfold ofParts at h
    split at h
    · split at h
      · next hall =>
        cases h
        exact ⟨rfl, isNumeral_iff_all.mpr hall⟩
      · cases h
    · cases h
  · rintro ⟨rfl, hnumeral⟩
    simp only [ofParts, isNumeral_iff_all.mp hnumeral, ↓reduceIte]

/-- A row is for the access point that its identifier names. -/
theorem ofResponse_eq_ok_iff {oid : String} : ofResponse oid = .ok i ↔ i.IsAt oid := by
  rw [isAt_iff]
  constructor
  · intro h
    rw [ofResponse] at h
    cases hsuffix : tableOid.suffixOf oid with
    | none => simp [hsuffix, Outcome.fails] at h
    | some parts =>
      rw [hsuffix] at h
      obtain ⟨hparts, hnumeral⟩ := ofParts_eq_ok_iff.mp h
      obtain ⟨dots, rest, hoid, hrest⟩ := tableOid.suffixOf_eq_some_iff.mp hsuffix
      have hsplit : Text.splitDots rest = i.numbers := by
        have hlists := congrArg (List.map String.toList) (hrest.symm.trans hparts)
        simpa [Function.comp_def, numbers] using hlists
      refine ⟨hnumeral, dots, ?_⟩
      rw [hoid, ← hsplit, Text.joinDots_splitDots]
  · rintro ⟨hnumeral, dots, hoid⟩
    have hsplit : Text.splitDots (Text.joinDots i.numbers) = i.numbers :=
      Text.splitDots_joinDots (by simp [numbers]) fun number hnumber =>
        dot_notMem_of_isNumeral (hnumeral number hnumber)
    have hsuffix : tableOid.suffixOf oid = some [i.service, i.trunk, i.sub] := by
      refine tableOid.suffixOf_eq_some_iff.mpr ⟨dots, _, hoid, ?_⟩
      rw [hsplit]
      simp [numbers]
    rw [ofResponse, hsuffix]
    exact ofParts_eq_ok_iff.mpr ⟨rfl, hnumeral⟩

/-- The interface of an access point has the number that trunk and access point make together, if that
number is below `2 ^ 64`. -/
theorem interfaceIndex_eq (h : i.IsNumeral) :
    i.interfaceIndex = if i.interfaceNumber < 2 ^ 64 then .ok (UInt64.ofNat i.interfaceNumber)
      else Outcome.fails (.sapIndexTooLarge i.trunk i.sub) := by
  have hdigits : DevicePoll.isNumeral (i.trunk.toList ++ i.sub.toList) = true := by
    apply isNumeral_append <;> apply h <;> simp [numbers]
  have hnumber : Nat.ofDigitChars 10 (i.trunk.toList ++ i.sub.toList) 0 = i.interfaceNumber := by
    rw [interfaceNumber, String.toList_append]
  rw [interfaceIndex, Decimal.readNat_eq hdigits, hnumber]
  by_cases hbound : i.interfaceNumber < 2 ^ 64
  · rw [if_pos hbound, if_pos hbound]
  · rw [if_neg hbound, if_neg hbound]

theorem interfaceIndex_eq_ok_iff (h : i.IsNumeral) {n : UInt64} :
    i.interfaceIndex = .ok n ↔ i.interfaceNumber = n.toNat := by
  rw [interfaceIndex_eq h]
  constructor
  · intro heq
    split at heq
    · next hbound =>
      obtain rfl := Except.ok.inj heq
      exact (UInt64.toNat_ofNat_of_lt hbound).symm
    · cases heq
  · intro heq
    rw [if_pos (heq ▸ n.toNat_lt), heq, UInt64.ofNat_toNat]

/-- The identifier of what a column holds of the access point. -/
def below (i : Index) (h : i.IsNumeral) (column : Oid) : Oid where
  parts := column.parts ++ i.numbers
  nonempty := by simp [numbers]
  numerals := fun part hpart => (List.mem_append.mp hpart).elim (column.numerals part) (h part)

theorem text_below (h : i.IsNumeral) (column : Oid) :
    (i.below h column).text = column.text ++ "." ++ i.suffix := by
  apply String.toList_inj.mp
  simp only [below, Oid.text, Oid.core, suffix_eq, String.toList_append, String.toList_ofList]
  rw [Text.joinDots_append column.nonempty (by simp [numbers])]
  simp

/-- Identifiers below a column are always well-formed. -/
theorem child_suffix (h : i.IsNumeral) (column : Oid) :
    column.child i.suffix = .ok (i.below h column) := by
  rw [suffix_eq]
  exact column.child_joinDots (by simp [numbers]) h

end Index

/-! ### Counters -/

/-- What the reply to a get says of a counter: its number, or nothing where nothing is found. -/
inductive Counts : Outcome Scalar → Option UInt64 → Prop
  | absent {failure : Failure} (h : failure.kind = .notFound) : Counts (.error failure) none
  | number {value : Scalar} {n : UInt64} (h : value.toUnsigned = .ok n) : Counts (.ok value) (some n)

theorem counterOutcome_eq_ok_iff {reply : Outcome Scalar} {found : Option UInt64} :
    counterOutcome reply = .ok found ↔ Counts reply found := by
  constructor
  · intro h
    cases reply with
    | ok value =>
      obtain ⟨n, hn, rfl⟩ := map_eq_ok h
      exact .number hn
    | error failure =>
      rw [counterOutcome] at h
      split at h
      · next hnotFound =>
        cases h
        exact .absent (by simpa [Failure.isNotFound] using hnotFound)
      · cases h
  · rintro (h | h)
    · simp [counterOutcome, Failure.isNotFound, h]
    · simp [counterOutcome, h, Except.map]

/-- The columns of the counters. -/
def column : SapField → Oid
  | .inbound => inboundOid
  | .outbound => outboundOid

variable (answer : (request : Request) → Outcome request.Reply)

/-- What the device answers for a counter of the access point. -/
def Index.reply (i : Index) (h : i.IsNumeral) (field : SapField) : Outcome Scalar :=
  answer (.get (i.below h (column field)))

theorem outcome_counter {i : Index} (h : i.IsNumeral) (column : Oid) :
    (counter column i).outcome answer = counterOutcome (answer (.get (i.below h column))) := by
  rw [counter, Poll.outcome_bind, Poll.outcome_ofOutcome, Index.child_suffix h]
  exact Poll.outcome_mapOutcome answer _ _

theorem outcome_counters (i : Index) : (counters i).outcome answer =
    countersOutcome ((counter inboundOid i).outcome answer)
      ((counter outboundOid i).outcome answer) := by
  rw [counters, Poll.outcome, ExceptT.run_mk, Reading.eval_bind, Reading.eval_alternate,
    Reading.eval_done, Poll.outcome, Poll.outcome]

theorem countersOutcome_eq_ok_iff {inbound outbound : Outcome (Option UInt64)}
    {found : SapCounters} : countersOutcome inbound outbound = .ok found ↔
      inbound = .ok (found .inbound) ∧ outbound = .ok (found .outbound) := by
  cases inbound with
  | error failure => exact ⟨nofun, fun h => nomatch h.1⟩
  | ok i =>
    cases outbound with
    | error failure => exact ⟨nofun, fun h => nomatch h.2⟩
    | ok o =>
      constructor
      · intro h
        obtain rfl := Except.ok.inj h
        exact ⟨rfl, rfl⟩
      · rintro ⟨hi, ho⟩
        refine congrArg Except.ok (funext fun field => ?_)
        cases field
        · exact Except.ok.inj hi
        · exact Except.ok.inj ho

theorem outcome_counters_eq_ok_iff {i : Index} (h : i.IsNumeral) {found : SapCounters} :
    (counters i).outcome answer = .ok found ↔ ∀ field, Counts (i.reply answer h field) (found field) := by
  rw [outcome_counters, outcome_counter answer h, outcome_counter answer h,
    countersOutcome_eq_ok_iff, counterOutcome_eq_ok_iff, counterOutcome_eq_ok_iff]
  constructor
  · rintro ⟨hin, hout⟩ field
    cases field
    · exact hin
    · exact hout
  · exact fun hall => ⟨hall .inbound, hall .outbound⟩

end DevicePoll.Sap
