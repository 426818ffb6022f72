import DevicePoll.Proofs.Class.Compile
import DevicePoll.Source.Declared

/-! Failures that do not come from the device. What is made of an answer can only fail to decode it,
and a class that does not have the node that is asked for either does not implement it or is not
valid. -/
namespace DevicePoll

namespace Outcome
variable {α β : Type}

/-- A failure can only be of one of these kinds. -/
def FailsOnly (allowed : Failure.Kind → Prop) (outcome : Outcome α) : Prop :=
  ∀ failure, outcome = .error failure → allowed failure.kind

namespace FailsOnly
variable {allowed : Failure.Kind → Prop} {outcome : Outcome α}

theorem ok (value : α) : FailsOnly allowed (.ok value) := nofun

theorem error {failure : Failure} (h : allowed failure.kind) :
    FailsOnly allowed (.error failure : Outcome α) := by
  intro other heq
  cases heq
  exact h

theorem fails {cause : Failure.Cause} (h : allowed cause.kind) :
    FailsOnly allowed (Outcome.fails cause : Outcome α) := error h

theorem mono {more : Failure.Kind → Prop} (h : outcome.FailsOnly allowed)
    (hsub : ∀ kind, allowed kind → more kind) : outcome.FailsOnly more :=
  fun failure hfailure => hsub _ (h failure hfailure)

theorem within (scope : String) (h : outcome.FailsOnly allowed) :
    (outcome.within scope).FailsOnly allowed := by
  cases outcome with
  | ok value => exact ok value
  | error failure => exact error (h failure rfl)

theorem map {f : α → β} (h : outcome.FailsOnly allowed) :
    Outcome.FailsOnly allowed (outcome.map f) :=
  fun failure hfailure => h failure (map_error hfailure)

theorem mapM {f : α → Outcome β} {l : List α} (h : ∀ a ∈ l, (f a).FailsOnly allowed) :
    (l.mapM f).FailsOnly allowed := by
  intro failure hfailure
  obtain ⟨a, ha, hstep⟩ := mapM_error hfailure
  exact h a ha failure hstep

end FailsOnly
end Outcome

/-- The one kind of failures in decoding. -/
abbrev Outcome.Decodes {α : Type} (outcome : Outcome α) : Prop := outcome.FailsOnly (· = .decode)

theorem Scalar.decodes_mismatch {α : Type} (expected : String) (value : Scalar) :
    (value.mismatch expected : Outcome α).Decodes := .fails rfl

theorem Scalar.decodes_toUnsigned (value : Scalar) : value.toUnsigned.Decodes := by
  cases value with
  | unsigned n => exact .ok n
  | integer n =>
    rw [toUnsigned]
    split
    · exact .ok _
    · exact decodes_mismatch _ _
  | _ => exact decodes_mismatch _ _

theorem Scalar.decodes_toReal (value : Scalar) : value.toReal.Decodes := by
  cases value with
  | real | integer | unsigned => exact .ok _
  | _ => exact decodes_mismatch _ _

theorem ScalarType.decodes_convert (type : ScalarType) (value : Scalar) :
    (type.convert value).Decodes := by
  cases type with
  | text =>
    cases value with
    | text => exact .ok _
    | _ => exact Scalar.decodes_mismatch _ _
  | unsigned => exact value.decodes_toUnsigned
  | integer =>
    cases value with
    | integer => exact .ok _
    | unsigned n =>
      rw [convert, Scalar.toInteger]
      split
      · exact .ok _
      · exact Scalar.decodes_mismatch _ _
    | _ => exact Scalar.decodes_mismatch _ _
  | real => exact value.decodes_toReal
  | flag =>
    cases value with
    | boolean => exact .ok _
    | _ => exact Scalar.decodes_mismatch _ _

namespace Operator

theorem decodes_parseText (s : String) : (parseText s).Decodes := by
  rw [parseText]
  split
  · exact .ok _
  · split
    · exact .ok _
    · split
      · exact .ok _
      · exact .fails rfl

theorem decodes_apply (op : Operator) (value : Scalar) : (op.apply value).Decodes := by
  cases op with
  | trim => cases value <;> exact .ok _
  | scale factor => exact value.decodes_toReal.map
  | parseNumber =>
    cases value with
    | text s => exact decodes_parseText s
    | _ => exact .ok _
  | map table fallback =>
    unfold Operator.apply
    dsimp only
    split
    · exact .ok _
    · exact .ok _
    · exact .fails rfl

theorem decodes_applyAll (ops : List Operator) (value : Scalar) :
    (applyAll ops value).Decodes := by
  induction ops generalizing value with
  | nil => exact .ok value
  | cons op ops ih =>
    rw [applyAll]
    cases happly : op.apply value with
    | ok next => exact ih next
    | error failure => exact .error (op.decodes_apply value failure happly)

end Operator

theorem decodes_rowIndex (oid : String) : (rowIndex oid).Decodes := by
  rw [rowIndex]
  split
  · exact .fails rfl
  · split
    · exact .ok _
    · exact .fails rfl

theorem Leaf.decodes_collect (operators : List Operator) (responses : List Response)
    (values : SortedMap UInt64 Scalar) : (collect operators responses values).Decodes := by
  induction responses generalizing values with
  | nil => exact .ok values
  | cons response rest ih =>
    rw [collect]
    split
    · exact ih values
    · split
      · rename_i failure happly
        exact .error (Operator.decodes_applyAll operators response.value failure happly)
      · split
        · rename_i failure hindex
          exact .error (decodes_rowIndex response.oid failure hindex)
        · exact ih _

theorem Row.decodes_decode (s : Schema) (index : UInt64) (row : Row) :
    (row.decode s index).Decodes := by
  rw [Row.decode]
  split
  · exact .fails rfl
  · split
    · exact .ok _
    · exact .fails rfl

theorem Rows.decodes_decode (s : Schema) (rows : Rows) : (rows.decode s).Decodes :=
  .mapM fun e _ => Row.decodes_decode s e.1 e.2

namespace Tier

theorem decodes_interfaceOfRow (index : UInt64) (row : Row) :
    (interfaceOfRow index row).Decodes := (Row.decodes_decode _ index row).map

/-- A class that does not have the leaf does not implement it or is not valid. -/
theorem failsOnly_leafAt (tier : Tier) (path : String) :
    (tier.leafAt path).FailsOnly fun kind => kind = .notImplemented ∨ kind = .invalidClass := by
  rw [leafAt]
  split
  · exact .ok _
  · exact .fails (.inr rfl)
  · exact .fails (.inl rfl)

theorem failsOnly_groupAt (tier : Tier) (path : String) :
    (tier.groupAt path).FailsOnly fun kind => kind = .notImplemented ∨ kind = .invalidClass := by
  rw [groupAt]
  split
  · exact .ok _
  · exact .fails (.inr rfl)
  · exact .fails (.inl rfl)

end Tier
end DevicePoll
