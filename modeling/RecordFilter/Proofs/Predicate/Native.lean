import RecordFilter.Proofs.Predicate.Exact
import RecordFilter.Proofs.Predicate.Fault
import RecordFilter.Value.Scalar
import Mathlib.Data.String.Basic

namespace RecordFilter

namespace Scalar

-- What a type itself says of two of its elements, the first of them that of the field. Floats of either width compare
-- as the numbers that they denote, and texts are in the order of their characters.
def Native : (t : Scalar) → Operator → t.Carrier → t.Carrier → Prop
  | int8, .relation r, y, x | uint8, .relation r, y, x | int16, .relation r, y, x | uint16, .relation r, y, x
  | int32, .relation r, y, x | uint32, .relation r, y, x | int64, .relation r, y, x | bool, .relation r, y, x
  | text, .relation r, y, x => r.Between y x
  | single, .relation r, y, x | double, .relation r, y, x => r.Exact y.number? x.number?
  | text, .contains, y, x => x.toList <:+: y.toList
  | _, .contains, _, _ => False

theorem kind_eq_bool_iff {t : Scalar} : t.kind = .bool ↔ t = .bool := by
  cases t <;> simp [kind]

theorem holds_fieldValue {t : Scalar} {operator : Operator} (hc : operator = .contains → t = .text) (y x : t.Carrier) :
    operator.holds (t.fieldValue y) (t.toValue x) ↔ t.Native operator y x := by
  rw [fieldValue_eq_toValue]
  cases operator
  case contains =>
    cases hc rfl
    exact decide_eq_true_iff
  case relation r =>
    cases t
    case int8  => exact Value.holds_compare_integer Int8.toInt_inj Int8.lt_iff_toInt_lt Int8.le_iff_toInt_le r
    case int16 => exact Value.holds_compare_integer Int16.toInt_inj Int16.lt_iff_toInt_lt Int16.le_iff_toInt_le r
    case int32 => exact Value.holds_compare_integer Int32.toInt_inj Int32.lt_iff_toInt_lt Int32.le_iff_toInt_le r
    case int64 => exact Value.holds_compare_integer Int64.toInt_inj Int64.lt_iff_toInt_lt Int64.le_iff_toInt_le r
    case uint8 =>
      exact Value.holds_compare_integer (Int.ofNat_inj.trans UInt8.toNat_inj)
        (UInt8.lt_iff_toNat_lt.trans Int.ofNat_lt.symm) (UInt8.le_iff_toNat_le.trans Int.ofNat_le.symm) r
    case uint16 =>
      exact Value.holds_compare_integer (Int.ofNat_inj.trans UInt16.toNat_inj)
        (UInt16.lt_iff_toNat_lt.trans Int.ofNat_lt.symm) (UInt16.le_iff_toNat_le.trans Int.ofNat_le.symm) r
    case uint32 =>
      exact Value.holds_compare_integer (Int.ofNat_inj.trans UInt32.toNat_inj)
        (UInt32.lt_iff_toNat_lt.trans Int.ofNat_lt.symm) (UInt32.le_iff_toNat_le.trans Int.ofNat_le.symm) r
    case single =>
      have hs : Binary.Format.binary32.FitsIn .binary64 := by decide
      rw [Native, ← Binary.number?_convert hs y, ← Binary.number?_convert hs x]
      exact Binary.holds_compare_iff (by decide) _ _ r
    case double => exact Binary.holds_compare_iff (by decide) _ _ r
    case bool =>
      have hb : Value.compareBool y x = compare y x := by cases y <;> cases x <;> rfl
      change r.holds (some (Value.compareBool y x)) ↔ r.Between y x
      rw [hb]
      exact r.holds_compare_iff
    case text => exact r.holds_compare_iff

end Scalar

-- Every operator that the type allows is allowed on a field of it.
theorem Predicate.accepts_iff_native {κ ρ : Type} {R : Registration κ ρ} {name : String} {field : Field κ} {t : Scalar}
    {operator : Operator} (hf : R.field? name = some field) (hk : field.kind = t.kind)
    (ho : operator.IsOrdering → t ≠ .bool) (hc : operator = .contains → t = .text) (x : t.Carrier) :
    ∃ p, (Filter.single name operator (t.toValue x)).compile R = .ok p ∧
      ∀ item y, R.read field.accessor item = t.fieldValue y → (p.accepts item ↔ t.Native operator y x) := by
  have hl : (t.toValue x).castTo field.kind = .ok (t.toValue x) := by
    rw [hk, ← t.kind_toValue x, Value.castTo_kind]
  have hs : field.kind.Supports operator := by
    rw [hk, Kind.supports_iff]
    exact ⟨fun ⟨h, hb⟩ => ho h (Scalar.kind_eq_bool_iff.mp hb), fun ⟨h, ht⟩ => ht (hc h ▸ rfl)⟩
  have ⟨p, hp⟩ := (Filter.compile_isOk_iff_of_entry (f := .single name operator (t.toValue x)) rfl hf).mpr ⟨hs, _, hl⟩
  have ⟨literal, hc', ha⟩ := Filter.accepts_of_entry rfl hf hp
  cases hl.symm.trans hc'
  refine ⟨p, hp, fun item y hy => ?_⟩
  rw [ha, hy]
  exact Scalar.holds_fieldValue hc y x

-- The two least positive numbers of the narrower format, which have no exponent of their own there.
theorem Predicate.accepts_iff_native_least :
    let R : Registration Unit Single := ⟨"Sample", [⟨"weight", .float, ()⟩], fun _ x => Scalar.single.fieldValue x⟩
    ∃ p, (Filter.single "weight" (.relation .less) (Scalar.single.toValue (Binary.ofBits 2))).compile R = .ok p ∧
      p.accepts (Binary.ofBits 1) := by
  intro R
  have hf : R.field? "weight" = some ⟨"weight", .float, ()⟩ := rfl
  have ho : (Operator.relation .less).IsOrdering → Scalar.single ≠ .bool := fun _ => nofun
  have ⟨p, hp, h⟩ := accepts_iff_native hf rfl ho nofun (Binary.ofBits 2)
  have hl : Relation.less.holds ((Binary.ofBits 1 : Single).compare (Binary.ofBits 2)) := by decide
  exact ⟨p, hp, (h _ _ rfl).mpr ((Binary.holds_compare_iff (by decide) _ _ _).mp hl)⟩

end RecordFilter
