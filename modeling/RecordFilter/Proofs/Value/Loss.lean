import RecordFilter.Proofs.Value.Exact

namespace RecordFilter

theorem Binary.place_eq_zero_iff {f : Format} (hf : 0 < f.exponents) {x : Binary f} :
    x.place = some 0 ↔ x.number? = some (.ofRat 0) := by
  cases x
  case nan => simp [place, number?]
  case number negative m =>
    have hc : (number negative m).place = some 0 ↔ m = .zero := by
      rw [Magnitude.ext_iff, place, Option.some.injEq]
      cases negative <;> simp [Magnitude.zero]
    have hz : m = .zero → m.IsFinite := by
      rintro rfl
      exact Nat.mul_pos hf (Nat.two_pow_pos _)
    have hs : Numeral.signed negative m.units = 0 ↔ m = .zero := by
      rw [← Magnitude.units_eq_zero_iff, ← Int.natAbs_eq_zero, Numeral.natAbs_signed]
    have hn := (toInt?_eq_some_iff (x := number negative m) (i := 0)).symm.trans toInt?_number
    rw [Int.cast_zero, Int.zero_mul, hs] at hn
    rw [hc, hn]
    exact ⟨fun h => ⟨hz h, h⟩, And.right⟩

namespace Value

variable {v w : Value} {k : Kind} {e : CastError}

-- Whether the value is an integer that is beyond the range of the kind.
def Exceeds (v : Value) (k : Kind) : Prop :=
  ∃ (width : Width) (n : Int), k = .integer width ∧ v.number? = some (.ofRat n) ∧ ¬ width.Fits n

theorem not_exceeds_float : ¬ v.Exceeds .float := by
  rintro ⟨width, n, hk, -⟩
  cases hk

-- Why a number is not cast.
inductive Refused (v : Value) (k : Kind) : CastError → Prop
  | overflow {number : String} (h : v.Exceeds k) : Refused v k (.numericOverflow number k)
  | loss {number : String} (h : ¬ v.Exceeds k) : Refused v k (.lossyConversion number k)

theorem refused_of_ofInt {n : Int} (hk : k.IsNumeric) (hn : v.number? = some (.ofRat n)) (h : ofInt n k = .error e) :
    v.Refused k e := by
  cases k <;> simp only [ofInt] at h
  case integer width =>
    split at h <;> cases h
    case isFalse hf => exact .overflow ⟨width, n, rfl, hn, hf⟩
  case float =>
    split at h <;> cases h
    exact .loss not_exceeds_float
  all_goals cases hk

theorem refused_of_ofDouble {x : Double} (hk : k.IsNumeric) (h : ofDouble x k = .error e) : (float x).Refused k e := by
  cases k
  case integer width =>
    cases hx : x.toInt?
    case none =>
      rw [ofDouble_of_toInt?_eq_none hx] at h
      cases h
      refine .loss ?_
      rintro ⟨_, n, -, hn, -⟩
      have hi : x.toInt? = some n := Binary.toInt?_eq_some_iff.mpr hn
      cases hx.symm.trans hi
    case some n =>
      have hn : (float x).number? = some (.ofRat n) := Binary.toInt?_eq_some_iff.mp hx
      rw [ofDouble_of_toInt? hx] at h
      split at h
      case isTrue => exact refused_of_ofInt hk hn h
      case isFalse hf =>
        cases h
        exact .overflow ⟨width, n, rfl, hn, mt Width.Fits.widest hf⟩
  case float => cases h
  all_goals cases hk

theorem refused_of_castTo (hk : k.IsNumeric) (hv : v.kind ≠ .text) (h : v.castTo k = .error e) : v.Refused k e := by
  cases v
  case integer => exact refused_of_ofInt hk rfl h
  case float   => exact refused_of_ofDouble hk h
  case bool    => cases k <;> cases h
  case text    => exact absurd rfl hv

theorem castTo_bool (hv : v.kind ≠ .text) :
    ∃ b, v.castTo .bool = .ok (bool b) ∧ (b = false ↔ v.number? = some (.ofRat 0)) := by
  cases v
  case integer width n hn => exact ⟨_, rfl, by simp [number?]⟩
  case float x =>
    refine ⟨_, rfl, ?_⟩
    rw [number?, ← Binary.place_eq_zero_iff (by decide)]
    simp
  case bool b => exact ⟨b, rfl, by cases b <;> simp [number?]⟩
  case text => exact absurd rfl hv

end Value
end RecordFilter
