import RecordFilter.Decimal.Shortest
import RecordFilter.Proofs.Binary.Number

namespace RecordFilter

-- Powers of naturals are those of the core library, whatever else is imported.
attribute [local instance (2000)] instPowNat

namespace Decimal

open Binary

variable {f : Format}

theorem nearest_of_digits_eq_zero {d : Decimal} (h : d.digits = 0) : d.nearest f = .zero :=
  if_pos h

-- Digits with a fraction are never settled early, as long as the fraction is not longer than the format's own.
theorem nearest_of_fraction {digits places : Nat} (hd : digits ≠ 0) (hp : places ≤ f.scale) :
    (⟨digits, -places⟩ : Decimal).nearest f = .nearest f digits (10 ^ places) := by
  have hi : ¬ (f.exponents : Int) < -places := by omega
  have hz : ¬ -(places : Int) < -(digits.log2 + f.scale + 3) := by omega
  have hn : (-(places : Int)).toNat = 0 := by omega
  simp only [nearest, if_neg hd, if_neg hi, if_neg hz, num, den, hn, Int.neg_neg, Int.toNat_natCast, Nat.pow_zero,
    Nat.mul_one]

-- Every finite magnitude ends after as many places as it has powers of two below the point.
theorem nearest_exact {m : Magnitude f} (h : m.units ≠ 0) : (exact m).nearest f = m := by
  have h5 : 0 < 5 ^ f.scale := Nat.pow_pos (by decide)
  have hd : m.units * 5 ^ f.scale ≠ 0 := Nat.mul_ne_zero h (Nat.ne_of_gt h5)
  have h10 : 10 ^ f.scale = 2 ^ f.scale * 5 ^ f.scale := by rw [← Nat.mul_pow]
  ext
  rw [exact, nearest_of_fraction hd (Nat.le_refl _), h10]
  simp only [Magnitude.nearest, nearestCode_scale _ _ h5, nearestCode_units, Nat.min_eq_right m.code_le]

theorem readsBack_of_neighbour? {m : Magnitude f} {exponent : Int} {d : Decimal}
    (h : neighbour? m exponent = some d) : ReadsBack m d := by
  simp only [neighbour?] at h
  split at h
  case isTrue hb =>
    cases h
    exact hb.left
  case isFalse =>
    split at h
    case isTrue ha =>
      cases h
      exact ha
    case isFalse => cases h

theorem nearest_shortest (m : Magnitude f) : (shortest m).nearest f = m := by
  by_cases hz : m.units = 0
  case pos =>
    rw [shortest, if_pos hz, nearest_of_digits_eq_zero rfl, Magnitude.units_eq_zero_iff.mp hz]
  case neg =>
    rw [shortest, if_neg hz]
    generalize hs : (List.range gridCount).findSome? _ = found
    cases found
    case none => exact nearest_exact hz
    case some d =>
      obtain ⟨i, -, hi⟩ := List.exists_of_findSome?_eq_some hs
      exact readsBack_of_neighbour? hi

end Decimal
end RecordFilter
