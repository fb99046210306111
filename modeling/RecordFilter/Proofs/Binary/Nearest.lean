import Mathlib.Algebra.Order.Field.Basic
import Mathlib.Data.Nat.Dist
import RecordFilter.Proofs.Binary.Exact

namespace RecordFilter

-- Powers of naturals are those of the core library, whatever else is imported.
attribute [local instance (2000)] instPowNat

theorem Numeral.natAbs_signed_sub (negative : Bool) (m n : Nat) :
    (signed negative m - signed negative n).natAbs = Nat.dist m n := by
  simp only [signed, Nat.dist]
  split <;> omega

theorem Numeral.natAbs_signed_not_sub (negative : Bool) (m n : Nat) :
    (signed (!negative) m - signed negative n).natAbs = m + n := by
  cases negative <;> simp only [signed, Bool.not_true, Bool.not_false, Bool.false_eq_true, if_true, if_false] <;> omega

namespace Binary

variable {f : Format} {num den : Nat}

theorem roundHalfEven_cases (num den : Nat) :
    (roundHalfEven num den = num / den ∧ 2 * (num % den) ≤ den ∧ (2 * (num % den) = den → num / den % 2 = 0)) ∨
      roundHalfEven num den = num / den + 1 ∧ den ≤ 2 * (num % den) ∧
        (2 * (num % den) = den → (num / den + 1) % 2 = 0) := by
  simp only [roundHalfEven]
  split
  case isTrue h  => exact .inl ⟨rfl, by omega, by omega⟩
  case isFalse h => exact .inr ⟨rfl, by omega, by omega⟩

theorem dist_roundHalfEven {k : Nat} (hd : 0 < den) (hk : k ≠ roundHalfEven num den) :
    Nat.dist (roundHalfEven num den * den) num < Nat.dist (k * den) num ∨
      Nat.dist (roundHalfEven num den * den) num = Nat.dist (k * den) num ∧ roundHalfEven num den % 2 = 0 := by
  have hn := Nat.div_add_mod' num den
  have hr := Nat.mod_lt num hd
  have hs := Nat.add_one_mul (num / den) den
  have step {i j : Nat} (h : i < j) : i * den + den ≤ j * den := Nat.succ_mul i den ▸ Nat.mul_le_mul_right den h
  simp only [Nat.dist]
  obtain ⟨he, hm, ht⟩ | ⟨he, hm, ht⟩ := roundHalfEven_cases num den <;> rw [he] at hk ⊢
  case inl =>
    obtain hl | hg := Nat.lt_or_gt_of_ne hk
    case inl => have := step hl; omega
    case inr => have := step hg; omega
  case inr =>
    obtain hl | hg := Nat.lt_or_gt_of_ne hk
    case inl =>
      have := Nat.mul_le_mul_right den (Nat.le_of_lt_succ hl)
      omega
    case inr => have := step hg; omega

theorem dist_roundHalfEven_le (hd : 0 < den) (num k : Nat) :
    Nat.dist (roundHalfEven num den * den) num ≤ Nat.dist (k * den) num := by
  by_cases hk : k = roundHalfEven num den
  case pos => rw [hk]
  case neg => exact (dist_roundHalfEven hd hk).elim Nat.le_of_lt fun h => Nat.le_of_eq h.left

namespace Magnitude

variable {m n : Magnitude f}

theorem units_inj : m.units = n.units ↔ m = n where
  mp h := Magnitude.ext <| by
    have hl := units_lt_units_iff (m := m) (n := n)
    have hg := units_lt_units_iff (m := n) (n := m)
    omega
  mpr h := h ▸ rfl

-- What is not on the grid of an exponent lies below all that is rounded to that grid.
theorem units_lt_of_not_dvd {k : Nat} (h : ¬ 2 ^ k ∣ m.units) : m.units < 2 ^ f.fractionBits * 2 ^ k := by
  have hc : m.code / 2 ^ f.fractionBits ≤ k := by
    by_contra hk
    exact h (two_pow_dvd_units ((Nat.le_div_iff_mul_le (Nat.two_pow_pos _)).mp (Nat.not_le.mp hk)))
  calc m.units
    _ < 2 ^ f.fractionBits * 2 ^ (m.code / 2 ^ f.fractionBits) := m.units_lt
    _ ≤ 2 ^ f.fractionBits * 2 ^ k := Nat.mul_le_mul_left _ (Nat.pow_le_pow_right (by decide) hc)

-- A mantissa that rounding has made one bit longer is the first one of the next exponent.
theorem units_of_rounded {mantissa exponent : Nat} (hm : mantissa ≤ 2 * 2 ^ f.fractionBits)
    (he : exponent = 0 ∨ 2 ^ f.fractionBits ≤ mantissa)
    (hc : m.code = exponent * 2 ^ f.fractionBits + mantissa) : m.units = mantissa * 2 ^ exponent := by
  cases Nat.eq_or_lt_of_le hm
  case inl hl =>
    have hp := Nat.two_pow_pos f.fractionBits
    have hs : m.code = (exponent + 1) * 2 ^ f.fractionBits + 2 ^ f.fractionBits := by
      rw [hc, hl]
      ring
    rw [units_of_exponent (by omega) (.inr (Nat.le_refl _)) hs, hl, Nat.pow_succ]
    ring
  case inr hl => exact units_of_exponent hl he hc

-- A finite nearest number is a multiple of some power of two, and all lesser powers would leave too many bits.
theorem exists_exponent (hd : 0 < den) (hn : (nearest f num den).IsFinite) :
    ∃ exponent, let mantissa := roundHalfEven (num * 2 ^ f.scale) (den * 2 ^ exponent)
      (nearest f num den).code = exponent * 2 ^ f.fractionBits + mantissa ∧
      (nearest f num den).units = mantissa * 2 ^ exponent ∧
      (exponent = 0 ∨ 2 ^ f.fractionBits * (den * 2 ^ exponent) ≤ num * 2 ^ f.scale) := by
  obtain ⟨quotient, hq⟩ : ∃ quotient, num * 2 ^ f.scale / den = quotient := ⟨_, rfl⟩
  have hb := mantissa_lt hq
  have hl : quotient.log2 - f.fractionBits = 0 ∨ 2 ^ f.fractionBits ≤
      num * 2 ^ f.scale / (den * 2 ^ (quotient.log2 - f.fractionBits)) := by
    by_cases hl : quotient.log2 ≤ f.fractionBits
    case pos => exact .inl (by omega)
    case neg =>
      have hz : quotient ≠ 0 := by
        rintro rfl
        simp at hl
      exact .inr (le_mantissa hq hz (by omega))
  have hc : (nearest f num den).code = nearestCode f num den := by
    have : min f.infinityCode (nearestCode f num den) < f.infinityCode := hn
    simp only [nearest]
    omega
  have hr := roundHalfEven_cases (num * 2 ^ f.scale) (den * 2 ^ (quotient.log2 - f.fractionBits))
  simp only [nearestCode, hq] at hc
  refine ⟨_, hc, units_of_rounded (by rw [Nat.pow_succ] at hb; omega) (by omega) hc, ?_⟩
  rw [← Nat.le_div_iff_mul_le (Nat.mul_pos hd (Nat.two_pow_pos _))]
  exact hl

theorem dist_nearest (hf : 0 < f.fractionBits) (hd : 0 < den) (hn : (nearest f num den).IsFinite)
    (hm : m ≠ nearest f num den) :
    Nat.dist ((nearest f num den).units * den) (num * 2 ^ f.scale) < Nat.dist (m.units * den) (num * 2 ^ f.scale) ∨
      Nat.dist ((nearest f num den).units * den) (num * 2 ^ f.scale) = Nat.dist (m.units * den) (num * 2 ^ f.scale) ∧
        (nearest f num den).code % 2 = 0 := by
  obtain ⟨exponent, hc, hu, hl⟩ := exists_exponent hd hn
  have hg : 0 < den * 2 ^ exponent := Nat.mul_pos hd (Nat.two_pow_pos _)
  have grid (k : Nat) : k * 2 ^ exponent * den = k * (den * 2 ^ exponent) := by ring
  have parity : (nearest f num den).code % 2 = roundHalfEven (num * 2 ^ f.scale) (den * 2 ^ exponent) % 2 := by
    obtain ⟨bits, hb⟩ := Nat.exists_eq_add_one_of_ne_zero (Nat.ne_of_gt hf)
    rw [hc, hb, Nat.pow_succ, ← Nat.mul_assoc, Nat.mul_add_mod_self_right]
  rw [hu, parity, grid]
  by_cases hv : 2 ^ exponent ∣ m.units
  case pos =>
    obtain ⟨k, hk⟩ := hv
    rw [Nat.mul_comm] at hk
    have hne : k ≠ roundHalfEven (num * 2 ^ f.scale) (den * 2 ^ exponent) := by
      rintro rfl
      exact hm (units_inj.mp (hk.trans hu.symm))
    rw [hk, grid]
    exact dist_roundHalfEven hg hne
  case neg =>
    have hz : exponent ≠ 0 := by
      rintro rfl
      exact hv (Nat.one_dvd _)
    have hb := hl.resolve_left hz
    have hlt : m.units * den < 2 ^ f.fractionBits * (den * 2 ^ exponent) := by
      rw [← grid]
      exact Nat.mul_lt_mul_of_pos_right (units_lt_of_not_dvd hv) hd
    have hle := dist_roundHalfEven_le hg (num * 2 ^ f.scale) (2 ^ f.fractionBits)
    left
    rw [Nat.dist_eq_sub_of_le hb] at hle
    rw [Nat.dist_eq_sub_of_le (Nat.le_of_lt (Nat.lt_of_lt_of_le hlt hb))]
    omega

-- A number of the other sign is no nearer than zero.
theorem natAbs_sub_nearest (hf : 0 < f.fractionBits) (hd : 0 < den) (hn : (nearest f num den).IsFinite) (a b : Bool)
    (hm : Numeral.signed b m.units ≠ Numeral.signed a (nearest f num den).units) :
    let gap (c : Bool) (n : Magnitude f) :=
      (Numeral.signed c n.units * den - Numeral.signed a num * (2 ^ f.scale : Nat)).natAbs
    gap a (nearest f num den) < gap b m ∨ gap a (nearest f num den) = gap b m ∧ (nearest f num den).code % 2 = 0 := by
  simp only [← Numeral.signed_mul]
  by_cases hab : b = a
  case pos =>
    subst hab
    have hne : m ≠ nearest f num den := fun h => hm (h ▸ rfl)
    simp only [Numeral.natAbs_signed_sub]
    exact dist_nearest hf hd hn hne
  case neg =>
    cases Bool.eq_not_of_ne hab
    simp only [Numeral.natAbs_signed_sub, Numeral.natAbs_signed_not_sub]
    by_cases hz : nearest f num den = zero
    case pos =>
      rw [hz, units_zero, Nat.zero_mul, Nat.dist_zero_left]
      have hu : m.units ≠ 0 := by
        intro hu
        rw [hz, hu, units_zero] at hm
        cases a <;> exact hm rfl
      have hp : 0 < m.units * den := Nat.mul_pos (Nat.pos_of_ne_zero hu) hd
      omega
    case neg =>
      have hd := dist_nearest hf hd hn (Ne.symm hz)
      rw [units_zero, Nat.zero_mul, Nat.dist_zero_left] at hd
      omega

end Magnitude

def HasEvenCode : Binary f → Prop
  | nan        => False
  | number _ m => m.code % 2 = 0

-- Whether all other finite numbers are farther away, or as far and the code is even.
def IsNearest (x : Binary f) (q : ℚ) : Prop :=
  ∃ p, x.number? = some (.ofRat p) ∧
    ∀ (y : Binary f) (r : ℚ), y.number? = some (.ofRat r) → r ≠ p →
      |p - q| < |r - q| ∨ |p - q| = |r - q| ∧ x.HasEvenCode

-- A finite number on the scale of the least positive one, against a quotient.
theorem abs_div_sub_div (hd : 0 < den) (a b : Int) :
    |(a / (2 ^ f.scale : Nat) - b / den : ℚ)| = ((a * den - b * (2 ^ f.scale : Nat)).natAbs : Nat) /
      ((2 ^ f.scale : Nat) * den) := by
  have hs : (0 : ℚ) < (2 ^ f.scale : Nat) := Nat.cast_pos.mpr (Nat.two_pow_pos _)
  have hd : (0 : ℚ) < den := Nat.cast_pos.mpr hd
  rw [div_sub_div _ _ hs.ne' hd.ne', abs_div, abs_of_pos (mul_pos hs hd), Nat.cast_natAbs]
  push_cast
  rw [mul_comm (b : ℚ)]

theorem isNearest_nearest (hf : 0 < f.fractionBits) (hd : 0 < den) (hn : (Magnitude.nearest f num den).IsFinite)
    (negative : Bool) : (number negative (.nearest f num den)).IsNearest (Numeral.signed negative num / den) := by
  refine ⟨_, number?_number_eq_ofRat_iff.mpr ⟨hn, rfl⟩, ?_⟩
  intro y r hy hr
  cases y
  case nan => cases hy
  case number b m =>
    obtain ⟨-, rfl⟩ := number?_number_eq_ofRat_iff.mp hy
    have hne : Numeral.signed b m.units ≠ Numeral.signed negative (Magnitude.nearest f num den).units :=
      fun h => hr (by rw [h])
    have hg : (0 : ℚ) < (2 ^ f.scale : Nat) * den :=
      mul_pos (Nat.cast_pos.mpr (Nat.two_pow_pos _)) (Nat.cast_pos.mpr hd)
    rw [abs_div_sub_div hd, abs_div_sub_div hd, div_lt_div_iff_of_pos_right hg, div_left_inj' hg.ne', Nat.cast_lt,
      Nat.cast_inj]
    exact Magnitude.natAbs_sub_nearest hf hd hn negative b hne

end Binary
end RecordFilter
