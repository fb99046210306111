import RecordFilter.Binary.Rounding
import RecordFilter.Text.Numeral
import Mathlib.Algebra.Order.Field.Rat
import Mathlib.Algebra.Order.Ring.Cast
import Mathlib.Order.WithBot
import Mathlib.Tactic.Ring

namespace RecordFilter

-- Powers of naturals are those of the core library, whatever else is imported.
attribute [local instance (2000)] instPowNat

abbrev Number := WithBot (WithTop ℚ)

namespace Number

def ofRat (q : ℚ) : Number := ((q : WithTop ℚ) : WithBot (WithTop ℚ))

@[simp]
theorem ofRat_lt_ofRat {p q : ℚ} : ofRat p < ofRat q ↔ p < q := by
  simp [ofRat]

@[simp]
theorem ofRat_inj {p q : ℚ} : ofRat p = ofRat q ↔ p = q := by
  simp [ofRat]

@[simp]
theorem ofRat_lt_top (q : ℚ) : ofRat q < ⊤ :=
  WithBot.coe_lt_coe.mpr (WithTop.coe_lt_top q)

@[simp]
theorem bot_lt_ofRat (q : ℚ) : ⊥ < ofRat q :=
  WithBot.bot_lt_coe _

end Number

theorem Numeral.signed_mul (negative : Bool) (n k : Nat) : signed negative (n * k) = signed negative n * k := by
  cases negative <;> simp [signed]

theorem Numeral.natAbs_signed (negative : Bool) (n : Nat) : (signed negative n).natAbs = n := by
  cases negative <;> simp [signed]

theorem Numeral.signed_natAbs (n : Int) : signed (n < 0) n.natAbs = n := by
  by_cases h : n < 0
  case pos => simp only [signed, h, decide_true, if_true]; omega
  case neg => simp only [signed, h, decide_false, Bool.false_eq_true, if_false]; omega

-- Only zero has two signs.
theorem Numeral.sign_unique {a b : Bool} {n : Int} (hn : n ≠ 0) (ha : signed a n.natAbs = n)
    (hb : signed b n.natAbs = n) : a = b := by
  cases a <;> cases b
  case false.false | true.true => rfl
  all_goals
    simp only [signed, Bool.false_eq_true, if_false, if_true] at ha hb
    omega

namespace Binary

variable {f : Format}

namespace Magnitude

variable {m n : Magnitude f}

-- The numbers of one exponent lie below the first of the next.
theorem units_lt (m : Magnitude f) : m.units < 2 ^ f.fractionBits * 2 ^ (m.code / 2 ^ f.fractionBits) := by
  have hf := Nat.mod_lt m.code (Nat.two_pow_pos f.fractionBits)
  simp only [units]
  generalize m.code / 2 ^ f.fractionBits = exponent
  cases exponent
  case zero => simpa using hf
  case succ exponent =>
    have hk := Nat.two_pow_pos exponent
    calc (2 ^ f.fractionBits + m.code % 2 ^ f.fractionBits) * 2 ^ exponent
      _ < (2 ^ f.fractionBits + 2 ^ f.fractionBits) * 2 ^ exponent := Nat.mul_lt_mul_of_pos_right (by omega) hk
      _ = 2 ^ f.fractionBits * 2 ^ (exponent + 1) := by rw [Nat.pow_succ]; ring

theorem le_units_of_ne_zero (h : m.code / 2 ^ f.fractionBits ≠ 0) :
    2 ^ f.fractionBits * 2 ^ (m.code / 2 ^ f.fractionBits - 1) ≤ m.units := by
  simp only [units, if_neg h]
  exact Nat.mul_le_mul_right _ (Nat.le_add_right ..)

theorem units_lt_of_code_lt (h : m.code < n.code) : m.units < n.units := by
  have hm := Nat.div_add_mod m.code (2 ^ f.fractionBits)
  have hn := Nat.div_add_mod n.code (2 ^ f.fractionBits)
  cases Nat.eq_or_lt_of_le (Nat.div_le_div_right (c := 2 ^ f.fractionBits) (Nat.le_of_lt h))
  case inl he =>
    have hf : m.code % 2 ^ f.fractionBits < n.code % 2 ^ f.fractionBits := by
      rwa [← hm, ← hn, he, Nat.add_lt_add_iff_left] at h
    simp only [units, he]
    split
    case isTrue  => exact hf
    case isFalse => exact Nat.mul_lt_mul_of_pos_right (by omega) (Nat.two_pow_pos _)
  case inr hl =>
    calc m.units
      _ < 2 ^ f.fractionBits * 2 ^ (m.code / 2 ^ f.fractionBits) := m.units_lt
      _ ≤ 2 ^ f.fractionBits * 2 ^ (n.code / 2 ^ f.fractionBits - 1) :=
        Nat.mul_le_mul_left _ (Nat.pow_le_pow_right (by decide) (Nat.le_sub_one_of_lt hl))
      _ ≤ n.units := le_units_of_ne_zero (Nat.ne_zero_of_lt hl)

theorem units_lt_units_iff : m.units < n.units ↔ m.code < n.code where
  mpr := units_lt_of_code_lt
  mp h := by
    by_contra hc
    cases Nat.eq_or_lt_of_le (Nat.not_lt.mp hc)
    case inl he => cases Magnitude.ext he; exact Nat.lt_irrefl _ h
    case inr hl => exact Nat.lt_asymm h (units_lt_of_code_lt hl)

theorem units_zero : (zero : Magnitude f).units = 0 := by
  simp [units, zero]

theorem units_eq_zero_iff : m.units = 0 ↔ m = zero where
  mp h := by
    have hz : ¬ (zero : Magnitude f).code < m.code := by
      rw [← units_lt_units_iff, units_zero, h]
      exact Nat.lt_irrefl 0
    ext
    exact Nat.eq_zero_of_not_pos hz
  mpr h := h ▸ units_zero

theorem nearest_zero (f : Format) (den : Nat) : nearest f 0 den = zero := by
  have hc : nearestCode f 0 den = 0 := by simpa [nearestCode, roundHalfEven] using Eq.symm
  ext
  simp [nearest, zero, hc]

-- Zero is its own opposite, and the signs tell all other numbers from their opposites.
theorem signed_units_lt_iff {a b : Bool} :
    Numeral.signed a m.units < Numeral.signed b n.units ↔ Numeral.signed a m.code < Numeral.signed b n.code := by
  have hl := units_lt_units_iff (m := m) (n := n)
  have hg := units_lt_units_iff (m := n) (n := m)
  have hm := units_lt_units_iff (m := zero) (n := m)
  have hn := units_lt_units_iff (m := zero) (n := n)
  rw [units_zero] at hm hn
  simp only [zero] at hm hn
  cases a <;> cases b <;> simp only [Numeral.signed, Bool.false_eq_true, if_false, if_true] <;> omega

-- The number with this magnitude and a sign.
def number (m : Magnitude f) (negative : Bool) : Number :=
  if m.IsFinite then
    .ofRat (Numeral.signed negative m.units / (2 ^ f.scale : Nat))
  else if negative then ⊥ else ⊤

-- A format without exponents has no room for two infinities.
theorem number_lt_number_iff (hf : 0 < f.exponents) {a b : Bool} :
    m.number a < n.number b ↔ Numeral.signed a m.code < Numeral.signed b n.code := by
  have hi : 0 < f.infinityCode := Nat.mul_pos hf (Nat.two_pow_pos _)
  have hm := m.code_le
  have hn := n.code_le
  by_cases h : m.IsFinite ∧ n.IsFinite
  case pos =>
    have hs : (0 : ℚ) < (2 ^ f.scale : Nat) := Nat.cast_pos.mpr (Nat.two_pow_pos _)
    simp only [number, if_pos h.left, if_pos h.right, Number.ofRat_lt_ofRat, div_lt_div_iff_of_pos_right hs,
      Int.cast_lt, signed_units_lt_iff]
  case neg =>
    by_cases hmf : m.IsFinite <;> by_cases hnf : n.IsFinite
    · exact absurd ⟨hmf, hnf⟩ h
    all_goals
      simp only [number, hmf, hnf, if_true, if_false]
      simp only [IsFinite] at hmf hnf
      cases a <;> cases b <;> simp [Numeral.signed] <;> omega

end Magnitude

-- The two zeros denote the same number, and `nan` denotes none.
def number? : Binary f → Option Number
  | nan => none
  | number negative m => some (m.number negative)

theorem number?_number_eq_ofRat_iff {m : Magnitude f} {negative : Bool} {q : ℚ} :
    (number negative m).number? = some (.ofRat q) ↔
      m.IsFinite ∧ (Numeral.signed negative m.units / (2 ^ f.scale : Nat) : ℚ) = q := by
  rw [number?, Magnitude.number, Option.some_inj]
  by_cases hm : m.IsFinite
  case pos => simp [hm]
  case neg =>
    have ht := (Number.ofRat_lt_top q).ne'
    have hb := (Number.bot_lt_ofRat q).ne
    cases negative <;> simp [hm, ht, hb]

end Binary
end RecordFilter
