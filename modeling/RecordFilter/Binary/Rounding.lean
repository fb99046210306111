import RecordFilter.Binary.Basic

namespace RecordFilter

-- Powers of naturals are those of the core library, whatever else is imported.
attribute [local instance (2000)] instPowNat

namespace Binary

def roundHalfEven (num den : Nat) : Nat :=
  let quotient  := num / den
  let remainder := num % den
  if 2 * remainder < den ∨ (2 * remainder = den ∧ quotient % 2 = 0) then quotient else quotient + 1

theorem roundHalfEven_mul {den : Nat} (n : Nat) (h : 0 < den) : roundHalfEven (n * den) den = n := by
  simp [roundHalfEven, Nat.mul_div_cancel n h, h]

theorem roundHalfEven_scale (num den : Nat) {k : Nat} (h : 0 < k) :
    roundHalfEven (num * k) (den * k) = roundHalfEven num den := by
  have lt : 2 * (num % den * k) < den * k ↔ 2 * (num % den) < den := by
    rw [← Nat.mul_assoc, Nat.mul_lt_mul_right h]
  have eq : 2 * (num % den * k) = den * k ↔ 2 * (num % den) = den := by
    rw [← Nat.mul_assoc, Nat.mul_left_inj (Nat.ne_of_gt h)]
  simp only [roundHalfEven, Nat.mul_div_mul_right _ _ h, Nat.mul_mod_mul_right, lt, eq]

variable (f : Format)

-- The quotient is first put on the scale of the least positive number. Of its bits `fractionBits + 1`
-- are kept, and each dropped bit is one exponent, so a carry into the next exponent needs no care.
def nearestCode (num den : Nat) : Nat :=
  let units   := num * 2 ^ f.scale
  let dropped := (units / den).log2 - f.fractionBits
  dropped * 2 ^ f.fractionBits + roundHalfEven units (den * 2 ^ dropped)

namespace Magnitude

def nearest (num den : Nat) : Magnitude f :=
  ⟨min f.infinityCode (nearestCode f num den), Nat.min_le_left ..⟩

end Magnitude

variable {f}

theorem nearestCode_scale (num den : Nat) {k : Nat} (h : 0 < k) :
    nearestCode f (num * k) (den * k) = nearestCode f num den := by
  simp only [nearestCode, Nat.mul_right_comm _ k, Nat.mul_div_mul_right _ _ h, roundHalfEven_scale _ _ h]

theorem log2_mantissa {fraction fractionBits k : Nat} (h : fraction < 2 ^ fractionBits) :
    ((2 ^ fractionBits + fraction) * 2 ^ k).log2 = fractionBits + k := by
  have hp := Nat.two_pow_pos fractionBits
  have hk := Nat.two_pow_pos k
  rw [Nat.log2_eq_iff (Nat.mul_ne_zero (by omega) (by omega)), Nat.add_right_comm, Nat.pow_add, Nat.pow_add]
  exact ⟨Nat.mul_le_mul_right _ (by omega), Nat.mul_lt_mul_of_pos_right (by rw [Nat.pow_succ]; omega) hk⟩

-- A number of the format is its own nearest.
theorem nearestCode_units (m : Magnitude f) : nearestCode f m.units (2 ^ f.scale) = m.code := by
  have hs := Nat.two_pow_pos f.scale
  have hm := Nat.div_add_mod m.code (2 ^ f.fractionBits)
  have hf := Nat.mod_lt m.code (Nat.two_pow_pos f.fractionBits)
  simp only [nearestCode, Magnitude.units, Nat.mul_div_cancel _ hs]
  generalize m.code / 2 ^ f.fractionBits = exponent at *
  generalize m.code % 2 ^ f.fractionBits = fraction at *
  cases exponent
  case zero =>
    have : fraction.log2 - f.fractionBits = 0 := by
      rcases Nat.eq_zero_or_pos fraction with h | h
      · simp [h]
      · have := (Nat.log2_lt (by omega)).mpr hf
        omega
    simp only [if_true, this, Nat.pow_zero, Nat.mul_one, roundHalfEven_mul _ hs]
    omega
  case succ exponent =>
    have hd : 0 < 2 ^ f.scale * 2 ^ exponent := Nat.mul_pos hs (Nat.two_pow_pos _)
    have : (2 ^ f.fractionBits + fraction) * 2 ^ exponent * 2 ^ f.scale =
        (2 ^ f.fractionBits + fraction) * (2 ^ f.scale * 2 ^ exponent) := by
      rw [Nat.mul_assoc, Nat.mul_comm (2 ^ exponent)]
    simp only [Nat.add_eq_zero_iff, Nat.one_ne_zero, and_false, if_false, Nat.add_sub_cancel, log2_mantissa hf,
      Nat.add_sub_cancel_left, this, roundHalfEven_mul _ hd]
    rw [← hm, Nat.mul_comm, Nat.mul_succ]
    omega

def ofInt (n : Int) : Binary f :=
  number (n < 0) (.nearest f n.natAbs 1)

-- The same number in another format, rounded where that format is narrower.
def convert (g : Format) : Binary f → Binary g
  | nan => nan
  | number negative m =>
    number negative (if m.IsFinite then .nearest g m.units (2 ^ f.scale) else .infinity)

-- A number without fraction, as the integer that it is.
def toInt? : Binary f → Option Int
  | nan => none
  | number negative m =>
    if m.IsFinite ∧ m.units % 2 ^ f.scale = 0 then
      let n := m.units / 2 ^ f.scale
      some (if negative then -(n : Int) else n)
    else
      none

-- Whether a number is finite and has no fraction.
def IsWhole : Binary f → Prop
  | nan        => False
  | number _ m => m.IsFinite ∧ m.units % 2 ^ f.scale = 0

instance : DecidablePred (@IsWhole f)
  | nan        => isFalse id
  | number _ m => inferInstanceAs (Decidable (m.IsFinite ∧ m.units % 2 ^ f.scale = 0))

-- A number without its fraction, as an integer of a range. What lies beyond the range is cut back to its end, and `nan`
-- becomes zero.
def clamp (least greatest : Int) : Binary f → Int
  | nan => 0
  | number negative m =>
    let n := m.units / 2 ^ f.scale
    max least (min greatest (if negative then -(n : Int) else n))

end Binary
end RecordFilter
