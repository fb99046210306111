import RecordFilter.Proofs.Binary.Number

namespace RecordFilter

-- Powers of naturals are those of the core library, whatever else is imported.
attribute [local instance (2000)] instPowNat

theorem Numeral.signed_eq_mul_iff {negative : Bool} {n k : Nat} {i : Int} (hk : 0 < k) :
    signed negative n = i * k ↔ n % k = 0 ∧ signed negative (n / k) = i := by
  constructor
  case mp =>
    intro h
    have hn : n = i.natAbs * k := by
      rw [← natAbs_signed negative n, h, Int.natAbs_mul, Int.natAbs_natCast]
    have hc : signed negative i.natAbs * k = i * k := by rw [← signed_mul, ← hn, h]
    rw [hn, Nat.mul_mod_left, Nat.mul_div_cancel _ hk]
    exact ⟨rfl, Int.eq_of_mul_eq_mul_right (by omega) hc⟩
  case mpr =>
    rintro ⟨h, rfl⟩
    rw [← signed_mul, Nat.div_mul_cancel (Nat.dvd_of_mod_eq_zero h)]

namespace Binary

variable {f g : Format}

theorem toInt?_number {negative : Bool} {m : Magnitude f} {i : Int} :
    (number negative m).toInt? = some i ↔
      m.IsFinite ∧ Numeral.signed negative m.units = i * (2 ^ f.scale : Nat) := by
  rw [Numeral.signed_eq_mul_iff (Nat.two_pow_pos _)]
  simp only [toInt?]
  split
  case isTrue h => simp [h, Numeral.signed]
  case isFalse h => simpa using fun hm hd => absurd ⟨hm, hd⟩ h

-- A number is taken for an integer if that is what it denotes, and only then.
theorem toInt?_eq_some_iff {x : Binary f} {i : Int} : x.toInt? = some i ↔ x.number? = some (.ofRat i) := by
  cases x
  case nan => simp [toInt?, number?]
  case number negative m =>
    have hs : ((2 ^ f.scale : Nat) : ℚ) ≠ 0 := Nat.cast_ne_zero.mpr (Nat.ne_of_gt (Nat.two_pow_pos _))
    rw [toInt?_number, number?_number_eq_ofRat_iff, div_eq_iff hs]
    norm_cast

namespace Magnitude

-- A quotient that the format has is its own nearest.
theorem nearest_of_units {m : Magnitude f} {num den : Nat} (hd : 0 < den)
    (h : num * 2 ^ f.scale = m.units * den) : nearest f num den = m := by
  have hc : nearestCode f num den = m.code := by
    rw [← nearestCode_scale num den (Nat.two_pow_pos f.scale), h, Nat.mul_comm den, nearestCode_scale _ _ hd,
      nearestCode_units]
  ext
  simp [nearest, hc, Nat.min_eq_right m.code_le]

theorem units_of_exponent {mantissa exponent : Nat} {m : Magnitude f} (hm : mantissa < 2 * 2 ^ f.fractionBits)
    (he : exponent = 0 ∨ 2 ^ f.fractionBits ≤ mantissa)
    (hc : m.code = exponent * 2 ^ f.fractionBits + mantissa) : m.units = mantissa * 2 ^ exponent := by
  have hp := Nat.two_pow_pos f.fractionBits
  by_cases hl : mantissa < 2 ^ f.fractionBits
  case pos =>
    cases he.resolve_right (Nat.not_le.mpr hl)
    simp [units, hc, Nat.div_eq_of_lt hl, Nat.mod_eq_of_lt hl]
  case neg =>
    have hr : mantissa - 2 ^ f.fractionBits < 2 ^ f.fractionBits := by omega
    have hc : m.code = mantissa - 2 ^ f.fractionBits + 2 ^ f.fractionBits * (exponent + 1) := by
      rw [hc, Nat.mul_succ, Nat.mul_comm]
      omega
    have hq : m.code / 2 ^ f.fractionBits = exponent + 1 := by
      rw [hc, Nat.add_mul_div_left _ _ hp, Nat.div_eq_of_lt hr, Nat.zero_add]
    have hf : m.code % 2 ^ f.fractionBits = mantissa - 2 ^ f.fractionBits := by
      rw [hc, Nat.add_mul_mod_self_left, Nat.mod_eq_of_lt hr]
    simp only [units, hq, hf, Nat.succ_ne_zero, if_false, Nat.add_sub_cancel]
    congr 1
    omega

-- The mantissa is doubled as long as there is room for another bit, and the exponent falls with each doubling.
theorem exists_units_eq {mantissa exponent : Nat} (hm : mantissa < 2 * 2 ^ f.fractionBits)
    (he : exponent + 2 ≤ f.exponents) : ∃ m : Magnitude f, m.IsFinite ∧ m.units = mantissa * 2 ^ exponent := by
  induction exponent generalizing mantissa
  case zero =>
    have hc : mantissa < f.infinityCode := Nat.lt_of_lt_of_le hm (Nat.mul_le_mul_right _ (by omega))
    exact ⟨⟨mantissa, Nat.le_of_lt hc⟩, hc, units_of_exponent hm (.inl rfl) (by simp)⟩
  case succ exponent ih =>
    by_cases hl : mantissa < 2 ^ f.fractionBits
    case pos =>
      have hd : 2 * mantissa < 2 * 2 ^ f.fractionBits := Nat.mul_lt_mul_of_pos_left hl (by decide)
      have ⟨m, hf, hu⟩ := ih hd (by omega)
      exact ⟨m, hf, by rw [hu, Nat.pow_succ]; ring⟩
    case neg =>
      have hc : (exponent + 1) * 2 ^ f.fractionBits + mantissa < f.infinityCode :=
        calc (exponent + 1) * 2 ^ f.fractionBits + mantissa
          _ < (exponent + 1 + 2) * 2 ^ f.fractionBits := by rw [Nat.add_mul (exponent + 1)]; omega
          _ ≤ f.infinityCode := Nat.mul_le_mul_right _ he
      exact ⟨⟨_, Nat.le_of_lt hc⟩, hc, units_of_exponent hm (.inr (Nat.not_lt.mp hl)) rfl⟩

theorem exists_mantissa {m : Magnitude f} (hf : 2 ≤ f.exponents) (hm : m.IsFinite) :
    ∃ mantissa exponent, mantissa < 2 * 2 ^ f.fractionBits ∧ exponent + 2 ≤ f.exponents ∧
      m.units = mantissa * 2 ^ exponent := by
  have hr := Nat.mod_lt m.code (Nat.two_pow_pos f.fractionBits)
  have he : m.code / 2 ^ f.fractionBits < f.exponents := Nat.div_lt_of_lt_mul (Nat.mul_comm .. ▸ hm)
  simp only [units]
  split
  case isTrue  => exact ⟨m.code % 2 ^ f.fractionBits, 0, by omega, hf, by simp⟩
  case isFalse => exact ⟨_, _, by omega, by omega, rfl⟩

end Magnitude

theorem units_of_toInt? {negative : Bool} {m : Magnitude f} {i : Int} (h : (number negative m).toInt? = some i) :
    m.units = i.natAbs * 2 ^ f.scale := by
  rw [← Numeral.natAbs_signed negative m.units, (toInt?_number.mp h).right, Int.natAbs_mul, Int.natAbs_natCast]

-- An integer that the format has is met where it is rounded.
theorem nearest_of_toInt? {negative : Bool} {m : Magnitude f} {i : Int} (h : (number negative m).toInt? = some i) :
    .nearest f i.natAbs 1 = m :=
  Magnitude.nearest_of_units (by decide) (by rw [units_of_toInt? h, Nat.mul_one])

theorem toInt?_ofInt_iff {i : Int} :
    (ofInt i : Binary f).toInt? = some i ↔ ∃ x : Binary f, x.number? = some (.ofRat i) := by
  constructor
  case mp => exact fun h => ⟨_, toInt?_eq_some_iff.mp h⟩
  case mpr =>
    rintro ⟨x, hx⟩
    cases x
    case nan => cases hx
    case number negative m =>
      have hi := toInt?_eq_some_iff.mpr hx
      rw [ofInt, nearest_of_toInt? hi, toInt?_number, units_of_toInt? hi, Numeral.signed_mul, Numeral.signed_natAbs]
      exact ⟨(toInt?_number.mp hi).left, rfl⟩

theorem eq_of_toInt? {x : Binary f} {i : Int} {negative : Bool} (h : x.toInt? = some i) (hi : i ≠ 0)
    (hs : Numeral.signed negative i.natAbs = i) : x = number negative (.nearest f i.natAbs 1) := by
  cases x
  case nan => cases h
  case number a m =>
    have hu := (toInt?_number.mp h).right
    rw [units_of_toInt? h, Numeral.signed_mul] at hu
    have ha := Int.eq_of_mul_eq_mul_right (Int.natCast_ne_zero.mpr (Nat.ne_of_gt (Nat.two_pow_pos _))) hu
    rw [nearest_of_toInt? h, Numeral.sign_unique hi ha hs]

section Whole

variable {x : Binary f} {i : Int}

theorem isWhole_iff : x.IsWhole ↔ ∃ i, x.toInt? = some i := by
  cases x
  case nan => simp [IsWhole, toInt?]
  case number negative m =>
    simp only [IsWhole, toInt?]
    split
    case isTrue h  => simp [h]
    case isFalse h => simp [h]

theorem clamp_of_toInt? (h : x.toInt? = some i) (least greatest : Int) :
    x.clamp least greatest = max least (min greatest i) := by
  cases x
  case nan => cases h
  case number negative m =>
    simp only [toInt?] at h
    split at h <;> cases h
    rfl

namespace Magnitude

-- Past the first exponents, as many as there are bits below the point, all numbers are whole.
theorem two_pow_dvd_units {m : Magnitude f} {k : Nat} (h : (k + 1) * 2 ^ f.fractionBits ≤ m.code) :
    2 ^ k ∣ m.units := by
  have he : k + 1 ≤ m.code / 2 ^ f.fractionBits := (Nat.le_div_iff_mul_le (Nat.two_pow_pos _)).mpr h
  have hz : m.code / 2 ^ f.fractionBits ≠ 0 := by omega
  simp only [units, if_neg hz]
  exact Nat.dvd_mul_left_of_dvd (Nat.pow_dvd_pow 2 (by omega)) _

section

variable {num den quotient : Nat}

-- Of the bits that are kept the first one is set, if none is missing.
theorem le_mantissa (hq : num * 2 ^ f.scale / den = quotient) (hz : quotient ≠ 0)
    (hl : f.fractionBits ≤ quotient.log2) :
    2 ^ f.fractionBits ≤ num * 2 ^ f.scale / (den * 2 ^ (quotient.log2 - f.fractionBits)) := by
  rw [← Nat.div_div_eq_div_mul, hq, Nat.le_div_iff_mul_le (Nat.two_pow_pos _), ← Nat.pow_add, Nat.add_sub_cancel' hl]
  exact Nat.log2_self_le hz

theorem mantissa_lt (hq : num * 2 ^ f.scale / den = quotient) :
    num * 2 ^ f.scale / (den * 2 ^ (quotient.log2 - f.fractionBits)) < 2 ^ (f.fractionBits + 1) := by
  rw [← Nat.div_div_eq_div_mul, hq, Nat.div_lt_iff_lt_mul (Nat.two_pow_pos _), ← Nat.pow_add]
  calc quotient
    _ < 2 ^ (quotient.log2 + 1) := Nat.lt_log2_self
    _ ≤ 2 ^ (f.fractionBits + 1 + (quotient.log2 - f.fractionBits)) := Nat.pow_le_pow_right (by decide) (by omega)

theorem le_nearestCode (hq : num * 2 ^ f.scale / den = quotient) (hz : quotient ≠ 0)
    (hl : f.fractionBits ≤ quotient.log2) :
    (quotient.log2 - f.fractionBits + 1) * 2 ^ f.fractionBits ≤ nearestCode f num den := by
  have hr := le_mantissa hq hz hl
  simp only [nearestCode, hq]
  rw [Nat.add_mul, Nat.one_mul]
  apply Nat.add_le_add_left
  simp only [roundHalfEven]
  split <;> omega

-- If all of them are set, rounding carries into the next exponent.
theorem nearestCode_le (hq : num * 2 ^ f.scale / den = quotient) :
    nearestCode f num den ≤ (quotient.log2 - f.fractionBits + 2) * 2 ^ f.fractionBits := by
  have hr := mantissa_lt hq
  simp only [nearestCode, hq]
  rw [Nat.add_mul]
  apply Nat.add_le_add_left
  simp only [roundHalfEven]
  split <;> omega

theorem isFinite_nearest (hq : num * 2 ^ f.scale / den = quotient)
    (h : quotient.log2 - f.fractionBits + 2 < f.exponents) : (nearest f num den).IsFinite := by
  have hc : nearestCode f num den < f.infinityCode :=
    Nat.lt_of_le_of_lt (nearestCode_le hq) (Nat.mul_lt_mul_of_pos_right h (Nat.two_pow_pos _))
  exact Nat.lt_of_le_of_lt (Nat.min_le_right ..) hc

end

end Magnitude

theorem isFinite_ofInt {bits : Nat} (hi : i.natAbs < 2 ^ bits)
    (hb : bits + f.scale - f.fractionBits + 2 < f.exponents) : (ofInt i : Binary f).IsFinite := by
  have hv : i.natAbs * 2 ^ f.scale < 2 ^ (bits + f.scale) := by
    rw [Nat.pow_add]
    exact Nat.mul_lt_mul_of_pos_right hi (Nat.two_pow_pos _)
  have hl : (i.natAbs * 2 ^ f.scale).log2 ≤ bits + f.scale := by
    by_cases hz : i.natAbs * 2 ^ f.scale = 0
    case pos => simp [hz]
    case neg => exact Nat.le_of_lt ((Nat.log2_lt hz).mpr hv)
  exact Magnitude.isFinite_nearest (Nat.div_one _) (by omega)

-- What is too great to be kept exactly is rounded to a multiple of a power of two.
theorem isWhole_ofInt (hf : f.scale + 2 ≤ f.exponents) (h : (ofInt i : Binary f).IsFinite) :
    (ofInt i : Binary f).IsWhole := by
  refine ⟨h, ?_⟩
  by_cases hi : i.natAbs < 2 * 2 ^ f.fractionBits
  case pos =>
    have ⟨m, hm, hu⟩ := Magnitude.exists_units_eq hi hf
    rw [Magnitude.nearest_of_units (m := m) (by decide) (by rw [hu, Nat.mul_one]), hu, Nat.mul_mod_left]
  case neg =>
    have hz : i.natAbs * 2 ^ f.scale ≠ 0 := by
      have := Nat.two_pow_pos f.fractionBits
      exact Nat.mul_ne_zero (by omega) (Nat.ne_of_gt (Nat.two_pow_pos _))
    have hl : f.fractionBits + 1 + f.scale ≤ (i.natAbs * 2 ^ f.scale).log2 := by
      rw [Nat.le_log2 hz, Nat.pow_add, Nat.pow_succ]
      exact Nat.mul_le_mul_right _ (by omega)
    have hm : (Magnitude.nearest f i.natAbs 1).code = nearestCode f i.natAbs 1 := by
      have : min f.infinityCode (nearestCode f i.natAbs 1) < f.infinityCode := h
      simp only [Magnitude.nearest]
      omega
    have hc : (f.scale + 1) * 2 ^ f.fractionBits ≤ (Magnitude.nearest f i.natAbs 1).code :=
      calc (f.scale + 1) * 2 ^ f.fractionBits
        _ ≤ ((i.natAbs * 2 ^ f.scale).log2 - f.fractionBits + 1) * 2 ^ f.fractionBits :=
          Nat.mul_le_mul_right _ (by omega)
        _ ≤ nearestCode f i.natAbs 1 := Magnitude.le_nearestCode (Nat.div_one _) hz (by omega)
        _ = (Magnitude.nearest f i.natAbs 1).code := hm.symm
    exact Nat.mod_eq_zero_of_dvd (Magnitude.two_pow_dvd_units hc)

end Whole

-- Whether all numbers of the one format are numbers of the other.
def Format.FitsIn (f g : Format) : Prop :=
  2 ≤ f.exponents ∧ f.fractionBits ≤ g.fractionBits ∧ f.scale ≤ g.scale ∧
    f.exponents + (g.scale - f.scale) ≤ g.exponents

instance (f g : Format) : Decidable (f.FitsIn g) :=
  inferInstanceAs (Decidable (_ ∧ _))

theorem Magnitude.number_nearest (h : f.FitsIn g) {m : Magnitude f} (hm : m.IsFinite) (negative : Bool) :
    (nearest g m.units (2 ^ f.scale)).number negative = m.number negative := by
  have ⟨hf, hb, hs, he⟩ := h
  have hs : 2 ^ g.scale = 2 ^ (g.scale - f.scale) * 2 ^ f.scale := by rw [← Nat.pow_add, Nat.sub_add_cancel hs]
  have hp := Nat.pow_le_pow_right (n := 2) (by decide) hb
  have ⟨mantissa, exponent, hl, hx, hu⟩ := exists_mantissa hf hm
  have hl : mantissa < 2 * 2 ^ g.fractionBits := by omega
  have hx : exponent + (g.scale - f.scale) + 2 ≤ g.exponents := by omega
  have ⟨n, hn, hv⟩ := exists_units_eq hl hx
  have hv : n.units = m.units * 2 ^ (g.scale - f.scale) := by rw [hv, hu, Nat.pow_add, Nat.mul_assoc]
  rw [nearest_of_units (m := n) (Nat.two_pow_pos _) (by rw [hv, hs, Nat.mul_assoc]), number, if_pos hn, number,
    if_pos hm, hv, hs, Numeral.signed_mul]
  have hk : ((2 ^ (g.scale - f.scale) : Nat) : ℚ) ≠ 0 := Nat.cast_ne_zero.mpr (Nat.ne_of_gt (Nat.two_pow_pos _))
  congr 1
  rw [Int.cast_mul, Nat.cast_mul, Int.cast_natCast, mul_comm ((2 ^ (g.scale - f.scale) : Nat) : ℚ),
    mul_div_mul_right _ _ hk]

-- A format that has room for all numbers of another takes each of them as it is.
theorem number?_convert (h : f.FitsIn g) (x : Binary f) : (x.convert g).number? = x.number? := by
  cases x
  case nan => rfl
  case number negative m =>
    by_cases hm : m.IsFinite
    case pos => simp only [convert, number?, if_pos hm, Magnitude.number_nearest h hm]
    case neg =>
      have hi : ¬ (Magnitude.infinity : Magnitude g).IsFinite := Nat.lt_irrefl _
      simp only [convert, number?, if_neg hm, Magnitude.number, if_neg hi]

end Binary
end RecordFilter
