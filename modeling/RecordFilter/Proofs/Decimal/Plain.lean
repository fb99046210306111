import RecordFilter.Decimal.Plain
import RecordFilter.Decimal.Reader
import RecordFilter.Proofs.Decimal.Shortest
import RecordFilter.Proofs.Text.Run

namespace RecordFilter

-- Powers of naturals are those of the core library, whatever else is imported.
attribute [local instance (2000)] instPowNat

theorem all_isDigit_toDigits (n : Nat) : (Nat.toDigits 10 n).all Char.isDigit :=
  List.all_eq_true.mpr fun _ => Nat.isDigit_of_mem_toDigits (by decide) (by decide)

-- Digits, and points among them.
def IsPlain (cs : List Char) : Prop :=
  ∀ c ∈ cs, c.isDigit ∨ c = '.'

instance : DecidablePred IsPlain :=
  fun cs => List.decidableBAll (fun c : Char => c.isDigit ∨ c = '.') cs

namespace Decimal

-- Digits with a point in front of the last `places` of them. Zeros fill up what is missing in front.
def padded (digits places : Nat) : List Char :=
  let cs := Nat.toDigits 10 digits
  List.replicate (places + 1 - cs.length) '0' ++ cs

theorem all_isDigit_padded (digits places : Nat) : (padded digits places).all Char.isDigit := by
  rw [padded, List.all_append, all_isDigit_toDigits, Bool.and_true, List.all_eq_true]
  intro c hc
  rw [List.eq_of_mem_replicate hc]
  decide

theorem lt_length_padded (digits places : Nat) : places < (padded digits places).length := by
  rw [padded, List.length_append, List.length_replicate]
  omega

theorem ofDigitChars_padded (digits places : Nat) : Nat.ofDigitChars 10 (padded digits places) 0 = digits := by
  rw [padded, Nat.ofDigitChars_append, Nat.ofDigitChars_replicate_zero, Nat.mul_zero, Nat.ofDigitChars_ten_toDigits]

-- The same number without a power of ten above the point.
def positional (d : Decimal) : Decimal :=
  ⟨d.num, min d.exponent 0⟩

section

variable {d : Decimal}

theorem positional_of_neg (h : d.exponent < 0) : d.positional = d := by
  have hn : d.exponent.toNat = 0 := by omega
  have hm : min d.exponent 0 = d.exponent := by omega
  rw [positional, num, hn, hm, Nat.pow_zero, Nat.mul_one]

theorem plain_of_neg (h : d.exponent < 0) :
    ∃ whole fraction, d.plain = whole ++ '.' :: fraction ∧
      whole ++ fraction = padded d.digits (-d.exponent).toNat ∧ whole ≠ [] ∧ -(fraction.length : Int) = d.exponent := by
  obtain ⟨places, hz⟩ : ∃ places, (-d.exponent).toNat = places := ⟨_, rfl⟩
  have hp : places ≠ 0 := by omega
  have he : -(places : Int) = d.exponent := by omega
  have hl := lt_length_padded d.digits places
  have hd : d.plain = (padded d.digits places).take ((padded d.digits places).length - places) ++
      '.' :: (padded d.digits places).drop ((padded d.digits places).length - places) := by
    simp only [plain, hz, if_neg hp]
    rfl
  rw [hd, hz]
  generalize padded d.digits places = cs at *
  have hw : 0 < (cs.take (cs.length - places)).length := by rw [List.length_take]; omega
  have hf : (cs.drop (cs.length - places)).length = places := by rw [List.length_drop]; omega
  exact ⟨_, _, rfl, List.take_append_drop .., List.ne_nil_of_length_pos hw, by rw [hf, he]⟩

theorem plain_of_nonneg (h : 0 ≤ d.exponent) : d.plain = Nat.toDigits 10 d.num ∧ d.positional = ⟨d.num, 0⟩ := by
  have hp : (-d.exponent).toNat = 0 := by omega
  have hm : min d.exponent 0 = 0 := by omega
  simp only [plain, hp, if_true, positional, hm, and_self]

end

theorem read?_digits {whole : List Char} (hw : whole.all Char.isDigit) (hn : whole ≠ []) :
    read? whole = some ⟨Nat.ofDigitChars 10 whole 0, 0⟩ := by
  have ⟨hwt, hwd⟩ := takeWhile_of_all hw
  simp [read?, hwt, hwd, splitFraction, power?, hn]

theorem read?_point {whole fraction : List Char} (hw : whole.all Char.isDigit) (hf : fraction.all Char.isDigit)
    (hn : whole ≠ []) :
    read? (whole ++ '.' :: fraction) = some ⟨Nat.ofDigitChars 10 (whole ++ fraction) 0, -fraction.length⟩ := by
  have hp : ∀ c ∈ ('.' :: fraction).head?, ¬ c.isDigit := by simp
  have ⟨hwt, hwd⟩ := takeWhile_append_of_stop hw hp
  have ⟨hft, hfd⟩ := takeWhile_of_all hf
  simp [read?, hwt, hwd, splitFraction, hft, hfd, power?, hn]

theorem read?_plain (d : Decimal) : read? d.plain = some d.positional := by
  obtain h | h := Int.lt_or_le d.exponent 0
  case inl =>
    have ⟨whole, fraction, hp, hc, hn, he⟩ := plain_of_neg h
    have ⟨hw, hf⟩ : whole.all Char.isDigit ∧ fraction.all Char.isDigit := by
      rw [← Bool.and_eq_true, ← List.all_append, hc]
      exact all_isDigit_padded ..
    rw [hp, read?_point hw hf hn, hc, ofDigitChars_padded, he, positional_of_neg h]
  case inr =>
    have ⟨hp, hd⟩ := plain_of_nonneg h
    rw [hp, hd, read?_digits (all_isDigit_toDigits _) Nat.toDigits_ne_nil, Nat.ofDigitChars_ten_toDigits]

theorem isPlain_plain (d : Decimal) : IsPlain d.plain := by
  intro c hc
  obtain h | h := Int.lt_or_le d.exponent 0
  case inl =>
    obtain ⟨whole, fraction, hp, hd, -⟩ := plain_of_neg h
    have ha := List.all_eq_true.mp (hd ▸ all_isDigit_padded d.digits (-d.exponent).toNat)
    rw [hp, List.mem_append, List.mem_cons] at hc
    obtain hc | rfl | hc := hc
    case inl     => exact .inl (ha c (List.mem_append_left _ hc))
    case inr.inl => exact .inr rfl
    case inr.inr => exact .inl (ha c (List.mem_append_right _ hc))
  case inr =>
    rw [(plain_of_nonneg h).left] at hc
    exact .inl (List.all_eq_true.mp (all_isDigit_toDigits _) c hc)

theorem plain_ne_nil (d : Decimal) : d.plain ≠ [] := by
  intro h
  have hr := d.read?_plain
  rw [h] at hr
  cases hr

-- What is met with a power of ten above the point was not taken for an infinity early, so it is met without one.
theorem nearest_positional {f : Binary.Format} {m : Binary.Magnitude f} {d : Decimal} (hm : m.IsFinite)
    (h : d.nearest f = m) : d.positional.nearest f = m := by
  obtain hn | hn := Int.lt_or_le d.exponent 0
  case inl => rw [positional_of_neg hn, h]
  case inr =>
    rw [(plain_of_nonneg hn).right]
    by_cases hz : d.digits = 0
    case pos =>
      have hp : d.num = 0 := by rw [num, hz, Nat.zero_mul]
      rw [nearest_of_digits_eq_zero hz] at h
      rw [nearest_of_digits_eq_zero hp, h]
    case neg =>
      have hi : ¬ (f.exponents : Int) < d.exponent := by
        intro hi
        rw [nearest, if_neg hz, if_pos hi] at h
        cases h
        exact Nat.lt_irrefl _ hm
      have hs : ¬ d.exponent < -(d.digits.log2 + f.scale + 3) := by omega
      have hp : d.num ≠ 0 := Nat.mul_ne_zero hz (Nat.ne_of_gt (Nat.pow_pos (by decide)))
      have hd : d.den = 10 ^ 0 := by rw [den, Int.toNat_of_nonpos (by omega)]
      rw [nearest, if_neg hz, if_neg hi, if_neg hs, hd] at h
      exact (nearest_of_fraction hp (Nat.zero_le _)).trans h

end Decimal
end RecordFilter
