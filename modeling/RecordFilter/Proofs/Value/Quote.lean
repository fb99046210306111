import RecordFilter.Proofs.Value.Numeral
import RecordFilter.Proofs.Value.Text

namespace RecordFilter

def CastError.quoted : CastError → String
  | invalidFormat text _      => text
  | numericOverflow number _  => number
  | lossyConversion number _  => number

theorem Numeral.spells_ofInt (n : Int) : Spells (String.ofList (ofInt n)) n :=
  ⟨ofInt n, ⟨[], [], by simp⟩, toInt?_eq_some_iff.mp (toInt?_ofInt n)⟩

namespace Value

variable {v : Value} {k : Kind} {e : CastError} {n : Int} {x : Double}

theorem quoted_of_ofInt (h : ofInt n k = .error e) : e.quoted = String.ofList (Numeral.ofInt n) := by
  cases k <;> simp only [ofInt] at h
  case integer | float =>
    split at h <;> cases h
    rfl
  all_goals cases h

-- Zero is in the range of every kind of integers.
theorem ne_zero_of_ofInt {w : Width} (h : ofInt n (.integer w) = .error e) : n ≠ 0 := by
  rintro rfl
  have hz : w.Fits 0 := w.fits_bit false
  rw [ofInt, dif_pos hz] at h
  cases h

theorem quoted_of_ofDouble (h : ofDouble x k = .error e) :
    (∃ n, x.toInt? = some n ∧ Width.w64.Fits n ∧ n ≠ 0 ∧ e.quoted = String.ofList (Numeral.ofInt n)) ∨
      (∀ n, x.toInt? = some n → ¬ Width.w64.Fits n) ∧ e.quoted = String.ofList x.toText := by
  cases k
  case integer width =>
    cases hx : x.toInt?
    case none =>
      rw [ofDouble_of_toInt?_eq_none hx] at h
      cases h
      exact .inr ⟨nofun, rfl⟩
    case some n =>
      rw [ofDouble_of_toInt? hx] at h
      split at h
      case isTrue hn => exact .inl ⟨n, rfl, hn, ne_zero_of_ofInt h, quoted_of_ofInt h⟩
      case isFalse hn =>
        cases h
        exact .inr ⟨fun m hm => Option.some_inj.mp hm ▸ hn, rfl⟩
  all_goals cases h

-- An integer that a float is equal to is rounded to that float.
theorem castTo_float_of_toInt? (hx : x.toInt? = some n) (hz : n ≠ 0) {s : String} (hs : Numeral.Spells s n) :
    (text s).castTo .float = .ok (float x) := by
  have ⟨negative, hn, hc⟩ := exists_castTo_float hs
  rw [hc, Binary.eq_of_toInt? hx hz hn]

theorem castTo_quoted_of_ofDouble (h : ofDouble x k = .error e) : (text e.quoted).castTo .float = .ok (float x) := by
  obtain ⟨n, hx, -, hz, he⟩ | ⟨-, he⟩ := quoted_of_ofDouble h <;> rw [he]
  case inl => exact castTo_float_of_toInt? hx hz (Numeral.spells_ofInt n)
  case inr => exact castTo_of_toText (float x)

theorem isNumeric_of_castTo (hv : v.kind ≠ .text) (h : v.castTo k = .error e) : k.IsNumeric := by
  cases k
  case integer | float => trivial
  case bool =>
    obtain ⟨b, hb, -⟩ := castTo_bool hv
    cases h.symm.trans hb
  case text => cases h.symm.trans v.castTo_text

-- The digits of an integer and the text of the float that it is equal to may differ, yet both are read as that float.
theorem castTo_quoted (hv : v.kind.IsNumeric) (h : v.castTo k = .error e) :
    ((∃ number, e = .numericOverflow number k) ∨ ∃ number, e = .lossyConversion number k) ∧
    (text e.quoted).castTo v.kind = .ok v ∧
    ∀ x, v = float x →
      (∀ n, x.toInt? = some n → Width.w64.Fits n → e.quoted = String.ofList (Numeral.ofInt n)) ∧
      ((∀ n, x.toInt? = some n → ¬ Width.w64.Fits n) → e.quoted = String.ofList x.toText) := by
  have ht : v.kind ≠ .text := fun ht => by rw [ht] at hv; exact hv
  refine ⟨?error, ?quoted, ?texts⟩
  case error =>
    cases refused_of_castTo (isNumeric_of_castTo ht h) ht h
    case overflow => exact .inl ⟨_, rfl⟩
    case loss     => exact .inr ⟨_, rfl⟩
  case quoted =>
    cases v
    case integer width n hn =>
      rw [quoted_of_ofInt h]
      exact castTo_of_toText (integer width n hn)
    case float x => exact castTo_quoted_of_ofDouble h
    all_goals cases hv
  case texts =>
    rintro x rfl
    obtain ⟨n, hx, hf, -, he⟩ | ⟨hn, he⟩ := quoted_of_ofDouble h
    case inl =>
      refine ⟨fun m hm _ => ?_, fun hn => absurd hf (hn n hx)⟩
      cases hx.symm.trans hm
      exact he
    case inr => exact ⟨fun n hx hf => absurd hf (hn n hx), fun _ => he⟩

theorem castTo_quoted_digits :
    let v := float (Binary.ofInt 4611686018427387904)
    v.kind.IsNumeric ∧ ∃ e, v.castTo (.integer .w16) = .error e ∧ e.quoted = "4611686018427387904" ∧
      v.toText = "4611686018427388000" ∧ (text "4611686018427387904").castTo .float = .ok v := by
  intro v
  have hv : v.kind.IsNumeric := trivial
  have hc : v.castTo (.integer .w16) = .error (.numericOverflow "4611686018427387904" (.integer .w16)) := by
    decide +kernel
  have ht : v.toText = "4611686018427388000" := by decide +kernel
  exact ⟨hv, _, hc, rfl, ht, (castTo_quoted hv hc).right.left⟩

end Value
end RecordFilter
