import RecordFilter.Proofs.Binary.Nearest
import RecordFilter.Proofs.Binary.Numeral
import RecordFilter.Proofs.Value.Compare
import RecordFilter.Proofs.Value.Loss

namespace RecordFilter

-- Whether a text is a numeral for the integer, with blanks around it.
def Numeral.Spells (s : String) (n : Int) : Prop :=
  ∃ cs, Padded cs s.toList ∧ Denotes cs n

theorem Numeral.toInt?_trim_eq_some_iff {s : String} {n : Int} : toInt? (trim s.toList) = some n ↔ Spells s n := by
  rw [toInt?_eq_some_iff]
  constructor
  case mp => exact fun h => ⟨_, padded_trim _, h⟩
  case mpr =>
    rintro ⟨cs, hp, hd⟩
    rwa [(trim_eq_iff_padded hd.not_isBlank).mpr hp]

namespace Binary

variable {f : Format} {x y : Binary f}

theorem number?_zero (hf : 0 < f.exponents) (negative : Bool) :
    (number negative .zero : Binary f).number? = some (.ofRat 0) :=
  (place_eq_zero_iff hf).mp (place_zero negative)

theorem number?_eq_of_place_eq (hf : 0 < f.exponents) (h : x.place = y.place) : x.number? = y.number? := by
  cases x <;> cases y
  case number.number a m b n =>
    obtain ⟨rfl, rfl⟩ | ⟨rfl, rfl, rfl⟩ := place_number_eq_iff.mp h
    case inl => rfl
    case inr => rw [number?_zero hf, number?_zero hf]
  case nan.nan => rfl
  all_goals cases h

-- The sign of an integer is lost in nothing but zero.
theorem place_nearest_signed {i : Int} {negative : Bool} (h : Numeral.signed negative i.natAbs = i) :
    (number negative (.nearest f i.natAbs 1)).place = (ofInt i : Binary f).place := by
  rw [ofInt, place_number_eq_iff]
  by_cases hi : i = 0
  case pos => subst hi; cases negative <;> simp [Magnitude.nearest_zero]
  case neg => exact .inl ⟨Numeral.sign_unique hi h (Numeral.signed_natAbs i), rfl⟩

end Binary

namespace Value

variable {s : String} {w : Width} {k : Kind} {v : Value} {e : CastError}

theorem castTo_integer_eq_ok_iff :
    (text s).castTo (.integer w) = .ok v ↔ ∃ (n : Int) (h : w.Fits n), v = integer w n h ∧ Numeral.Spells s n := by
  simp only [← Numeral.toInt?_trim_eq_some_iff, castTo, ofText]
  cases Numeral.toInt? (trim s.toList)
  case none => simp
  case some n =>
    by_cases hn : w.Fits n
    case pos => simp [hn, eq_comm]
    case neg => simp [hn]

theorem castTo_integer_eq_error_iff :
    (text s).castTo (.integer w) = .error e ↔
      e = .invalidFormat s (.integer w) ∧ ∀ n, Numeral.Spells s n → ¬ w.Fits n := by
  rw [castTo_text_eq_error_iff]
  refine and_congr_right fun _ => ⟨fun h n hs hn => ?_, fun h v hv => ?_⟩
  · exact h _ (castTo_integer_eq_ok_iff.mpr ⟨n, hn, rfl, hs⟩)
  · obtain ⟨n, hn, -, hs⟩ := castTo_integer_eq_ok_iff.mp hv
    exact h n hs hn

theorem castTo_integer_eq_ok_integer_iff {n : Int} {h : w.Fits n} :
    (text s).castTo (.integer w) = .ok (integer w n h) ↔ Numeral.Spells s n := by
  rw [castTo_integer_eq_ok_iff]
  constructor
  case mp =>
    rintro ⟨_, _, he, hs⟩
    cases he
    exact hs
  case mpr => exact fun hs => ⟨n, h, rfl, hs⟩

theorem toOption_castTo_of_respelled {t : String} (hk : k.IsNumeric) (h : Numeral.Respelled s.toList t.toList) :
    ((text t).castTo k).toOption = ((text s).castTo k).toOption := by
  simp only [castTo, ofText, toOption_elim]
  cases k
  case integer => rw [Numeral.toInt?_of_respelled h]
  case float   => rw [Binary.ofText?_of_respelled h]
  all_goals cases hk

theorem castTo_via_widest :
    (text s).castTo (.integer w) = .ok v ↔
      ∃ u, (text s).castTo (.integer .w64) = .ok u ∧ u.castTo (.integer w) = .ok v := by
  simp only [castTo_integer_eq_ok_iff]
  constructor
  case mp =>
    rintro ⟨n, h, rfl, hs⟩
    exact ⟨_, ⟨n, h.widest, rfl, hs⟩, dif_pos h⟩
  case mpr =>
    rintro ⟨_, ⟨n, _, rfl, hs⟩, hc⟩
    simp only [castTo, ofInt] at hc
    split at hc <;> cases hc
    exact ⟨n, _, rfl, hs⟩

theorem exists_castTo_float {n : Int} (hs : Numeral.Spells s n) :
    ∃ negative, Numeral.signed negative n.natAbs = n ∧
      (text s).castTo .float = .ok (float (.number negative (.nearest _ n.natAbs 1))) := by
  obtain ⟨cs, hp, hd⟩ := hs
  obtain ⟨negative, hn, hx⟩ := Binary.ofText?_of_denotes (f := .binary64) hd
  refine ⟨negative, hn, ?_⟩
  simp only [castTo, ofText, (trim_eq_iff_padded hd.not_isBlank).mpr hp, hx]
  rfl

theorem castTo_float_of_spells {n : Int} (hn : Width.w64.Fits n) (hs : Numeral.Spells s n) :
    ∃ x, (text s).castTo .float = .ok (float x) ∧ x.IsNearest n ∧ x.place = (Binary.ofInt n : Double).place := by
  have ⟨negative, hg, hc⟩ := exists_castTo_float hs
  have hf := Binary.isNearest_nearest (by decide) (by decide) (Width.isFinite_ofInt hn) negative
  rw [hg, Nat.cast_one, div_one] at hf
  exact ⟨_, hc, hf, Binary.place_nearest_signed hg⟩

-- Whatever is done to the text that makes no difference to the number, the casts to all kinds of numbers agree.
theorem castTo_numeral (s : String) :
    (∀ (w : Width) (v : Value), (text s).castTo (.integer w) = .ok v ↔
      ∃ (n : Int) (h : w.Fits n), v = integer w n h ∧ Numeral.Spells s n) ∧
    (∀ (w : Width) (e : CastError), (text s).castTo (.integer w) = .error e ↔
      e = .invalidFormat s (.integer w) ∧ ∀ n, Numeral.Spells s n → ¬ w.Fits n) ∧
    (∀ (w : Width) (n : Int) (h : w.Fits n), (text s).castTo (.integer w) = .ok (integer w n h) ↔
      (text s).castTo (.integer .w64) = .ok (integer .w64 n h.widest)) ∧
    (∀ (w : Width) (v : Value), (text s).castTo (.integer w) = .ok v ↔
      ∃ u, (text s).castTo (.integer .w64) = .ok u ∧ u.castTo (.integer w) = .ok v) ∧
    (∀ t : String, Numeral.Respelled s.toList t.toList → ∀ k : Kind, k.IsNumeric →
      ((text t).castTo k).toOption = ((text s).castTo k).toOption) ∧
    ∀ (n : Int) (h : Width.w64.Fits n), (text s).castTo (.integer .w64) = .ok (integer .w64 n h) →
      ∃ x : Double, (text s).castTo .float = .ok (float x) ∧ x.IsNearest n ∧
        x.place = (Binary.ofInt n : Double).place ∧
        ∀ v, (integer .w64 n h).castTo .float = .ok v → v.number? = x.number? := by
  refine ⟨fun w v => castTo_integer_eq_ok_iff, fun w e => castTo_integer_eq_error_iff, ?width,
    fun w v => castTo_via_widest, fun t h k hk => toOption_castTo_of_respelled hk h, ?float⟩
  case width =>
    intro w n h
    rw [castTo_integer_eq_ok_integer_iff, castTo_integer_eq_ok_integer_iff]
  case float =>
    intro n h hc
    have ⟨x, hx, hn, hp⟩ := castTo_float_of_spells h (castTo_integer_eq_ok_integer_iff.mp hc)
    refine ⟨x, hx, hn, hp, fun v hv => ?_⟩
    simp only [castTo, ofInt_float h] at hv
    split at hv <;> cases hv
    exact (Binary.number?_eq_of_place_eq (by decide) hp).symm

end Value
end RecordFilter
