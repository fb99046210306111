import RecordFilter.Value.Cast

namespace RecordFilter
namespace Value

variable {w : Value} {k : Kind} {s : String} {e : CastError}

theorem kind_of_ofInt {n : Int} (h : ofInt n k = .ok w) : w.kind = k := by
  cases k <;> simp only [ofInt] at h
  case integer => split at h <;> cases h; rfl
  case float   => split at h <;> cases h; rfl
  all_goals cases h; rfl

theorem kind_of_ofDouble {x : Double} (h : ofDouble x k = .ok w) : w.kind = k := by
  cases k <;> simp only [ofDouble] at h
  case integer =>
    split at h
    case isTrue => cases h
    case isFalse =>
      split at h
      case isTrue  => cases h
      case isFalse => exact kind_of_ofInt h
  all_goals cases h; rfl

theorem kind_of_ofBool {b : Bool} (h : ofBool b k = .ok w) : w.kind = k := by
  cases k <;> cases h <;> rfl

theorem kind_of_ofText (h : ofText s k = .ok w) : w.kind = k := by
  cases k <;> simp only [ofText] at h
  case integer width =>
    cases hn : Numeral.toInt? (trim s.toList) <;> simp only [hn, Option.bind_none, Option.bind_some] at h
    case none => cases h
    case some n => split at h <;> cases h; rfl
  case float => cases hx : Binary.ofText? (f := .binary64) (trim s.toList) <;> rw [hx] at h <;> cases h; rfl
  case bool => cases hb : boolWord? (trim s.toList) <;> rw [hb] at h <;> cases h; rfl
  case text => cases h; rfl

theorem kind_of_castTo {v : Value} (h : v.castTo k = .ok w) : w.kind = k := by
  cases v
  case integer => exact kind_of_ofInt h
  case float   => exact kind_of_ofDouble h
  case bool    => exact kind_of_ofBool h
  case text    => exact kind_of_ofText h

theorem castTo_kind (v : Value) : v.castTo v.kind = .ok v := by
  cases v
  case integer width n hn => exact dif_pos hn
  all_goals rfl

theorem exists_text_of_kind {v : Value} (h : v.kind = .text) : ∃ s, v = text s := by
  cases v <;> cases h
  exact ⟨_, rfl⟩

-- A text is refused for one reason only, and is quoted as it is.
theorem eq_invalidFormat_of_castTo (h : (text s).castTo k = .error e) : e = .invalidFormat s k := by
  obtain ⟨read?, hr⟩ : ∃ read? : Option Value, (text s).castTo k = read?.elim (.error (.invalidFormat s k)) .ok :=
    ⟨_, rfl⟩
  cases read? <;> rw [hr] at h <;> cases h
  rfl

theorem castTo_text_eq_error_iff :
    (text s).castTo k = .error e ↔ e = .invalidFormat s k ∧ ∀ v, (text s).castTo k ≠ .ok v := by
  cases hc : (text s).castTo k
  case ok v    => simp
  case error d => simp [eq_invalidFormat_of_castTo hc, eq_comm]

theorem toOption_elim {α ε : Type} (o : Option α) (e : ε) : (o.elim (.error e) .ok : Except ε α).toOption = o := by
  cases o <;> rfl

end Value
end RecordFilter
