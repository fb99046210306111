import RecordFilter.Proofs.Binary.Text
import RecordFilter.Proofs.Value.Cast
import RecordFilter.Proofs.Value.Numeric

namespace RecordFilter

theorem not_isBlank_of_isNumeric {c : Char} (h : isNumeric c) : ¬ isBlank c := by
  simp only [isNumeric, Bool.or_eq_true, decide_eq_true_eq] at h
  obtain (h | rfl) | rfl := h
  case inl.inl => exact not_isBlank_of_isDigit h
  all_goals decide

namespace Value

variable {v : Value}

-- Only a text may have blanks that a reading passes over.
theorem trim_toText (h : v.kind ≠ .text) : trim v.toText.toList = v.toText.toList := by
  have hn {cs : List Char} (h : IsNumeric cs) : trim cs = cs :=
    trim_of_not_isBlank fun c hc => not_isBlank_of_isNumeric (h.right c hc)
  cases v
  case integer w n _ =>
    rw [toText, String.toList_ofList]
    exact hn (.ofInt n)
  case float x =>
    rw [toText, String.toList_ofList]
    obtain hx | hx := x.isNumeric_toText
    case inl => exact hn hx
    case inr =>
      have hw : ∀ cs ∈ ["NaN".toList, "inf".toList, "-inf".toList], trim cs = cs := by decide
      exact hw _ hx
  case bool b => cases b <;> decide
  case text => exact absurd rfl h

theorem castTo_text (v : Value) : v.castTo .text = .ok (text v.toText) := by
  cases v <;> rfl

theorem castTo_of_toText (v : Value) : (text v.toText).castTo v.kind = .ok v := by
  by_cases hk : v.kind = .text
  case pos =>
    obtain ⟨s, rfl⟩ := exists_text_of_kind hk
    rfl
  case neg =>
    have ht := trim_toText hk
    simp only [castTo, ofText, ht]
    cases v
    case integer w n h => simp [toText, kind, Numeral.toInt?_ofInt, h]
    case float x       => simp [toText, kind, Binary.ofText?_toText]
    case bool b        => cases b <;> decide
    case text          => exact absurd rfl hk

end Value
end RecordFilter
