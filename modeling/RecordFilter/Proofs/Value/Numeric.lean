import RecordFilter.Proofs.Decimal.Plain
import RecordFilter.Value.Basic

namespace RecordFilter

def isNumeric (c : Char) : Bool :=
  c.isDigit || c = '.' || c = '-'

def IsNumeric (cs : List Char) : Prop :=
  cs ≠ [] ∧ ∀ c ∈ cs, isNumeric c

theorem isNumeric_of_mem_toDigits {n : Nat} {c : Char} (h : c ∈ Nat.toDigits 10 n) : isNumeric c := by
  have := Nat.isDigit_of_mem_toDigits (by decide) (by decide) h
  simp [isNumeric, this]

namespace IsNumeric

theorem toDigits (n : Nat) : IsNumeric (Nat.toDigits 10 n) :=
  ⟨Nat.toDigits_ne_nil, fun _ => isNumeric_of_mem_toDigits⟩

theorem minus {cs : List Char} (h : IsNumeric cs) : IsNumeric ('-' :: cs) := by
  refine ⟨List.cons_ne_nil _ _, fun c hc => ?_⟩
  cases List.mem_cons.mp hc
  case inl he => subst he; decide
  case inr hc => exact h.right c hc

theorem ofInt (n : Int) : IsNumeric (Numeral.ofInt n) := by
  unfold Numeral.ofInt
  split
  case isTrue  => exact .minus (.toDigits _)
  case isFalse => exact .toDigits _

theorem plain (d : Decimal) : IsNumeric d.plain := by
  refine ⟨d.plain_ne_nil, fun c hc => ?_⟩
  obtain hd | rfl := d.isPlain_plain c hc
  case inl => simp [isNumeric, hd]
  case inr => decide

theorem signed (negative : Bool) {cs : List Char} (h : IsNumeric cs) : IsNumeric (Binary.signed negative cs) := by
  cases negative
  case false => exact h
  case true  => exact h.minus

end IsNumeric

-- What is not written as a number has no digits to write.
theorem Binary.isNumeric_toText {f : Format} (x : Binary f) :
    IsNumeric x.toText ∨ x.toText ∈ ["NaN".toList, "inf".toList, "-inf".toList] := by
  cases x
  case nan => exact .inr (List.mem_cons_self ..)
  case number negative m =>
    by_cases hm : m.IsFinite
    case pos => simp only [toText, if_pos hm]; exact .inl (.signed negative (.plain _))
    case neg => simp only [toText, if_neg hm]; exact .inr (by cases negative <;> decide)

end RecordFilter
