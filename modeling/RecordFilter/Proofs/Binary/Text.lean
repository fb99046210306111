import RecordFilter.Binary.Text
import RecordFilter.Proofs.Decimal.Plain

namespace RecordFilter

theorem toLower_of_isDigit {c : Char} (h : c.isDigit) : c.toLower = c := by
  have hu : ¬ (c.val ≥ 'A'.val ∧ c.val ≤ 'Z'.val) := by
    simp only [Char.isDigit, Bool.and_eq_true, decide_eq_true_eq] at h
    grind
  exact dif_neg hu

theorem toLower_ne_of_isDigit {c : Char} (h : c.isDigit) : c.toLower ≠ 'n' ∧ c.toLower ≠ 'i' := by
  rw [toLower_of_isDigit h]
  constructor <;> rintro rfl <;> simp at h

namespace IsPlain

variable {cs : List Char}

theorem head_ne (h : IsPlain cs) : ∀ c ∈ cs.head?, c.toLower ≠ 'n' ∧ c.toLower ≠ 'i' := by
  intro c hc
  obtain hd | rfl := h c (List.mem_of_mem_head? hc)
  case inl => exact toLower_ne_of_isDigit hd
  case inr => decide

theorem splitSign_signed (h : IsPlain cs) (negative : Bool) :
    Numeral.splitSign (Binary.signed negative cs) = (negative, cs) := by
  have hm : ¬ IsPlain ['-'] := by decide
  have hp : ¬ IsPlain ['+'] := by decide
  cases negative
  case true => rfl
  case false =>
    apply Numeral.splitSign_of_unsigned
    intro c hc
    have hs : IsPlain [c] := fun c' hc' => h c' (List.mem_singleton.mp hc' ▸ hc)
    constructor <;> rintro rfl <;> contradiction

end IsPlain

namespace Binary

variable {f : Format} {cs : List Char}

-- How a text is read that has no sign.
def ofUnsigned? (negative : Bool) (cs : List Char) : Option (Binary f) :=
  let word := String.ofList (cs.map Char.toLower)
  if word = "nan" then
    some nan
  else if word = "inf" ∨ word = "infinity" then
    some (number negative .infinity)
  else
    (Decimal.read? cs).map fun d => number negative (d.nearest f)

theorem ofText?_eq (cs : List Char) :
    (ofText? cs : Option (Binary f)) = ofUnsigned? (Numeral.splitSign cs).1 (Numeral.splitSign cs).2 :=
  rfl

-- A text is told from the words by the letter that it begins with.
theorem ofUnsigned?_of_head (h : ∀ c ∈ cs.head?, c.toLower ≠ 'n' ∧ c.toLower ≠ 'i') (negative : Bool) :
    (ofUnsigned? negative cs : Option (Binary f)) =
      (Decimal.read? cs).map fun d => number negative (d.nearest f) := by
  have hw (word : String) (hw : word.toList.head? = some 'n' ∨ word.toList.head? = some 'i') :
      String.ofList (cs.map Char.toLower) ≠ word := by
    rintro rfl
    simp only [String.toList_ofList, List.head?_map, Option.map_eq_some_iff] at hw
    obtain ⟨c, hc, he⟩ | ⟨c, hc, he⟩ := hw
    case inl => exact (h c hc).left he
    case inr => exact (h c hc).right he
  have hn := hw "nan" (by decide)
  have hi := hw "inf" (by decide)
  have hy := hw "infinity" (by decide)
  simp only [ofUnsigned?, hn, hi, hy, or_self, if_false]

theorem ofText?_signed (h : IsPlain cs) (negative : Bool) :
    (ofText? (signed negative cs) : Option (Binary f)) =
      (Decimal.read? cs).map fun d => number negative (d.nearest f) := by
  rw [ofText?_eq, h.splitSign_signed, ofUnsigned?_of_head h.head_ne]

theorem ofText?_toText (x : Binary f) : ofText? x.toText = some x := by
  cases x
  case nan => rfl
  case number negative m =>
    by_cases hm : m.IsFinite
    case pos =>
      have hp := (Decimal.shortest m).isPlain_plain
      have hn := Decimal.nearest_positional hm (Decimal.nearest_shortest m)
      rw [toText, if_pos hm, ofText?_signed hp, Decimal.read?_plain, Option.map_some, hn]
    case neg =>
      have hi : m = .infinity := Magnitude.ext (Nat.le_antisymm m.code_le (Nat.le_of_not_lt hm))
      subst hi
      rw [toText, if_neg hm]
      cases negative <;> rfl

end Binary
end RecordFilter
