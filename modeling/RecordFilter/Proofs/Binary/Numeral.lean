import RecordFilter.Proofs.Binary.Text
import RecordFilter.Proofs.Text.Numeral

namespace RecordFilter

-- Powers of naturals are those of the core library, whatever else is imported.
attribute [local instance (2000)] instPowNat

variable {cs ds : List Char} {c : Char}

namespace Decimal

theorem read?_of_isNatural (h : Numeral.IsNatural cs) : read? cs = some ⟨Numeral.placeValue cs, 0⟩ := by
  rw [read?_digits (List.all_eq_true.mpr h.right) h.left, Numeral.ofDigitChars_eq_placeValue]

theorem read?_append_zeros (hc : c.isDigit) (k : Nat) (cs : List Char) :
    read? (List.replicate k '0' ++ c :: cs) = read? (c :: cs) := by
  have hz : ∀ d ∈ List.replicate k '0', d.isDigit := fun d hd => List.eq_of_mem_replicate hd ▸ by decide
  simp only [read?, List.takeWhile_append_of_pos hz, List.dropWhile_append_of_pos hz, List.append_assoc,
    Nat.ofDigitChars_append, Nat.ofDigitChars_replicate_zero, Nat.mul_zero]
  simp [hc]

theorem nearest_natural (f : Binary.Format) (n : Nat) : (⟨n, 0⟩ : Decimal).nearest f = .nearest f n 1 := by
  by_cases hn : n = 0
  case pos => rw [nearest_of_digits_eq_zero hn, hn, Binary.Magnitude.nearest_zero]
  case neg => exact nearest_of_fraction hn (Nat.zero_le _)

end Decimal

namespace Binary

variable {f : Format}

theorem ofUnsigned?_of_isDigit (hc : c.isDigit) (negative : Bool) :
    (ofUnsigned? negative (c :: cs) : Option (Binary f)) =
      (Decimal.read? (c :: cs)).map fun d => number negative (d.nearest f) :=
  have hh : ∀ d ∈ (c :: cs).head?, d.toLower ≠ 'n' ∧ d.toLower ≠ 'i' := by simpa using toLower_ne_of_isDigit hc
  ofUnsigned?_of_head hh negative

theorem ofUnsigned?_append_zeros (hc : c.isDigit) (negative : Bool) (k : Nat) :
    (ofUnsigned? negative (List.replicate k '0' ++ c :: cs) : Option (Binary f)) = ofUnsigned? negative (c :: cs) := by
  cases k
  case zero => rfl
  case succ k =>
    have hz := Decimal.read?_append_zeros hc (k + 1) cs
    rw [List.replicate_succ, List.cons_append] at hz ⊢
    rw [ofUnsigned?_of_isDigit (by decide), ofUnsigned?_of_isDigit hc, hz]

theorem ofText?_of_respelled (h : Numeral.Respelled cs ds) :
    (ofText? (trim ds) : Option (Binary f)) = ofText? (trim cs) := by
  rw [ofText?_eq, ofText?_eq]
  exact h.read_eq ofUnsigned? fun negative k c cs hc => ofUnsigned?_append_zeros hc negative k

theorem ofText?_of_denotes {n : Int} (h : Numeral.Denotes cs n) :
    ∃ negative, Numeral.signed negative n.natAbs = n ∧
      ofText? cs = some (number negative (.nearest f n.natAbs 1)) := by
  obtain @⟨sign, digits, negative, hs, hd⟩ := h
  rw [Numeral.natAbs_signed]
  refine ⟨negative, rfl, ?_⟩
  obtain ⟨c, ds, rfl⟩ := List.exists_cons_of_ne_nil hd.left
  rw [ofText?_eq, Numeral.splitSign_of_isSign hs hd.head_ne_sign,
    ofUnsigned?_of_isDigit (hd.right c List.mem_cons_self), Decimal.read?_of_isNatural hd, Option.map_some,
    Decimal.nearest_natural]

end Binary

end RecordFilter
