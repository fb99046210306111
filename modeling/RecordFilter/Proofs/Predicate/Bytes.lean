import RecordFilter.Proofs.Predicate.LeftFold
import RecordFilter.Proofs.Predicate.Operators
import RecordFilter.Proofs.Text.Bytes
import Mathlib.Data.String.Basic

namespace RecordFilter

open Bytes (bytes_eq_encode exists_of_encode_infix isInfix_encode_iff)

theorem codePoints_injective : Function.Injective codePoints := by
  intro s t h
  exact String.toList_inj.mp (List.map_injective_iff.mpr (fun _ _ => Char.toNat_inj.mp) h)

theorem compareLex_toNat_eq_lt_iff {cs ds : List Char} :
    (cs.map Char.toNat).compareLex compare (ds.map Char.toNat) = .lt ↔ cs < ds := by
  induction cs generalizing ds
  case nil => cases ds <;> simp [List.compareLex_nil_nil, List.compareLex_nil_cons]
  case cons c cs ih =>
    cases ds
    case nil       => simp [List.compareLex_cons_nil]
    case cons d ds =>
      rw [List.map_cons, List.map_cons, List.compareLex_cons_cons, Ordering.then_eq_lt, ih, List.cons_lt_cons_iff,
        Nat.compare_eq_lt, Nat.compare_eq_eq, Char.toNat_inj]
      rfl

theorem compareLex_codePoints (s t : String) : (codePoints s).compareLex compare (codePoints t) = compare s t := by
  cases h : (codePoints s).compareLex compare (codePoints t)
  case lt => exact (compare_lt_iff_lt.mpr (String.lt_iff_toList_lt.mpr (compareLex_toNat_eq_lt_iff.mp h))).symm
  case eq => exact (compare_eq_iff_eq.mpr (codePoints_injective (Std.LawfulEqCmp.eq_of_compare h))).symm
  case gt =>
    have hs : (codePoints t).compareLex compare (codePoints s) = .lt := Std.OrientedCmp.lt_of_gt h
    exact (compare_gt_iff_gt.mpr (String.lt_iff_toList_lt.mpr (compareLex_toNat_eq_lt_iff.mp hs))).symm

theorem lt_append {s t : String} (ht : t ≠ "") : s < s ++ t := by
  obtain ⟨c, cs, hc⟩ := List.exists_cons_of_ne_nil (mt String.toList_eq_nil_iff.mp ht)
  rw [String.lt_iff_toList_lt, String.toList_append, hc]
  induction s.toList
  case nil          => exact List.nil_lt_cons c cs
  case cons d ds ih => exact List.cons_lt_cons_iff.mpr (.inr ⟨rfl, ih⟩)

theorem isInfix_codePoints_iff {s t : String} : codePoints t <:+: codePoints s ↔ t.toList <:+: s.toList := by
  rw [codePoints, codePoints, List.infix_map_iff]
  constructor
  case mp =>
    rintro ⟨cs, hc, hm⟩
    exact List.map_injective_iff.mpr (fun _ _ => Char.toNat_inj.mp) hm ▸ hc
  case mpr => exact fun h => ⟨_, h, rfl⟩

theorem exists_of_bytes_infix {s t : String} {before after : List UInt8} (ht : t ≠ "")
    (h : bytes s = before ++ bytes t ++ after) :
    ∃ front back, s = front ++ t ++ back ∧ bytes front = before ∧ bytes back = after := by
  rw [bytes_eq_encode, bytes_eq_encode] at h
  obtain ⟨front, back, hs, hf, hb⟩ := exists_of_encode_infix (mt String.toList_eq_nil_iff.mp ht) h
  refine ⟨String.ofList front, String.ofList back, String.toList_inj.mp ?_, ?_, ?_⟩
  · simp [hs]
  · simp [bytes_eq_encode, hf]
  · simp [bytes_eq_encode, hb]

theorem isInfix_bytes_iff {s t : String} : bytes t <:+: bytes s ↔ t.toList <:+: s.toList := by
  rw [bytes_eq_encode, bytes_eq_encode, isInfix_encode_iff]

namespace Test

theorem holds_contains_iff {s t : String} : (contains t).holds (.text s) ↔ t.toList <:+: s.toList := by
  rw [holds, occursIn_eq_decide, decide_eq_true_iff]

-- An occurrence takes up whole characters. Only the empty text, which has no bytes, may be seen within one.
theorem same_in_bytes :
    (∀ s t : String,
      (Value.text s).compare (.text t) = some ((bytes s).compareLex compare (bytes t)) ∧
      (Value.text s).compare (.text t) = some ((codePoints s).compareLex compare (codePoints t)) ∧
      ((Value.text s).compare (.text t) = some .eq ↔ s = t)) ∧
    IsLinearOrder String (fun s t => Relation.lessOrEqual.holds ((Value.text s).compare (.text t))) ∧
    (∀ s t, t ≠ "" → (Value.text s).compare (.text (s ++ t)) = some .lt) ∧
    (∀ s t,
      ((contains t).holds (.text s) ↔ bytes t <:+: bytes s) ∧
      ((contains t).holds (.text s) ↔ codePoints t <:+: codePoints s)) ∧
    ∀ s t before after, t ≠ "" → bytes s = before ++ bytes t ++ after →
      ∃ front back, s = front ++ t ++ back ∧ bytes front = before ∧ bytes back = after := by
  have hc (s t : String) : (Value.text s).compare (.text t) = some (compare s t) := rfl
  refine ⟨fun s t => ⟨?bytes, ?codePoints, ?equal⟩, ?order, fun s t ht => ?shorter,
    fun s t => ⟨?inBytes, ?inCodePoints⟩, fun s t _ _ => exists_of_bytes_infix⟩
  case bytes      => rw [hc, Bytes.compareLex_bytes, compareLex_codePoints]
  case codePoints => rw [hc, compareLex_codePoints]
  case equal      => exact (Option.some_inj (a := compare s t)).trans compare_eq_iff_eq
  case order =>
    have hl (s t : String) : Relation.lessOrEqual.holds ((Value.text s).compare (.text t)) ↔ s ≤ t :=
      Relation.lessOrEqual.holds_compare_iff
    simp only [hl]
    infer_instance
  case shorter      => exact congrArg some (compare_lt_iff_lt.mpr (lt_append ht))
  case inBytes      => rw [holds_contains_iff, isInfix_bytes_iff]
  case inCodePoints => rw [holds_contains_iff, isInfix_codePoints_iff]

-- Characters of two, three and four bytes, and neighbours that units of sixteen bits would have the other way round.
theorem same_in_bytes_euro :
    (Value.text "\uffff").compare (.text "𐀀") = some .lt ∧
    (Value.text "é").compare (.text "é€") = some .lt ∧
    ∃ front back, "é€𝄞" = front ++ "€" ++ back ∧
      bytes front = [0xc3, 0xa9] ∧ bytes back = [0xf0, 0x9d, 0x84, 0x9e] := by
  have ⟨hc, _, hs, _, ho⟩ := same_in_bytes
  exact ⟨(hc _ _).left.trans (by decide +kernel), hs "é" "€" (by decide), ho _ _ _ _ (by decide) (by decide +kernel)⟩

end Test
end RecordFilter
