import RecordFilter.Proofs.Value.Exact

namespace RecordFilter

namespace Relation

-- What stands in the relation exactly when the other does not, as long as there is an order.
def complement : Relation → Relation
  | equal          => notEqual
  | notEqual       => equal
  | less           => greaterOrEqual
  | lessOrEqual    => greater
  | greater        => lessOrEqual
  | greaterOrEqual => less

theorem isOrdering_complement_iff {r : Relation} : r.complement.IsOrdering ↔ r.IsOrdering := by
  cases r <;> decide

-- Values without an order are unequal and not equal, but neither less nor at least as great.
theorem holds_complement {r : Relation} {o : Option Ordering} (h : r.IsOrdering → ∃ c, o = some c) :
    r.complement.holds o = !r.holds o := by
  cases o
  case none =>
    cases r
    case equal | notEqual => rfl
    all_goals exact nomatch h (by decide)
  case some c => cases r <;> cases c <;> rfl

end Relation

namespace Binary

variable {f : Format} {x y : Binary f}

theorem place_eq_none_iff : x.place = none ↔ x.IsNaN := by
  cases x <;> simp [place, IsNaN]

theorem compare_eq_none_iff : x.compare y = none ↔ x.IsNaN ∨ y.IsNaN := by
  rw [← place_eq_none_iff, ← place_eq_none_iff, compare]
  cases x.place <;> cases y.place <;> simp

theorem place_zero (negative : Bool) : (number negative .zero : Binary f).place = some 0 := by
  cases negative <;> rfl

theorem compare_eq_some_eq_iff : x.compare y = some .eq ↔ x.place = y.place ∧ ¬ x.IsNaN := by
  rw [← place_eq_none_iff, compare]
  cases x.place <;> cases y.place <;> simp

-- Numbers of opposite signs only meet at zero.
theorem place_number_eq_iff {a b : Bool} {m n : Magnitude f} :
    (number a m).place = (number b n).place ↔ (a = b ∧ m = n) ∨ (b = !a) ∧ m = .zero ∧ n = .zero := by
  simp only [Magnitude.ext_iff, Magnitude.zero, place, Option.some.injEq]
  cases a <;> cases b <;> simp only [Bool.not_true, Bool.not_false, reduceCtorEq, true_and, false_and, or_false,
    false_or, if_true, if_false] <;> omega

end Binary

namespace Value

variable {v w : Value}

def IsNaN : Value → Prop
  | float x => x.IsNaN
  | _       => False

instance : DecidablePred IsNaN
  | float x => inferInstanceAs (Decidable x.IsNaN)
  | integer .. | bool _ | text _ => isFalse id

-- Whether one value is the zero and the other its opposite.
def OppositeZeros (v w : Value) : Prop :=
  ∃ negative, v = float (.number negative .zero) ∧ w = float (.number (!negative) .zero)

theorem oppositeZeros_number_iff {a b : Bool} {m n : Binary.Magnitude .binary64} :
    (float (.number a m)).OppositeZeros (float (.number b n)) ↔ (b = !a) ∧ m = .zero ∧ n = .zero where
  mp := by
    rintro ⟨negative, hv, hw⟩
    cases hv
    cases hw
    exact ⟨rfl, rfl, rfl⟩
  mpr := by
    rintro ⟨rfl, rfl, rfl⟩
    exact ⟨a, rfl, rfl⟩

theorem compare_eq_none_iff (hk : v.kind = w.kind) : v.compare w = none ↔ v.IsNaN ∨ w.IsNaN := by
  cases v <;> cases w <;> try cases hk
  case float.float => exact Binary.compare_eq_none_iff
  all_goals simp [compare, IsNaN]

theorem exists_compare (hk : v.kind = w.kind) (hv : ¬ v.IsNaN) (hw : ¬ w.IsNaN) : ∃ c, v.compare w = some c :=
  Option.ne_none_iff_exists'.mp (mt (compare_eq_none_iff hk).mp (not_or.mpr ⟨hv, hw⟩))

theorem compareBool_eq_eq_iff {a b : Bool} : compareBool a b = .eq ↔ a = b := by
  cases a <;> cases b <;> decide

theorem equals_float_iff {x y : Double} : (float x).equals (float y) ↔ x.place = y.place ∧ ¬ x.IsNaN := by
  rw [equals, beq_iff_eq, compare, Binary.compare_eq_some_eq_iff]

theorem equals_iff : v.equals w ↔ (v = w ∧ ¬ v.IsNaN) ∨ v.OppositeZeros w := by
  cases v <;> cases w
  case float.float x y =>
    rw [equals_float_iff]
    cases x <;> cases y
    case number.number a m b n =>
      simp [Binary.place_number_eq_iff, oppositeZeros_number_iff, IsNaN, Binary.IsNaN]
    all_goals simp [Binary.place, Binary.IsNaN, IsNaN, OppositeZeros]
  all_goals simp [equals, compare, OppositeZeros, IsNaN, compareBool_eq_eq_iff]

theorem compare_eq_of_oppositeZeros (h : v.OppositeZeros w) (u : Value) : u.compare v = u.compare w := by
  obtain ⟨negative, rfl, rfl⟩ := h
  cases u
  case float x => simp only [compare, Binary.compare, Binary.place_zero]
  all_goals rfl

-- A cast to any other kind than that of texts loses the sign of zero, or keeps the value as it is.
theorem castTo_of_oppositeZeros {k : Kind} (hk : k ≠ .text) (h : v.OppositeZeros w) :
    v.castTo k = w.castTo k ∨ v.castTo k = .ok v ∧ w.castTo k = .ok w := by
  obtain ⟨negative, rfl, rfl⟩ := h
  cases k
  case integer width =>
    have hi (negative : Bool) : (.number negative .zero : Double).toInt? = some 0 := by
      cases negative <;> decide +kernel
    have hw : Width.w64.Fits 0 := by decide
    exact .inl (by simp only [castTo, ofDouble_of_toInt? (hi _), if_pos hw])
  case float => exact .inr ⟨rfl, rfl⟩
  case bool => exact .inl (by simp only [castTo, ofDouble, Binary.place_zero])
  case text => exact absurd rfl hk

end Value
end RecordFilter
