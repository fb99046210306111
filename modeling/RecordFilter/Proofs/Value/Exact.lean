import RecordFilter.Condition
import RecordFilter.Proofs.Binary.Exact
import RecordFilter.Proofs.Value.Cast

namespace RecordFilter

namespace Relation

-- A relation as mathematics has it.
def Between {α : Type} [LT α] [LE α] (r : Relation) (a b : α) : Prop :=
  match r with
  | equal          => a = b
  | notEqual       => a ≠ b
  | less           => a < b
  | lessOrEqual    => a ≤ b
  | greater        => b < a
  | greaterOrEqual => b ≤ a

theorem between_congr {α β : Type} [LinearOrder α] [LinearOrder β] {a b : α} {c d : β} (hl : a < b ↔ c < d)
    (hg : b < a ↔ d < c) (r : Relation) : r.Between a b ↔ r.Between c d := by
  cases r <;> simp only [Between, ne_eq, le_antisymm_iff, ← not_lt, hl, hg]

theorem holds_compare_iff {α : Type} [LinearOrder α] {a b : α} (r : Relation) :
    r.holds (some (compare a b)) ↔ r.Between a b := by
  cases r <;> simp [holds, Between, compare_lt_iff_lt, compare_gt_iff_gt, le_iff_lt_or_eq, @eq_comm _ b a]

theorem holds_none_iff (r : Relation) : r.holds none ↔ r = notEqual := by
  cases r <;> simp [holds]

-- What denotes no number is unequal to everything, and stands in no other relation.
def Exact (r : Relation) : Option Number → Option Number → Prop
  | some a, some b => r.Between a b
  | _,      _      => r = notEqual

end Relation

theorem Binary.holds_compare_iff {f : Format} (hf : 0 < f.exponents) (x y : Binary f) (r : Relation) :
    r.holds (x.compare y) ↔ r.Exact x.number? y.number? := by
  cases x <;> cases y
  case number.number a m b n =>
    have hl := Magnitude.number_lt_number_iff hf (m := m) (n := n) (a := a) (b := b)
    have hg := Magnitude.number_lt_number_iff hf (m := n) (n := m) (a := b) (b := a)
    exact (r.holds_compare_iff).trans (r.between_congr hl hg).symm
  all_goals exact r.holds_none_iff

def Kind.IsNumeric : Kind → Prop
  | integer _ | float => True
  | bool | text       => False

instance : DecidablePred Kind.IsNumeric
  | .integer _ | .float => isTrue trivial
  | .bool | .text       => isFalse id

theorem Width.Fits.widest {w : Width} {n : Int} (h : w.Fits n) : Width.w64.Fits n := by
  cases w <;> simp only [Width.Fits, Width.least, Width.greatest] at * <;> omega

namespace Width

variable {x : Double} {n : Int}

theorem number?_lowest : w64.lowest.number? = some (.ofRat w64.least) :=
  Binary.toInt?_eq_some_iff.mp (by decide +kernel)

theorem number?_highest : w64.highest.number? = some (.ofRat (w64.greatest + 1 : Int)) :=
  Binary.toInt?_eq_some_iff.mp (by decide +kernel)

theorem below_lowest_iff (h : x.toInt? = some n) : Relation.less.holds (x.compare w64.lowest) ↔ n < w64.least := by
  rw [Binary.holds_compare_iff (by decide), Binary.toInt?_eq_some_iff.mp h, number?_lowest]
  simp [Relation.Exact, Relation.Between]

theorem above_highest_iff (h : x.toInt? = some n) :
    Relation.greaterOrEqual.holds (x.compare w64.highest) ↔ w64.greatest < n := by
  rw [Binary.holds_compare_iff (by decide), Binary.toInt?_eq_some_iff.mp h, number?_highest]
  simp only [Relation.Exact, Relation.Between, ← not_lt, Number.ofRat_lt_ofRat, Int.cast_lt]
  omega

theorem outside_iff (h : x.toInt? = some n) :
    (Relation.less.holds (x.compare w64.lowest) ∨ Relation.greaterOrEqual.holds (x.compare w64.highest)) ↔
      ¬ w64.Fits n := by
  rw [below_lowest_iff h, above_highest_iff h, Fits, not_and_or, not_le, not_le]

theorem clamp_of_toInt? {w : Width} (h : x.toInt? = some n) : w.clamp x = max w.least (min w.greatest n) :=
  Binary.clamp_of_toInt? h ..

theorem clamp_of_fits {w : Width} (h : x.toInt? = some n) (hn : w.Fits n) : w.clamp x = n := by
  rw [clamp_of_toInt? h, min_eq_right hn.right, max_eq_right hn.left]

theorem isFinite_ofInt (h : w64.Fits n) : (Binary.ofInt n : Double).IsFinite := by
  have hn : n.natAbs < 2 ^ 64 := by
    obtain ⟨hl, hg⟩ := h
    simp only [least, greatest] at hl hg
    omega
  exact Binary.isFinite_ofInt hn (by decide)

-- The guard and the way back together find out whether rounding made a difference.
theorem toInt?_ofInt_iff (h : w64.Fits n) :
    (Binary.ofInt n : Double).toInt? = some n ↔
      ¬ Relation.greaterOrEqual.holds ((Binary.ofInt n : Double).compare w64.highest) ∧
        w64.clamp (Binary.ofInt n) = n := by
  have hw : (Binary.ofInt n : Double).IsWhole := Binary.isWhole_ofInt (by decide) (isFinite_ofInt h)
  obtain ⟨i, hi⟩ := Binary.isWhole_iff.mp hw
  rw [above_highest_iff hi, clamp_of_toInt? hi, hi, Option.some_inj]
  constructor
  case mp =>
    rintro rfl
    obtain ⟨hl, hg⟩ := h
    omega
  case mpr =>
    rintro ⟨hg, hc⟩
    by_cases hl : w64.least ≤ i
    case pos => omega
    case neg =>
      -- The least integer has a float, so it is not rounded down to a lesser one.
      have hn : n = w64.least := by omega
      have hx : (Binary.ofInt w64.least : Double).toInt? = some w64.least := by decide +kernel
      rw [hn, hx, Option.some_inj] at hi
      exact hi.symm.trans hn.symm

-- Without the guard the greatest integer would be taken for one that has a float.
example : w64.clamp (Binary.ofInt w64.greatest) = w64.greatest := by
  decide +kernel

end Width

namespace Value

-- A text denotes no number, even if it could be read as one.
def number? : Value → Option Number
  | integer _ n _ => some (.ofRat n)
  | float x       => x.number?
  | bool b        => some (.ofRat (if b then 1 else 0))
  | text _        => none

variable {k : Kind} {v w : Value}

-- An order of its own that `f` keeps makes no difference to integers that are compared as values.
theorem holds_compare_integer {α : Type} [LT α] [LE α] {f : α → Int} (he : ∀ {a b}, f a = f b ↔ a = b)
    (hl : ∀ {a b}, a < b ↔ f a < f b) (hle : ∀ {a b}, a ≤ b ↔ f a ≤ f b) {width : Width} (r : Relation) {a b : α}
    {ha : width.Fits (f a)} {hb : width.Fits (f b)} :
    r.holds ((integer width (f a) ha).compare (integer width (f b) hb)) ↔ r.Between a b := by
  simp only [compare, if_true, r.holds_compare_iff]
  cases r <;> simp only [Relation.Between, ne_eq, he, hl, hle]

theorem holds_compare_iff (hn : v.kind.IsNumeric) (hk : v.kind = w.kind) (r : Relation) :
    r.holds (v.compare w) ↔ r.Exact v.number? w.number? := by
  cases v <;> cases w <;> try cases hk
  case integer.integer width m hm n hn =>
    have hl {i j : Int} : i < j ↔ Number.ofRat i < Number.ofRat j := by simp
    exact (holds_compare_integer (f := id) Iff.rfl Iff.rfl Iff.rfl r).trans (r.between_congr hl hl)
  case float.float x y => exact Binary.holds_compare_iff (by decide) x y r
  all_goals cases hn

theorem ofInt_float {n : Int} (hn : Width.w64.Fits n) :
    ofInt n .float =
      if (Binary.ofInt n : Double).toInt? = some n then
        .ok (float (Binary.ofInt n))
      else
        .error (.lossyConversion (String.ofList (Numeral.ofInt n)) .float) := by
  have hi := Width.toInt?_ofInt_iff hn
  simp only [ofInt]
  split
  case isTrue h  => rw [if_neg fun ht => h.elim (hi.mp ht).left (· (hi.mp ht).right)]
  case isFalse h => rw [if_pos (hi.mpr ⟨fun hg => h (.inl hg), not_not.mp fun hc => h (.inr hc)⟩)]

section

variable {x : Double} {width : Width}

theorem ofDouble_of_toInt?_eq_none (hx : x.toInt? = none) :
    ofDouble x (.integer width) = .error (.lossyConversion (String.ofList x.toText) (.integer width)) := by
  have hw : ¬ x.IsWhole := by
    rw [Binary.isWhole_iff, hx]
    rintro ⟨_, h⟩
    cases h
  exact if_pos hw

theorem ofDouble_of_toInt? {n : Int} (hx : x.toInt? = some n) :
    ofDouble x (.integer width) =
      if Width.w64.Fits n then
        ofInt n (.integer width)
      else
        .error (.numericOverflow (String.ofList x.toText) (.integer width)) := by
  have hw : x.IsWhole := Binary.isWhole_iff.mpr ⟨n, hx⟩
  have ho := Width.outside_iff hx
  simp only [ofDouble]
  rw [if_neg (not_not.mpr hw)]
  by_cases hn : Width.w64.Fits n
  case pos => rw [if_neg fun h => ho.mp h hn, if_pos hn, Width.clamp_of_fits hx hn]
  case neg => rw [if_pos (ho.mpr hn), if_neg hn]

end

theorem number?_of_ofInt {n : Int} (hn : Width.w64.Fits n) (hk : k.IsNumeric) (h : ofInt n k = .ok w) :
    w.number? = some (.ofRat n) := by
  cases k
  case integer =>
    simp only [ofInt] at h
    split at h <;> cases h
    rfl
  case float =>
    rw [ofInt_float hn] at h
    split at h <;> cases h
    case isTrue hi => exact Binary.toInt?_eq_some_iff.mp hi
  all_goals cases hk

theorem number?_of_ofDouble {x : Double} (hk : k.IsNumeric) (h : ofDouble x k = .ok w) : w.number? = x.number? := by
  cases k
  case integer =>
    cases hx : x.toInt?
    case none =>
      rw [ofDouble_of_toInt?_eq_none hx] at h
      cases h
    case some n =>
      rw [ofDouble_of_toInt? hx] at h
      split at h
      case isTrue hn => rw [number?_of_ofInt hn hk h, Binary.toInt?_eq_some_iff.mp hx]
      case isFalse   => cases h
  case float => cases h; rfl
  all_goals cases hk

theorem number?_of_ofBool {b : Bool} (hk : k.IsNumeric) (h : ofBool b k = .ok w) :
    w.number? = some (.ofRat (if b then 1 else 0)) := by
  cases k <;> cases h
  case integer => cases b <;> simp [number?]
  case float =>
    have hb : (Binary.ofInt (if b then 1 else 0) : Double).toInt? = some (if b then 1 else 0) := by
      cases b <;> decide +kernel
    rw [number?, Binary.toInt?_eq_some_iff.mp hb]
    cases b <;> simp
  all_goals cases hk

theorem number?_of_castTo (hk : k.IsNumeric) (hv : v.kind ≠ .text) (h : v.castTo k = .ok w) :
    w.number? = v.number? := by
  cases v
  case integer width n hn => exact number?_of_ofInt hn.widest hk h
  case float   => exact number?_of_ofDouble hk h
  case bool    => exact number?_of_ofBool hk h
  case text    => exact absurd rfl hv

theorem exists_ofInt {n : Int} (hn : Width.w64.Fits n) (hw : w.kind.IsNumeric) (h : w.number? = some (.ofRat n)) :
    ∃ v, ofInt n w.kind = .ok v := by
  cases w
  case integer width m hm =>
    have he : m = n := by simpa [number?] using h
    exact ⟨_, dif_pos (he ▸ hm)⟩
  case float x =>
    rw [kind, ofInt_float hn, if_pos (Binary.toInt?_ofInt_iff.mpr ⟨x, h⟩)]
    exact ⟨_, rfl⟩
  all_goals cases hw

theorem exists_ofDouble {x : Double} (hw : w.kind.IsNumeric) (h : w.number? = x.number?) :
    ∃ v, ofDouble x w.kind = .ok v := by
  cases w
  case integer width n hn =>
    have hx := Binary.toInt?_eq_some_iff.mpr h.symm
    rw [kind, ofDouble_of_toInt? hx, if_pos hn.widest]
    exact exists_ofInt hn.widest hw rfl
  case float => exact ⟨_, rfl⟩
  all_goals cases hw

theorem castTo_isOk_iff (hk : k.IsNumeric) (hv : v.kind ≠ .text) :
    (∃ w, v.castTo k = .ok w) ↔ ∃ w : Value, w.kind = k ∧ w.number? = v.number? := by
  constructor
  case mp => exact fun ⟨w, h⟩ => ⟨w, kind_of_castTo h, number?_of_castTo hk hv h⟩
  case mpr =>
    rintro ⟨w, rfl, h⟩
    cases v
    case integer width n hn => exact exists_ofInt hn.widest hk h
    case float   => exact exists_ofDouble hk h
    case bool    => cases hw : w.kind <;> exact ⟨_, rfl⟩
    case text    => exact absurd rfl hv

end Value
end RecordFilter
