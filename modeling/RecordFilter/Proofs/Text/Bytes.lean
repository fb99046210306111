import Mathlib.Data.List.Basic

namespace RecordFilter

open String (utf8EncodeChar)

def bytes (s : String) : List UInt8 :=
  s.toUTF8.data.toList

def codePoints (s : String) : List Nat :=
  s.toList.map Char.toNat

namespace Bytes

-- A byte after the first one, with the last six bits of a number.
def continuation (n : Nat) : UInt8 :=
  UInt8.ofNat (n % 64 + 128)

def continuations : Nat → Nat → List UInt8
  | 0,         _ => []
  | count + 1, n => continuations count (n / 64) ++ [continuation n]

-- What is left of a number for the first byte.
def leading : Nat → Nat → Nat
  | 0,         n => n
  | count + 1, n => leading count (n / 64)

-- The least first byte of a character that is so many bytes. Unless there is only one, as many bits are set at its
-- front.
def lowest : Nat → Nat
  | 0 | 1 => 0
  | 2     => 192
  | 3     => 224
  | 4     => 240
  | _     => 248

def first (c : Char) : Nat :=
  leading (c.utf8Size - 1) c.toNat + lowest c.utf8Size

theorem size_cases (c : Char) :
    c.utf8Size = 1 ∧ c.toNat < 128 ∨
    c.utf8Size = 2 ∧ 128 ≤ c.toNat ∧ c.toNat < 2048 ∨
    c.utf8Size = 3 ∧ 2048 ≤ c.toNat ∧ c.toNat < 65536 ∨
    c.utf8Size = 4 ∧ 65536 ≤ c.toNat ∧ c.toNat < 1114112 := by
  have hv := c.valid
  have h₁ := c.utf8Size_eq_one_iff
  have h₂ := c.utf8Size_eq_two_iff
  have h₃ := c.utf8Size_eq_three_iff
  have h₄ := c.utf8Size_eq_four_iff
  simp only [UInt32.isValidChar, Nat.isValidChar, UInt32.lt_iff_toNat_lt, UInt32.le_iff_toNat_le, UInt32.reduceToNat,
    Char.toNat_val] at hv h₁ h₂ h₃ h₄
  omega

theorem encodeChar_eq (c : Char) :
    utf8EncodeChar c = UInt8.ofNat (first c) :: continuations (c.utf8Size - 1) c.toNat := by
  have hv : c.val.toNat = c.toNat := rfl
  obtain ⟨hs, h⟩ | ⟨hs, hl, h⟩ | ⟨hs, hl, h⟩ | ⟨hs, hl, h⟩ := size_cases c
  all_goals
    simp only [utf8EncodeChar, first, hs, hv]
  case inl =>
    rw [if_pos (by omega)]
    simp [leading, lowest, continuations]
  case inr.inl =>
    rw [if_neg (by omega), if_pos (by omega), Nat.mod_eq_of_lt (b := 32) (by omega)]
    simp [leading, lowest, continuations, continuation]
  case inr.inr.inl =>
    rw [if_neg (by omega), if_neg (by omega), if_pos (by omega), Nat.mod_eq_of_lt (b := 16) (by omega)]
    simp [leading, lowest, continuations, continuation, Nat.div_div_eq_div_mul]
  case inr.inr.inr =>
    rw [if_neg (by omega), if_neg (by omega), if_neg (by omega), Nat.mod_eq_of_lt (b := 8) (by omega)]
    simp [leading, lowest, continuations, continuation, Nat.div_div_eq_div_mul]

section Order

variable {c d : Char} {m n : Nat}

theorem lowest_succ_le (h : m < n) (hn : n ≤ 4) : lowest (m + 1) ≤ lowest n := by
  have hl : ∀ n ≤ 4, ∀ m < n, lowest (m + 1) ≤ lowest n := by decide
  exact hl n hn m h

theorem lowest_lt (count : Nat) : lowest count < 256 := by
  unfold lowest
  split <;> decide

theorem lowest_le_first (c : Char) : lowest c.utf8Size ≤ first c :=
  Nat.le_add_left ..

theorem first_lt_lowest (c : Char) : first c < lowest (c.utf8Size + 1) := by
  obtain ⟨hs, h⟩ | ⟨hs, hl, h⟩ | ⟨hs, hl, h⟩ | ⟨hs, hl, h⟩ := size_cases c
  all_goals
    simp only [first, hs, Nat.reduceSub, leading, lowest]
    omega

theorem first_lt (c : Char) : first c < 256 :=
  Nat.lt_trans (first_lt_lowest c) (lowest_lt _)

theorem first_lt_first (h : c.utf8Size < d.utf8Size) : first c < first d :=
  calc first c < lowest (c.utf8Size + 1) := first_lt_lowest c
    _ ≤ lowest d.utf8Size                := lowest_succ_le h d.utf8Size_le_four
    _ ≤ first d                          := lowest_le_first d

theorem toNat_lt_toNat (h : c.utf8Size < d.utf8Size) : c.toNat < d.toNat := by
  have := size_cases c
  have := size_cases d
  omega

theorem compare_ofNat (hm : m < 256) (hn : n < 256) : compare (UInt8.ofNat m) (UInt8.ofNat n) = compare m n := by
  simp [compare, compareOfLessAndEq, UInt8.lt_iff_toNat_lt, ← UInt8.toNat_inj, Nat.mod_eq_of_lt hm,
    Nat.mod_eq_of_lt hn]

theorem compare_add_right (m n k : Nat) : compare (m + k) (n + k) = compare m n := by
  simp [Nat.compare_eq_ite_lt]

theorem compare_continuation (m n : Nat) : compare (continuation m) (continuation n) = compare (m % 64) (n % 64) := by
  rw [continuation, continuation, compare_ofNat (by omega) (by omega), compare_add_right]

-- The last six bits only matter between numbers that have the other bits in common.
theorem compare_div_then (m n : Nat) : (compare (m / 64) (n / 64)).then (compare (m % 64) (n % 64)) = compare m n := by
  obtain h | h | h := Nat.lt_trichotomy (m / 64) (n / 64)
  case inl =>
    have hl : m < n := by omega
    rw [Nat.compare_eq_lt.mpr h, Nat.compare_eq_lt.mpr hl, Ordering.lt_then]
  case inr.inl =>
    rw [Nat.compare_eq_eq.mpr h, Ordering.eq_then, ← compare_add_right _ _ (64 * (m / 64)), Nat.mod_add_div, h,
      Nat.mod_add_div]
  case inr.inr =>
    have hg : n < m := by omega
    rw [Nat.compare_eq_gt.mpr h, Nat.compare_eq_gt.mpr hg, Ordering.gt_then]

theorem compareLex_continuations (count m n : Nat) (xs ys : List UInt8) :
    (compare (leading count m) (leading count n)).then
      ((continuations count m ++ xs).compareLex compare (continuations count n ++ ys)) =
    (compare m n).then (xs.compareLex compare ys) := by
  induction count generalizing m n xs ys
  case zero => rfl
  case succ count ih =>
    simp only [continuations, leading, List.append_assoc, List.singleton_append]
    rw [ih, List.compareLex_cons_cons, compare_continuation, ← Ordering.then_assoc, compare_div_then]

-- The first bytes decide between characters of different size, and are in the order of the sizes.
theorem compareLex_encodeChar (c d : Char) (xs ys : List UInt8) :
    (utf8EncodeChar c ++ xs).compareLex compare (utf8EncodeChar d ++ ys) =
      (compare c.toNat d.toNat).then (xs.compareLex compare ys) := by
  rw [encodeChar_eq, encodeChar_eq, List.cons_append, List.cons_append, List.compareLex_cons_cons,
    compare_ofNat (first_lt c) (first_lt d)]
  obtain h | h | h := Nat.lt_trichotomy c.utf8Size d.utf8Size
  case inl     => rw [Nat.compare_eq_lt.mpr (first_lt_first h), Nat.compare_eq_lt.mpr (toNat_lt_toNat h)]; rfl
  case inr.inl => rw [first, first, h, compare_add_right, compareLex_continuations]
  case inr.inr => rw [Nat.compare_eq_gt.mpr (first_lt_first h), Nat.compare_eq_gt.mpr (toNat_lt_toNat h)]; rfl

-- A character's bytes tell where they end.
theorem encodeChar_append_inj {xs ys : List UInt8} (h : utf8EncodeChar c ++ xs = utf8EncodeChar d ++ ys) :
    c = d ∧ xs = ys := by
  have hc : (utf8EncodeChar c ++ xs).compareLex compare (utf8EncodeChar d ++ ys) = .eq :=
    h ▸ Std.ReflCmp.compare_self
  rw [compareLex_encodeChar] at hc
  have ⟨hn, _⟩ := Ordering.then_eq_eq.mp hc
  obtain rfl := Char.toNat_inj.mp (Nat.compare_eq_eq.mp hn)
  exact ⟨rfl, List.append_cancel_left h⟩

end Order

def encode (cs : List Char) : List UInt8 :=
  cs.flatMap utf8EncodeChar

theorem bytes_eq_encode (s : String) : bytes s = encode s.toList := by
  obtain ⟨cs, rfl⟩ := s.exists_eq_ofList
  simp [bytes, encode, List.utf8Encode]

theorem encode_cons (c : Char) (cs : List Char) : encode (c :: cs) = utf8EncodeChar c ++ encode cs :=
  List.flatMap_cons

theorem encode_append (cs ds : List Char) : encode (cs ++ ds) = encode cs ++ encode ds :=
  List.flatMap_append

theorem encode_cons_ne_nil (c : Char) (cs : List Char) : encode (c :: cs) ≠ [] := by
  simp [encode_cons, encodeChar_eq]

theorem compareLex_encode (cs ds : List Char) :
    (encode cs).compareLex compare (encode ds) = (cs.map Char.toNat).compareLex compare (ds.map Char.toNat) := by
  induction cs generalizing ds
  case nil =>
    cases ds
    case nil  => rfl
    case cons => simp [encode, encodeChar_eq, List.compareLex_nil_cons]
  case cons c cs ih =>
    cases ds
    case nil       => simp [encode, encodeChar_eq, List.compareLex_cons_nil]
    case cons d ds =>
      rw [encode_cons, encode_cons, compareLex_encodeChar, ih]
      exact List.compareLex_cons_cons.symm

theorem compareLex_bytes (s t : String) :
    (bytes s).compareLex compare (bytes t) = (codePoints s).compareLex compare (codePoints t) := by
  rw [bytes_eq_encode, bytes_eq_encode, compareLex_encode]
  rfl

section Occurrence

variable {c d : Char} {cs ds : List Char} {x y : UInt8} {xs before after rest : List UInt8}

theorem isUTF8FirstByte_head (h : utf8EncodeChar c = x :: xs) : x.IsUTF8FirstByte := by
  have hf := @UInt8.isUTF8FirstByte_getElem_utf8EncodeChar c 0 (by simp [h])
  simpa [h] using hf

theorem not_isUTF8FirstByte_of_mem_tail (h : utf8EncodeChar c = x :: xs) (hy : y ∈ xs) : ¬ y.IsUTF8FirstByte := by
  obtain ⟨i, hi, rfl⟩ := List.mem_iff_getElem.mp hy
  have hf := @UInt8.isUTF8FirstByte_getElem_utf8EncodeChar c (i + 1) (by simpa [h] using hi)
  simpa [h] using hf

theorem exists_of_encode_append (h : encode ds = encode cs ++ after) :
    ∃ back, ds = cs ++ back ∧ encode back = after := by
  induction cs generalizing ds
  case nil => exact ⟨ds, rfl, h⟩
  case cons c cs ih =>
    cases ds
    case nil => exact absurd (List.append_eq_nil_iff.mp h.symm).left (encode_cons_ne_nil c cs)
    case cons d ds =>
      rw [encode_cons, encode_cons, List.append_assoc] at h
      obtain ⟨rfl, ht⟩ := encodeChar_append_inj h
      obtain ⟨back, rfl, hb⟩ := ih ht
      exact ⟨back, rfl, hb⟩

-- What occurs behind the first byte of a character occurs behind all of them, as it begins with a first byte.
theorem exists_of_encodeChar_append (hn : cs ≠ [])
    (h : utf8EncodeChar d ++ rest = x :: before ++ (encode cs ++ after)) :
    ∃ mid, x :: before = utf8EncodeChar d ++ mid ∧ rest = mid ++ encode cs ++ after := by
  obtain ⟨mid, hb, hr⟩ | ⟨mid, hd, hr⟩ := List.append_eq_append_iff.mp h
  case inl => exact ⟨mid, hb, by rw [hr, List.append_assoc]⟩
  case inr =>
    cases mid
    case nil => exact ⟨[], by simpa using hd.symm, by simpa using hr.symm⟩
    case cons y mid =>
      obtain ⟨c, cs, rfl⟩ := List.exists_cons_of_ne_nil hn
      have hy : ¬ y.IsUTF8FirstByte := not_isUTF8FirstByte_of_mem_tail hd (by simp)
      rw [encode_cons, encodeChar_eq] at hr
      obtain ⟨rfl, -⟩ := List.cons.inj hr
      exact absurd (isUTF8FirstByte_head (encodeChar_eq c)) hy

theorem exists_of_encode_infix (hn : cs ≠ []) (h : encode ds = before ++ encode cs ++ after) :
    ∃ front back, ds = front ++ cs ++ back ∧ encode front = before ∧ encode back = after := by
  induction ds generalizing before
  case nil =>
    obtain ⟨c, cs, rfl⟩ := List.exists_cons_of_ne_nil hn
    have hc := (List.append_eq_nil_iff.mp (List.append_eq_nil_iff.mp h.symm).left).right
    exact absurd hc (encode_cons_ne_nil c cs)
  case cons d ds ih =>
    cases before
    case nil =>
      obtain ⟨back, hb, ha⟩ := exists_of_encode_append h
      exact ⟨[], back, hb, rfl, ha⟩
    case cons x before =>
      rw [encode_cons, List.append_assoc] at h
      obtain ⟨mid, hb, hr⟩ := exists_of_encodeChar_append hn h
      obtain ⟨front, back, rfl, rfl, ha⟩ := ih hr
      exact ⟨d :: front, back, rfl, hb.symm, ha⟩

theorem isInfix_encode_iff : encode cs <:+: encode ds ↔ cs <:+: ds where
  mp := by
    rintro ⟨before, after, h⟩
    by_cases hn : cs = []
    case pos => exact hn ▸ List.nil_infix
    case neg =>
      obtain ⟨front, back, rfl, -⟩ := exists_of_encode_infix hn h.symm
      exact ⟨front, back, rfl⟩
  mpr := by
    rintro ⟨front, back, rfl⟩
    exact ⟨encode front, encode back, by simp only [encode_append]⟩

end Occurrence

end Bytes
end RecordFilter
