namespace RecordFilter
namespace Numeral

def ofInt (n : Int) : List Char :=
  if n < 0 then '-' :: Nat.toDigits 10 n.natAbs else Nat.toDigits 10 n.natAbs

-- Whether the text is negative, and what follows its sign.
def splitSign : List Char → Bool × List Char
  | '-' :: cs => (true, cs)
  | '+' :: cs => (false, cs)
  | cs        => (false, cs)

def toNat? (cs : List Char) : Option Nat :=
  if cs ≠ [] ∧ cs.all Char.isDigit then some (Nat.ofDigitChars 10 cs 0) else none

def signed (negative : Bool) (n : Nat) : Int :=
  if negative then -(n : Int) else n

def toInt? (cs : List Char) : Option Int :=
  (toNat? (splitSign cs).2).map (signed (splitSign cs).1)

-- Letters are the digits from ten on.
def digitValue (c : Char) : Nat :=
  if c.isDigit then c.toNat - 48 else c.toLower.toNat - 87

def valueIn (base : Nat) (digits : List Char) : Nat :=
  digits.foldl (fun n c => base * n + digitValue c) 0

theorem toNat?_toDigits (n : Nat) : toNat? (Nat.toDigits 10 n) = some n := by
  have h : (Nat.toDigits 10 n).all Char.isDigit := by
    simpa [List.all_eq_true] using fun c h => Nat.isDigit_of_mem_toDigits (by decide) (by decide) h
  simp [toNat?, h, Nat.toDigits_ne_nil, Nat.ofDigitChars_ten_toDigits]

theorem splitSign_of_unsigned {cs : List Char} (h : ∀ c ∈ cs, c ≠ '-' ∧ c ≠ '+') : splitSign cs = (false, cs) := by
  unfold splitSign
  split
  case h_1 => exact absurd rfl (h '-' List.mem_cons_self).left
  case h_2 => exact absurd rfl (h '+' List.mem_cons_self).right
  case h_3 => rfl

theorem splitSign_toDigits (n : Nat) : splitSign (Nat.toDigits 10 n) = (false, Nat.toDigits 10 n) := by
  apply splitSign_of_unsigned
  intro c hc
  have := Nat.isDigit_of_mem_toDigits (by decide) (by decide) hc
  constructor <;> rintro rfl <;> simp at this

theorem toInt?_ofInt (n : Int) : toInt? (ofInt n) = some n := by
  by_cases h : n < 0
  case pos =>
    have : signed true n.natAbs = n := by simp only [signed, if_true]; omega
    simp only [toInt?, ofInt, h, if_true, splitSign, toNat?_toDigits, Option.map_some, this]
  case neg =>
    have : signed false n.natAbs = n := by simp only [signed, Bool.false_eq_true, if_false]; omega
    simp only [toInt?, ofInt, h, if_false, splitSign_toDigits, toNat?_toDigits, Option.map_some, this]

end Numeral
end RecordFilter
