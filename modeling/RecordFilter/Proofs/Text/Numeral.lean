import RecordFilter.Proofs.Text.Blank
import RecordFilter.Text.Numeral

namespace RecordFilter

-- Powers of naturals are those of the core library, whatever else is imported.
attribute [local instance (2000)] instPowNat

namespace Numeral

-- A digit counts as many times a power of ten as there are digits after it.
def placeValue : List Char → Nat
  | []      => 0
  | c :: cs => (c.toNat - '0'.toNat) * 10 ^ cs.length + placeValue cs

def IsNatural (cs : List Char) : Prop :=
  cs ≠ [] ∧ ∀ c ∈ cs, c.isDigit

-- What may stand in front of the digits, and whether it makes the number negative.
inductive IsSign : List Char → Bool → Prop
  | none  : IsSign [] false
  | plus  : IsSign ['+'] false
  | minus : IsSign ['-'] true

-- A text and the integer that it denotes.
inductive Denotes : List Char → Int → Prop
  | intro {sign digits : List Char} {negative : Bool} (hs : IsSign sign negative) (hd : IsNatural digits) :
    Denotes (sign ++ digits) (signed negative (placeValue digits))

variable {cs sign : List Char} {c : Char} {n : Int} {negative : Bool}

theorem ofDigitChars_eq_placeValue (cs : List Char) : Nat.ofDigitChars 10 cs 0 = placeValue cs := by
  induction cs
  case nil => rfl
  case cons c cs ih =>
    rw [Nat.ofDigitChars_cons, Nat.ofDigitChars_eq_ofDigitChars_zero, ih, placeValue, Nat.mul_zero, Nat.zero_add,
      Nat.mul_comm]

theorem toNat?_eq_some_iff {n : Nat} : toNat? cs = some n ↔ IsNatural cs ∧ placeValue cs = n := by
  simp [toNat?, IsNatural, ofDigitChars_eq_placeValue]

-- Without digits there is no number that zeros could be added to.
theorem toNat?_append_zeros (k : Nat) (h : cs ≠ []) : toNat? (List.replicate k '0' ++ cs) = toNat? cs := by
  simp [toNat?, h, Nat.ofDigitChars_append]

theorem ne_sign_of_isDigit (h : c.isDigit) : c ≠ '-' ∧ c ≠ '+' := by
  constructor <;> rintro rfl <;> simp at h

theorem splitSign_of_isSign (hs : IsSign sign negative) (h : ∀ c ∈ cs.head?, c ≠ '-' ∧ c ≠ '+') :
    splitSign (sign ++ cs) = (negative, cs) := by
  cases hs
  case none =>
    cases cs
    case nil       => rfl
    case cons c cs => simp [splitSign, h c rfl]
  case plus  => rfl
  case minus => rfl

theorem exists_isSign (cs : List Char) : ∃ sign, IsSign sign (splitSign cs).1 ∧ cs = sign ++ (splitSign cs).2 := by
  unfold splitSign
  split
  case h_1 => exact ⟨_, .minus, rfl⟩
  case h_2 => exact ⟨_, .plus, rfl⟩
  case h_3 => exact ⟨_, .none, rfl⟩

theorem IsNatural.head_ne_sign (h : IsNatural cs) : ∀ c ∈ cs.head?, c ≠ '-' ∧ c ≠ '+' :=
  fun c hc => ne_sign_of_isDigit (h.right c (List.mem_of_mem_head? hc))

theorem toInt?_eq_some_iff : toInt? cs = some n ↔ Denotes cs n := by
  constructor
  case mp =>
    intro h
    obtain ⟨m, hm, rfl⟩ := Option.map_eq_some_iff.mp h
    obtain ⟨hd, rfl⟩ := toNat?_eq_some_iff.mp hm
    obtain ⟨sign, hs, he⟩ := exists_isSign cs
    have hn := Denotes.intro hs hd
    rwa [← he] at hn
  case mpr =>
    rintro ⟨hs, hd⟩
    rw [toInt?, splitSign_of_isSign hs hd.head_ne_sign, toNat?_eq_some_iff.mpr ⟨hd, rfl⟩]
    rfl

theorem IsSign.not_isBlank (h : IsSign sign negative) : ∀ c ∈ sign, ¬ isBlank c := by
  cases h
  case none         => exact nofun
  case plus | minus => exact List.forall_mem_singleton.mpr (by decide)

theorem Denotes.not_isBlank (h : Denotes cs n) : ∀ c ∈ cs, ¬ isBlank c := by
  obtain ⟨hs, hd⟩ := h
  intro c hc
  obtain hc | hc := List.mem_append.mp hc
  case inl => exact hs.not_isBlank c hc
  case inr => exact not_isBlank_of_isDigit (hd.right c hc)

-- Two texts that differ by what makes no difference to a number: blanks at the ends, zeros in front of the digits, or
-- a plus in front of a number without a sign.
inductive Respelled : List Char → List Char → Prop
  | blanks {cs ds : List Char} (h : Padded cs ds) : Respelled cs ds
  | zeros {before sign cs : List Char} {c : Char} {negative : Bool} (k : Nat) (hb : ∀ b ∈ before, isBlank b)
      (hs : IsSign sign negative) (hc : c.isDigit) :
    Respelled (before ++ (sign ++ c :: cs)) (before ++ (sign ++ (List.replicate k '0' ++ c :: cs)))
  | plus {before cs : List Char} {c : Char} (hb : ∀ b ∈ before, isBlank b) (hn : ¬ isBlank c)
      (hc : c ≠ '-' ∧ c ≠ '+') : Respelled (before ++ c :: cs) (before ++ '+' :: c :: cs)

-- A reading that looks at the sign first is not misled if zeros in front of the digits do not mislead what follows.
theorem Respelled.read_eq {α : Type} {cs ds : List Char} (h : Respelled cs ds) (read : Bool → List Char → α)
    (hz : ∀ negative k c cs, c.isDigit → read negative (List.replicate k '0' ++ c :: cs) = read negative (c :: cs)) :
    read (splitSign (trim ds)).1 (splitSign (trim ds)).2 = read (splitSign (trim cs)).1 (splitSign (trim cs)).2 := by
  cases h
  case blanks h => rw [trim_of_padded h]
  case zeros before sign cs c negative k hb hs hc =>
    have hn := not_isBlank_of_isDigit hc
    have hf : ∀ d ∈ sign ++ List.replicate k '0', ¬ isBlank d := by
      intro d hd
      obtain hd | hd := List.mem_append.mp hd
      case inl => exact hs.not_isBlank d hd
      case inr => rw [List.eq_of_mem_replicate hd]; decide
    have hh : ∀ d ∈ (c :: cs.rdropWhile isBlank).head?, d ≠ '-' ∧ d ≠ '+' := by simpa using ne_sign_of_isDigit hc
    have hk : ∀ d ∈ (List.replicate k '0' ++ c :: cs.rdropWhile isBlank).head?, d ≠ '-' ∧ d ≠ '+' := by
      cases k
      case zero   => exact hh
      case succ k => simp [List.replicate_succ]
    rw [trim_append_of_isBlank hb, trim_append_of_isBlank hb, ← List.append_assoc sign, trim_append_cons hf hn,
      trim_append_cons hs.not_isBlank hn, List.append_assoc, splitSign_of_isSign hs hk,
      splitSign_of_isSign hs hh, hz _ _ _ _ hc]
  case plus before cs c hb hn hc =>
    have hu : ∀ d ∈ (c :: cs.rdropWhile isBlank).head?, d ≠ '-' ∧ d ≠ '+' := by simpa using hc
    have hp : trim ('+' :: c :: cs) = ['+'] ++ c :: cs.rdropWhile isBlank :=
      trim_append_cons IsSign.plus.not_isBlank hn
    have he : trim (c :: cs) = [] ++ c :: cs.rdropWhile isBlank := trim_append_cons IsSign.none.not_isBlank hn
    rw [trim_append_of_isBlank hb, trim_append_of_isBlank hb, hp, he, splitSign_of_isSign .plus hu,
      splitSign_of_isSign .none hu]

theorem toInt?_of_respelled {cs ds : List Char} (h : Respelled cs ds) : toInt? (trim ds) = toInt? (trim cs) :=
  h.read_eq (fun negative cs => (toNat? cs).map (signed negative)) fun negative k c cs _ => by
    rw [toNat?_append_zeros k (List.cons_ne_nil c cs)]

end Numeral
end RecordFilter
