import Mathlib.Data.Nat.Notation
import RecordFilter.Proofs.Text.Blank
import RecordFilter.Text.LowerCase

namespace RecordFilter

variable {c : Char} {cs word : List Char}

@[elab_as_elim]
theorem forall_ascii {p : Char → Prop} (c : Char) (hc : c.toNat < 128) (h : ∀ n < 128, p (Char.ofNat n)) : p c :=
  Char.ofNat_toNat c ▸ h c.toNat hc

theorem toLower_of_not_ascii (h : 128 ≤ c.toNat) : c.toLower = c := by
  refine dif_neg fun ⟨_, hz⟩ => ?_
  have hz : c.toNat ≤ 'Z'.toNat := UInt32.le_iff_toNat_le.mp hz
  exact absurd (h.trans hz) (by decide)

theorem isBlank_toLower (c : Char) : isBlank c.toLower = isBlank c := by
  by_cases h : c.toNat < 128
  case pos => exact forall_ascii c h (by decide +kernel)
  case neg => rw [toLower_of_not_ascii (Nat.le_of_not_lt h)]

theorem trim_map_toLower (cs : List Char) : trim (cs.map Char.toLower) = (trim cs).map Char.toLower := by
  have hb : isBlank ∘ Char.toLower = isBlank := funext isBlank_toLower
  simp only [trim, List.dropWhile_map, ← List.map_reverse, hb]

namespace SmallLetter

-- A run whose small letters are characters beyond ASCII.
def Run.IsForeign (r : Run) : Prop :=
  128 ≤ r.first + r.shift ∧ (r.last + r.shift < 0xD800 ∨ 0xDFFF < r.first + r.shift ∧ r.last + r.shift < 0x110000)

instance (r : Run) : Decidable r.IsForeign :=
  inferInstanceAs (Decidable (_ ∧ _))

theorem Run.IsForeign.le_toNat_apply {r : Run} (hr : r.IsForeign) (hc : r.contains c) : 128 ≤ (r.apply c).toNat := by
  simp only [Run.contains, Bool.and_eq_true, decide_eq_true_eq] at hc
  obtain ⟨hl, hv⟩ := hr
  have hn : (c.toNat + r.shift).toNat.isValidChar := by
    simp only [Nat.isValidChar]
    omega
  have ha : (r.apply c).toNat = (c.toNat + r.shift).toNat := by
    rw [Run.apply, Char.ofNat, dif_pos hn]
    rfl
  omega

theorem isForeign_of_mem : ∀ r ∈ runs, 128 ≤ r.last → r.IsForeign ∨ r.first = 0x212A ∧ r.last = 0x212A := by
  decide +kernel

theorem le_first_of_mem_tail : ∀ r ∈ runs.tail, 128 ≤ r.first := by
  decide +kernel

-- All runs but the first lie beyond ASCII.
theorem find?_runs_of_ascii (h : c.toNat < 128) :
    runs.find? (·.contains c) = [⟨0x41, 0x5A, 1, 32⟩].find? (·.contains c) := by
  have ht : runs.tail.find? (·.contains c) = none := by
    refine List.find?_eq_none.mpr fun r hr hc => ?_
    have hf := le_first_of_mem_tail r hr
    simp only [Run.contains, Bool.and_eq_true, decide_eq_true_eq] at hc
    omega
  have hs : runs = ⟨0x41, 0x5A, 1, 32⟩ :: runs.tail := rfl
  rw [hs, List.find?_cons, List.find?_cons, ht, List.find?_nil]

end SmallLetter

theorem smallLetter_of_ascii (h : c.toNat < 128) : smallLetter c = [c.toLower] := by
  rw [smallLetter, SmallLetter.find?_runs_of_ascii h]
  exact forall_ascii c h (by decide +kernel)

-- Of the letters beyond ASCII only the Kelvin sign has a small letter that is ASCII and nothing else, the k.
theorem smallLetter_of_not_ascii (h : 128 ≤ c.toNat) : ∃ d ∈ smallLetter c, 128 ≤ d.toNat ∨ c = '\u212a' ∧ d = 'k' := by
  by_cases hk : c = '\u212a'
  case pos =>
    subst hk
    exact ⟨'k', by decide +kernel, .inr ⟨rfl, rfl⟩⟩
  case neg =>
    unfold smallLetter
    split
    case isTrue => exact ⟨'\u0307', by simp, .inl (by decide)⟩
    case isFalse =>
      split
      case h_1 r hr =>
        have hc := List.find?_some hr
        have hb : r.first ≤ c.toNat ∧ c.toNat ≤ r.last := by simp_all [SmallLetter.Run.contains]
        refine ⟨_, List.mem_singleton_self _, .inl ?_⟩
        obtain hf | ⟨hf, hl⟩ := SmallLetter.isForeign_of_mem r (List.mem_of_find?_eq_some hr) (h.trans hb.right)
        case inl => exact hf.le_toNat_apply hc
        case inr =>
          have hn : c.toNat = 0x212A := by omega
          exact absurd (Char.ofNat_toNat c ▸ congrArg Char.ofNat hn) hk
      case h_2 => exact ⟨c, List.mem_singleton_self c, .inl h⟩

theorem le_toNat_smallSigma (before after : List Char) : 128 ≤ (smallSigma before after).toNat := by
  unfold smallSigma
  split <;> decide

-- The k has another spelling, the Kelvin sign. A word without it is spelled in ASCII letters only.
theorem lowerCase_eq_iff (hw : ∀ c ∈ word, c.toNat < 128 ∧ c ≠ 'k') :
    lowerCase cs = word ↔ cs.map Char.toLower = word := by
  suffices h : ∀ before, lowerCase.go before cs = word ↔ cs.map Char.toLower = word from h []
  induction cs generalizing word
  case nil => exact fun _ => .rfl
  case cons c cs ih =>
    intro before
    rw [lowerCase.go, List.map_cons]
    by_cases h : c.toNat < 128
    case pos =>
      have hs : c ≠ 'Σ' := by
        rintro rfl
        exact absurd h (by decide)
      rw [if_neg hs, smallLetter_of_ascii h, List.singleton_append]
      cases word
      case nil         => simp
      case cons d word => rw [List.cons.injEq, List.cons.injEq, ih fun c hc => hw c (List.mem_cons_of_mem d hc)]
    case neg =>
      -- Neither the small letters nor the letter itself belong to the word.
      have hl := Nat.le_of_not_lt h
      have ⟨d, hd, hn⟩ : ∃ d ∈ if c = 'Σ' then [smallSigma before cs] else smallLetter c, 128 ≤ d.toNat ∨ d = 'k' := by
        split
        case isTrue => exact ⟨_, List.mem_singleton_self _, .inl (le_toNat_smallSigma before cs)⟩
        case isFalse =>
          obtain ⟨d, hd, hn⟩ := smallLetter_of_not_ascii hl
          exact ⟨d, hd, hn.imp_right And.right⟩
      constructor <;> rintro rfl
      case mp =>
        obtain ⟨ha, hk⟩ := hw d (List.mem_append_left _ hd)
        exact absurd hn (not_or.mpr ⟨Nat.not_le_of_lt ha, hk⟩)
      case mpr =>
        obtain ⟨ha, -⟩ := hw c.toLower List.mem_cons_self
        exact absurd (toLower_of_not_ascii hl ▸ ha) h

end RecordFilter
