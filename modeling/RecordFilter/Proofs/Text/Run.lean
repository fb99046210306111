import Mathlib.Data.List.TakeWhile
import RecordFilter.Text.Blank

namespace RecordFilter

variable {cs rest : List Char}

theorem takeWhile_append_of_stop {p : Char → Bool} (h : cs.all p) (hr : ∀ c ∈ rest.head?, ¬ p c) :
    (cs ++ rest).takeWhile p = cs ∧ (cs ++ rest).dropWhile p = rest := by
  have h := List.all_eq_true.mp h
  rw [List.takeWhile_append_of_pos h, List.dropWhile_append_of_pos h]
  cases rest
  case nil => simp
  case cons c rest =>
    have : ¬ p c := hr c rfl
    simp [this]

theorem takeWhile_of_all {p : Char → Bool} (h : cs.all p) : cs.takeWhile p = cs ∧ cs.dropWhile p = [] := by
  have hs : ∀ c ∈ ([] : List Char).head?, ¬ p c := nofun
  simpa using takeWhile_append_of_stop h hs

theorem not_isBlank_of_isDigit {c : Char} (h : c.isDigit) : ¬ isBlank c := by
  have hd : 48 ≤ c.toNat ∧ c.toNat ≤ 57 := Char.isDigit_iff_toNat.mp h
  simp only [isBlank, Ranges.contains, Blank.table, List.any_cons, List.any_nil, Bool.or_false, Bool.or_eq_true,
    Bool.and_eq_true, decide_eq_true_eq, not_or, not_and]
  omega

theorem dropWhile_isBlank (h : ∀ c ∈ cs, ¬ isBlank c) : cs.dropWhile isBlank = cs := by
  rw [List.dropWhile_eq_self_iff]
  exact fun hl => h _ (List.getElem_mem hl)

theorem trim_of_not_isBlank (h : ∀ c ∈ cs, ¬ isBlank c) : trim cs = cs := by
  have hr : ∀ c ∈ cs.reverse, ¬ isBlank c := fun c hc => h c (List.mem_reverse.mp hc)
  rw [trim, dropWhile_isBlank h, dropWhile_isBlank hr, List.reverse_reverse]

end RecordFilter
