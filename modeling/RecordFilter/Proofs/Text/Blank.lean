import Mathlib.Data.List.DropRight
import RecordFilter.Proofs.Text.Run

namespace RecordFilter

-- Whether one text is the other with blanks in front of it and after it.
def Padded (cs padded : List Char) : Prop :=
  ∃ before after, padded = before ++ cs ++ after ∧ (∀ c ∈ before, isBlank c) ∧ ∀ c ∈ after, isBlank c

variable {cs ds : List Char}

theorem trim_eq_rdropWhile (cs : List Char) : trim cs = (cs.dropWhile isBlank).rdropWhile isBlank :=
  rfl

theorem padded_trim (cs : List Char) : Padded (trim cs) cs := by
  refine ⟨cs.takeWhile isBlank, (cs.dropWhile isBlank).rtakeWhile isBlank, ?_, ?before, ?after⟩
  · rw [trim_eq_rdropWhile, List.append_assoc, List.rdropWhile_append_rtakeWhile, List.takeWhile_append_dropWhile]
  case before => exact fun c => List.mem_takeWhile_imp
  case after  => exact fun c => List.mem_rtakeWhile_imp

theorem trim_of_padded (h : Padded cs ds) : trim ds = trim cs := by
  obtain ⟨before, after, rfl, hb, ha⟩ := h
  have ha' : after.reverse.dropWhile isBlank = [] := by simpa using ha
  rw [trim, List.append_assoc, List.dropWhile_append_of_pos hb, List.dropWhile_append]
  split
  case isTrue hc =>
    have hd : after.dropWhile isBlank = [] := by simpa using ha
    rw [hd, trim, List.isEmpty_iff.mp hc]
  case isFalse => rw [List.reverse_append, List.dropWhile_append, ha', List.isEmpty_nil, if_pos rfl, trim]

theorem trim_append_of_isBlank {before : List Char} (h : ∀ c ∈ before, isBlank c) : trim (before ++ cs) = trim cs :=
  trim_of_padded ⟨before, [], (List.append_nil _).symm, h, nofun⟩

theorem trim_eq_iff_padded (h : ∀ c ∈ cs, ¬ isBlank c) : trim ds = cs ↔ Padded cs ds where
  mp he := he ▸ padded_trim ds
  mpr hp := (trim_of_padded hp).trans (trim_of_not_isBlank h)

theorem rdropWhile_append_cons {p : Char → Bool} {c : Char} (h : ¬ p c) :
    (cs ++ c :: ds).rdropWhile p = cs ++ c :: ds.rdropWhile p := by
  induction ds using List.reverseRecOn
  case nil => rw [List.rdropWhile_concat_neg _ _ _ h, List.rdropWhile_nil]
  case append_singleton ds d ih =>
    rw [← List.cons_append, ← List.append_assoc]
    by_cases hd : p d
    case pos => rw [List.rdropWhile_concat_pos _ _ _ hd, List.rdropWhile_concat_pos _ _ _ hd, ih]
    case neg => rw [List.rdropWhile_concat_neg _ _ _ hd, List.rdropWhile_concat_neg _ _ _ hd, List.append_assoc]; rfl

-- Once a character is no blank, only the blanks at the end are cut off.
theorem trim_append_cons {c : Char} (hf : ∀ d ∈ cs, ¬ isBlank d) (hc : ¬ isBlank c) :
    trim (cs ++ c :: ds) = cs ++ c :: ds.rdropWhile isBlank := by
  have hd : (cs ++ c :: ds).dropWhile isBlank = cs ++ c :: ds := by
    cases cs
    case nil       => simp [hc]
    case cons d cs => simp [hf d List.mem_cons_self]
  rw [trim_eq_rdropWhile, hd, rdropWhile_append_cons hc]

end RecordFilter
