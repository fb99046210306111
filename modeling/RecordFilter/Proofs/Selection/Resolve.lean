import RecordFilter.Selection.Text

namespace RecordFilter
namespace Selection

def IsComparison : Selection → Prop
  | comparison .. => True
  | _             => False

-- Whether every right operand is a comparison.
def IsLeftDeep : Selection → Prop
  | everything | comparison ..     => True
  | and left right | or left right => left.IsLeftDeep ∧ right.IsComparison

variable {s : Selection} {entries : List (String × Condition)}

theorem IsLeftDeep.extend (h : s.IsLeftDeep) (entry : String × Condition) : (s.extend entry).IsLeftDeep := by
  rw [Selection.extend]
  cases entry.2.connective <;> exact ⟨h, trivial⟩

theorem IsLeftDeep.foldl_extend (h : s.IsLeftDeep) (entries : List (String × Condition)) :
    (entries.foldl Selection.extend s).IsLeftDeep := by
  induction entries generalizing s
  case nil                  => exact h
  case cons entry entries ih => exact ih (h.extend entry)

theorem isLeftDeep_ofEntries (entries : List (String × Condition)) : (ofEntries entries).IsLeftDeep := by
  cases entries
  case nil  => trivial
  case cons => exact IsLeftDeep.foldl_extend (s := ofEntry _) trivial _

theorem ofEntries_eq_everything_iff : ofEntries entries = everything ↔ entries = [] where
  mp h := by
    have hf := fields_ofEntries entries
    rw [h] at hf
    exact List.map_eq_nil_iff.mp hf.symm
  mpr h := by rw [h]; rfl

-- There is a blank on either side of every operator and every connective.
theorem blank_mem_chars (h : s ≠ everything) : ' ' ∈ s.chars := by
  cases s
  case everything => exact absurd rfl h
  all_goals simp [chars]

theorem toText_eq_true_iff : s.toText = "TRUE" ↔ s = everything where
  mp h := by
    by_cases hs : s = everything
    case pos => exact hs
    case neg =>
      have hc : s.chars = "TRUE".toList := by rw [← h, toText, String.toList_ofList]
      exact absurd (hc ▸ blank_mem_chars hs) (by decide)
  mpr h := by rw [h]; rfl

end Selection
end RecordFilter
