import RecordFilter.Filter
import RecordFilter.Selection.Basic

namespace RecordFilter
namespace Selection

def ofEntry (entry : String × Condition) : Selection :=
  comparison entry.1 entry.2.operator entry.2.value

def extend (selection : Selection) (entry : String × Condition) : Selection :=
  join entry.2.connective selection (ofEntry entry)

-- Conditions are joined from left to right, with no precedence between the connectives.
-- The first condition has nothing before it to join, so its connective is not looked at.
def ofEntries : List (String × Condition) → Selection
  | []               => everything
  | entry :: entries => entries.foldl extend (ofEntry entry)

theorem fields_foldl_extend (selection : Selection) (entries : List (String × Condition)) :
    (entries.foldl extend selection).fields = selection.fields ++ entries.map Prod.fst := by
  induction entries generalizing selection with
  | nil => simp
  | cons entry entries ih =>
    simp only [List.foldl_cons, ih, extend, List.map_cons]
    cases entry.2.connective <;> simp [join, fields, ofEntry]

theorem fields_ofEntries (entries : List (String × Condition)) :
    (ofEntries entries).fields = entries.map Prod.fst := by
  cases entries with
  | nil => rfl
  | cons entry entries => simp [ofEntries, fields_foldl_extend, ofEntry, fields]

end Selection

namespace Filter

variable {κ ρ : Type}

def registered (f : Filter) (R : Registration κ ρ) : List (String × Condition) :=
  f.entries.filter fun entry => R.Registers entry.1

def foreign (f : Filter) (R : Registration κ ρ) : List (String × Condition) :=
  f.entries.filter fun entry => ¬ R.Registers entry.1

def selection (f : Filter) (R : Registration κ ρ) : Selection :=
  .ofEntries (f.registered R)

end Filter
end RecordFilter
