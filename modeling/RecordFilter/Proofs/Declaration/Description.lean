import Mathlib.Data.List.Nodup
import RecordFilter.Declaration.Description

namespace RecordFilter

variable {m : Member} {members : List Member} {name : String}

namespace Member

-- The name given to a member, or else its own. Neither a member that is skipped nor one whose attributes cannot be read
-- is registered.
def registeredName? (m : Member) : Option String :=
  match FieldOptions.ofAttributes m.attributes with
  | .error _    => none
  | .ok options => if options.skip then none else some (options.rename.getD (plainName m.ident))

def description? (m : Member) : Option MemberDescription :=
  m.registeredName?.map fun name => ⟨m.ident, m.visibility, m.type, name⟩

theorem describe?_eq (m : Member) :
    m.describe? = (FieldOptions.ofAttributes m.attributes).map fun _ => m.description? := by
  simp only [describe?, description?, registeredName?]
  cases FieldOptions.ofAttributes m.attributes
  case error => rfl
  case ok options => cases hs : options.skip <;> simp [hs, bind, Except.bind, Except.map, pure, Except.pure]

theorem description?_eq_some (h : m.registeredName? = some name) :
    m.description? = some ⟨m.ident, m.visibility, m.type, name⟩ := by
  rw [description?, h]
  rfl

theorem describe?_eq_some (h : m.registeredName? = some name) :
    m.describe? = .ok (some ⟨m.ident, m.visibility, m.type, name⟩) := by
  rw [describe?_eq, description?_eq_some h]
  cases ha : FieldOptions.ofAttributes m.attributes
  case error => simp [registeredName?, ha] at h
  case ok => rfl

theorem map_name_description? (members : List Member) :
    (members.filterMap description?).map (·.name) = members.filterMap registeredName? := by
  rw [List.map_filterMap]
  congr 1
  funext m
  cases h : m.registeredName? <;> simp [description?, h]

end Member

-- Where keys do not repeat, only one element can be found by its key.
theorem find?_of_nodup {α β : Type} [DecidableEq β] {key : α → β} {xs : List α} {x : α} (hn : (xs.map key).Nodup)
    (h : x ∈ xs) : xs.find? (key · = key x) = some x := by
  cases hf : xs.find? (key · = key x)
  case none => exact absurd (List.find?_eq_none.mp hf x h) (by simp)
  case some y =>
    have hk : key y = key x := by simpa using List.find?_some hf
    rw [List.inj_on_of_nodup_map hn (List.mem_of_find?_eq_some hf) h hk]

namespace Declaration

variable {fields : List MemberDescription} {field : MemberDescription}

theorem extend_of_error {e : AttributeError} (h : m.describe? = .error e) :
    extend fields m = .error (.badAttribute e) := by
  rw [extend, h]
  rfl

theorem extend_of_skipped (h : m.describe? = .ok none) : extend fields m = .ok fields := by
  rw [extend, h]
  rfl

theorem extend_of_described (h : m.describe? = .ok (some field)) :
    extend fields m =
      (fields.find? (·.name = field.name)).elim (.ok (fields ++ [field])) fun earlier =>
        .error (.registered field.name earlier.ident) := by
  have hm : m.describe?.mapError DeclarationError.badAttribute = .ok (some field) := by rw [h]; rfl
  simp only [extend, hm, bind, Except.bind]
  cases fields.find? (·.name = field.name) <;> rfl

end Declaration
end RecordFilter
