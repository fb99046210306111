import RecordFilter.Text.Quoted
import RecordFilter.Value.Basic

namespace RecordFilter

structure Field (κ : Type) where
  name     : String
  kind     : Kind
  accessor : κ

def Field.debugText {κ : Type} (field : Field κ) : String :=
  "Field \x7b name: " ++ String.ofList (Quoted.encode field.name.toList) ++
    ", value_type: " ++ field.kind.tag ++ " \x7d"

-- Accessors of type `κ` tell the fields of records of type `ρ` apart. Nothing holds what is read to the
-- kind that the field declares.
structure Registration (κ ρ : Type) where
  collection : String
  fields     : List (Field κ)
  read       : κ → ρ → Value

namespace Registration

variable {κ ρ : Type}

-- Names and accessors may repeat. Wherever one is looked up, its first field stands for it.
def field? (R : Registration κ ρ) (name : String) : Option (Field κ) :=
  R.fields.find? (·.name = name)

def Registers (R : Registration κ ρ) (name : String) : Prop :=
  ∃ field ∈ R.fields, field.name = name

instance (R : Registration κ ρ) : DecidablePred R.Registers :=
  fun name => inferInstanceAs (Decidable (∃ field ∈ R.fields, field.name = name))

theorem isSome_field?_iff {R : Registration κ ρ} {name : String} : (R.field? name).isSome ↔ R.Registers name := by
  simp [field?, Registers]

def withAccessor [DecidableEq κ] (R : Registration κ ρ) (accessor : κ) : List (Field κ) :=
  R.fields.filter (·.accessor = accessor)

def accessorName? [DecidableEq κ] (R : Registration κ ρ) (accessor : κ) : Option String :=
  (R.fields.find? (·.accessor = accessor)).map (·.name)

def values (R : Registration κ ρ) (item : ρ) : List Value :=
  R.fields.map fun field => R.read field.accessor item

end Registration
end RecordFilter
