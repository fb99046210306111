import RecordFilter.Error
import RecordFilter.Registration

namespace RecordFilter
namespace Filter

-- A field that is already there keeps its place.
def write (field : String) (condition : Condition) : List (String × Condition) → List (String × Condition)
  | [] => [(field, condition)]
  | entry :: entries =>
    if entry.1 = field then (field, condition) :: entries else entry :: write field condition entries

theorem map_fst_write (field : String) (condition : Condition) (entries : List (String × Condition)) :
    (write field condition entries).map Prod.fst =
      if field ∈ entries.map Prod.fst then entries.map Prod.fst else entries.map Prod.fst ++ [field] := by
  induction entries with
  | nil => rfl
  | cons entry entries ih =>
    by_cases h : entry.1 = field
    · simp [write, h]
    · simp only [write, h, if_false, List.map_cons, ih, List.mem_cons, Ne.symm h, false_or]
      split <;> rfl

end Filter

structure Filter where
  entries : List (String × Condition)
  nodup   : (entries.map Prod.fst).Nodup

namespace Filter

def empty : Filter := ⟨[], List.nodup_nil⟩

def put (f : Filter) (field : String) (condition : Condition) : Filter where
  entries := write field condition f.entries
  nodup   := by
    rw [map_fst_write]
    split
    · exact f.nodup
    · rename_i h
      refine List.nodup_append.mpr ⟨f.nodup, by simp, ?_⟩
      rintro a ha b hb rfl
      exact h (List.mem_singleton.mp hb ▸ ha)

def add (f : Filter) (field : String) (operator : Operator) (value : Value) : Filter :=
  f.put field ⟨operator, value, .and⟩

def or (f : Filter) (field : String) (operator : Operator) (value : Value) : Filter :=
  f.put field ⟨operator, value, .or⟩

def set (f : Filter) (field : String) (operator : Operator) (value : Value) : Filter :=
  f.add field operator value

def setEqual (f : Filter) (field : String) (value : Value) : Filter :=
  f.set field (.relation .equal) value

def single (field : String) (operator : Operator) (value : Value) : Filter :=
  empty.set field operator value

section Typed

variable {κ ρ : Type} [DecidableEq κ]

-- The name under which an accessor is registered.
def nameOf (R : Registration κ ρ) (accessor : κ) : Except Error String :=
  (R.accessorName? accessor).elim (.error (.invalidAccessor R.collection)) .ok

def addTyped (f : Filter) (R : Registration κ ρ) (accessor : κ) (operator : Operator) (value : Value) :
    Except Error Filter := do
  return f.add (← nameOf R accessor) operator value

def orTyped (f : Filter) (R : Registration κ ρ) (accessor : κ) (operator : Operator) (value : Value) :
    Except Error Filter := do
  return f.or (← nameOf R accessor) operator value

end Typed

def names (f : Filter) : List String :=
  f.entries.map Prod.fst

def size (f : Filter) : Nat :=
  f.entries.length

def IsEmpty (f : Filter) : Prop :=
  f.entries = []

instance : DecidablePred IsEmpty :=
  fun f => decidable_of_iff (f.entries.isEmpty = true) List.isEmpty_iff

def Names (f : Filter) (field : String) : Prop :=
  field ∈ f.names

instance (f : Filter) : DecidablePred f.Names :=
  fun field => inferInstanceAs (Decidable (field ∈ f.names))

def condition? (f : Filter) (field : String) : Option Condition :=
  (f.entries.find? (·.1 = field)).map Prod.snd

def get (f : Filter) (field : String) : Except Error (Value × Operator) :=
  match f.condition? field with
  | some condition => .ok (condition.value, condition.operator)
  | none           => .error (.fieldNotFound field)

-- Two filters with the same conditions in another order are not equal.
def equals (f g : Filter) : Bool :=
  f.entries.isEqv g.entries fun a b => a.1 == b.1 && a.2.equals b.2

end Filter
end RecordFilter
