import RecordFilter.Value.Basic

namespace RecordFilter

inductive Relation
  | equal | notEqual | less | lessOrEqual | greater | greaterOrEqual
deriving DecidableEq, Repr

namespace Relation

def all : List Relation :=
  [equal, notEqual, less, lessOrEqual, greater, greaterOrEqual]

-- Values without an order between them are unequal, and stand in no other relation.
def holds (r : Relation) (o : Option Ordering) : Bool :=
  match r with
  | equal          => o == some .eq
  | notEqual       => o != some .eq
  | less           => o == some .lt
  | lessOrEqual    => o == some .lt || o == some .eq
  | greater        => o == some .gt
  | greaterOrEqual => o == some .gt || o == some .eq

def IsOrdering (r : Relation) : Prop :=
  r ≠ equal ∧ r ≠ notEqual

instance : DecidablePred IsOrdering :=
  fun r => inferInstanceAs (Decidable (r ≠ equal ∧ r ≠ notEqual))

end Relation

inductive Operator
  | relation (r : Relation)
  | contains
deriving DecidableEq, Repr

namespace Operator

def all : List Operator :=
  Relation.all.map relation ++ [contains]

-- How expressions write an operator.
def symbol : Operator → String
  | relation .equal          => "="
  | relation .notEqual       => "<>"
  | relation .less           => "<"
  | relation .lessOrEqual    => "<="
  | relation .greater        => ">"
  | relation .greaterOrEqual => ">="
  | contains                 => "CONTAINS"

-- How documents write an operator.
def tag : Operator → String
  | relation .equal          => "Equal"
  | relation .notEqual       => "NotEqual"
  | relation .less           => "LessThan"
  | relation .lessOrEqual    => "LessThanOrEqual"
  | relation .greater        => "GreaterThan"
  | relation .greaterOrEqual => "GreaterThanOrEqual"
  | contains                 => "Contains"

def ofTag? (tag : String) : Option Operator :=
  all.find? (·.tag = tag)

def IsOrdering : Operator → Prop
  | relation r => r.IsOrdering
  | contains   => False

instance : DecidablePred IsOrdering
  | relation r => inferInstanceAs (Decidable r.IsOrdering)
  | contains   => isFalse id

end Operator

inductive Connective
  | and | or
deriving DecidableEq, Repr

namespace Connective

def all : List Connective := [and, or]

instance : Inhabited Connective := ⟨and⟩

def symbol : Connective → String
  | and => "AND"
  | or  => "OR"

def tag : Connective → String
  | and => "And"
  | or  => "Or"

def ofTag? (tag : String) : Option Connective :=
  all.find? (·.tag = tag)

def join : Connective → Bool → Bool → Bool
  | and => Bool.and
  | or  => Bool.or

end Connective

structure Condition where
  operator   : Operator
  value      : Value
  connective : Connective
deriving DecidableEq

-- Like the equality of the values in them, not the equality of the type.
def Condition.equals (c d : Condition) : Bool :=
  c.operator == d.operator && c.value.equals d.value && c.connective == d.connective

end RecordFilter
