import RecordFilter.Selection.Text

namespace RecordFilter

-- Whether a text occurs within another.
def occursIn (needle : List Char) : List Char → Bool
  | []      => needle.isEmpty
  | c :: cs => needle.isPrefixOf (c :: cs) || occursIn needle cs

-- The literal of a test is already of the kind that its field declares.
inductive Test
  | relation (r : Relation) (literal : Value)
  | contains (needle : String)
deriving DecidableEq

def Test.holds : Test → Value → Bool
  | relation r literal, value   => r.holds (value.compare literal)
  | contains needle,    .text s => occursIn needle.toList s.toList
  | contains _,         _       => false

inductive Node (κ : Type)
  | everything
  | comparison (accessor : κ) (test : Test)
  | and (left right : Node κ)
  | or (left right : Node κ)

namespace Node

variable {κ ρ : Type}

def eval (read : κ → Value) : Node κ → Bool
  | everything               => true
  | comparison accessor test => test.holds (read accessor)
  | and left right           => left.eval read && right.eval read
  | or left right            => left.eval read || right.eval read

def IsEverything : Node κ → Prop
  | everything => True
  | _          => False

instance : DecidablePred (@IsEverything κ)
  | everything     => isTrue trivial
  | comparison _ _ => isFalse id
  | and _ _        => isFalse id
  | or _ _         => isFalse id

end Node

structure Predicate {κ ρ : Type} (R : Registration κ ρ) where
  selection : Selection
  root      : Node κ

variable {κ ρ : Type}

-- Whether a field of the kind can be asked for what the operator asks.
def Kind.Supports (k : Kind) : Operator → Prop
  | .relation r => r.IsOrdering → k.IsOrdered
  | .contains   => k.IsTextual

instance (k : Kind) : DecidablePred k.Supports
  | .relation r => inferInstanceAs (Decidable (r.IsOrdering → k.IsOrdered))
  | .contains   => inferInstanceAs (Decidable k.IsTextual)

def Test.compile (R : Registration κ ρ) (field : Field κ) (operator : Operator) (value : Value) :
    Except Error Test :=
  let unsupported := Error.unsupportedOperator R.collection field.name operator field.kind
  if field.kind.Supports operator then
    match value.castTo field.kind with
    | .error cause => .error (.typeMismatch R.collection field.name cause)
    | .ok literal =>
      match operator, literal with
      | .relation r, literal      => .ok (relation r literal)
      | .contains,   .text needle => .ok (contains needle)
      | .contains,   _            => .error unsupported
  else
    .error unsupported

-- Of several errors in a selection the leftmost is reported.
def Node.compile (R : Registration κ ρ) : Selection → Except Error (Node κ)
  | .everything => .ok everything
  | .comparison field operator value =>
    match R.field? field with
    | none       => .error (.fieldNotFound field)
    | some field => do return comparison field.accessor (← Test.compile R field operator value)
  | .and left right => do return and (← compile R left) (← compile R right)
  | .or left right  => do return or (← compile R left) (← compile R right)

namespace Predicate

variable {R : Registration κ ρ}

def compile (R : Registration κ ρ) (selection : Selection) : Except Error (Predicate R) := do
  return ⟨selection, ← Node.compile R selection⟩

def accepts (p : Predicate R) (item : ρ) : Bool :=
  p.root.eval fun accessor => R.read accessor item

-- A predicate serves as a test of records wherever one is asked for.
instance : CoeFun (Predicate R) fun _ => ρ → Bool := ⟨accepts⟩

-- Whether there was nothing to test, so that every record is accepted.
def AcceptsAll (p : Predicate R) : Prop :=
  p.root.IsEverything

instance : DecidablePred (@AcceptsAll κ ρ R) :=
  fun p => inferInstanceAs (Decidable p.root.IsEverything)

def toText (p : Predicate R) : String :=
  p.selection.toText

def debugText (p : Predicate R) : String :=
  "Predicate(" ++ String.ofList (Quoted.encode p.selection.chars) ++ ")"

end Predicate

def Filter.compile (f : Filter) (R : Registration κ ρ) : Except Error (Predicate R) :=
  Predicate.compile R (f.selection R)

end RecordFilter
