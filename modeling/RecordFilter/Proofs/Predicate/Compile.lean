import RecordFilter.Predicate.Basic
import RecordFilter.Proofs.Value.Cast
import Mathlib.Data.List.Forall2

namespace RecordFilter

variable {κ ρ : Type} {R : Registration κ ρ}

namespace Test

-- The test for a literal that was cast already. Only texts are looked for within others.
def ofLiteral : Operator → Value → Test
  | .relation r, literal => relation r literal
  | .contains,   literal => contains literal.toText

-- A cast to the kind of texts gives a text, so there is always something to look for.
theorem compile_eq (R : Registration κ ρ) (field : Field κ) (operator : Operator) (value : Value) :
    compile R field operator value =
      if field.kind.Supports operator then
        ((value.castTo field.kind).mapError (.typeMismatch R.collection field.name)).map (ofLiteral operator)
      else
        .error (.unsupportedOperator R.collection field.name operator field.kind) := by
  unfold compile
  by_cases hs : field.kind.Supports operator <;> simp only [hs, if_true, if_false]
  cases hc : value.castTo field.kind
  case error cause => rfl
  case ok literal =>
    cases operator
    case relation r => rfl
    case contains =>
      have ⟨needle, hn⟩ := Value.exists_text_of_kind (Value.kind_of_castTo hc |>.trans hs)
      rw [hn]; rfl

theorem of_compile {field : Field κ} {operator : Operator} {value : Value} {test : Test}
    (h : compile R field operator value = .ok test) :
    field.kind.Supports operator ∧
      ∃ literal, value.castTo field.kind = .ok literal ∧ test = ofLiteral operator literal := by
  rw [compile_eq] at h
  split at h
  case isFalse => cases h
  case isTrue hs =>
    cases hc : value.castTo field.kind <;> rw [hc] at h <;> cases h
    exact ⟨hs, _, rfl, rfl⟩

end Test

namespace Selection

-- Every comparison, from left to right.
def comparisons : Selection → List (String × Operator × Value)
  | everything                      => []
  | comparison field operator value => [(field, operator, value)]
  | and left right                  => left.comparisons ++ right.comparisons
  | or left right                   => left.comparisons ++ right.comparisons

theorem comparisons_foldl_extend (selection : Selection) (entries : List (String × Condition)) :
    (entries.foldl extend selection).comparisons =
      selection.comparisons ++ entries.map fun entry => (entry.1, entry.2.operator, entry.2.value) := by
  induction entries generalizing selection
  case nil => simp
  case cons entry entries ih =>
    rw [List.foldl_cons, ih, extend]
    cases entry.2.connective <;> simp [join, comparisons, ofEntry]

theorem comparisons_ofEntries (entries : List (String × Condition)) :
    (ofEntries entries).comparisons = entries.map fun entry => (entry.1, entry.2.operator, entry.2.value) := by
  cases entries
  case nil  => rfl
  case cons => simp [ofEntries, comparisons_foldl_extend, ofEntry, comparisons]

end Selection

namespace Node

def join : Connective → Node κ → Node κ → Node κ
  | .and => and
  | .or  => or

theorem eval_join (read : κ → Value) (c : Connective) (left right : Node κ) :
    (join c left right).eval read = c.join (left.eval read) (right.eval read) := by
  cases c <;> rfl

theorem compile_ofEntry {entry : String × Condition} {field : Field κ} (h : R.field? entry.1 = some field) :
    compile R (.ofEntry entry) =
      (Test.compile R field entry.2.operator entry.2.value).map (comparison field.accessor) := by
  simp only [Selection.ofEntry, compile, h]
  cases Test.compile R field entry.2.operator entry.2.value <;> rfl

theorem of_compile_ofEntry {entry : String × Condition} {node : Node κ} (h : compile R (.ofEntry entry) = .ok node) :
    ∃ field test, R.field? entry.1 = some field ∧
      Test.compile R field entry.2.operator entry.2.value = .ok test ∧ node = comparison field.accessor test := by
  cases hf : R.field? entry.1
  case none => simp [Selection.ofEntry, compile, hf] at h
  case some field =>
    rw [compile_ofEntry hf] at h
    cases ht : Test.compile R field entry.2.operator entry.2.value <;> rw [ht] at h <;> cases h
    exact ⟨field, _, rfl, ht, rfl⟩

theorem compile_join (R : Registration κ ρ) (c : Connective) (left right : Selection) :
    compile R (.join c left right) = (do return join c (← compile R left) (← compile R right)) := by
  cases c <;> rfl

theorem of_compile_join {c : Connective} {left right : Selection} {node : Node κ}
    (h : compile R (.join c left right) = .ok node) :
    ∃ l r, compile R left = .ok l ∧ compile R right = .ok r ∧ node = join c l r := by
  rw [compile_join] at h
  cases hl : compile R left <;> rw [hl] at h
  case error => cases h
  case ok l =>
    cases hr : compile R right <;> rw [hr] at h <;> cases h
    exact ⟨l, _, rfl, rfl, rfl⟩

theorem of_compile_extend {selection : Selection} {entry : String × Condition} {node : Node κ}
    (h : compile R (selection.extend entry) = .ok node) :
    ∃ left right, compile R selection = .ok left ∧ compile R (.ofEntry entry) = .ok right ∧
      node = join entry.2.connective left right :=
  of_compile_join h

-- The tests of a node, each with the accessor that it reads, from left to right.
def leaves : Node κ → List (κ × Test)
  | everything               => []
  | comparison accessor test => [(accessor, test)]
  | and left right           => left.leaves ++ right.leaves
  | or left right            => left.leaves ++ right.leaves

theorem leaves_join (c : Connective) (left right : Node κ) :
    (join c left right).leaves = left.leaves ++ right.leaves := by
  cases c <;> rfl

-- What a comparison becomes: it reads the first field of its name.
def CompilesTo (R : Registration κ ρ) (comparison : String × Operator × Value) (leaf : κ × Test) : Prop :=
  ∃ field, R.field? comparison.1 = some field ∧ leaf.1 = field.accessor ∧
    Test.compile R field comparison.2.1 comparison.2.2 = .ok leaf.2

theorem leaves_of_compile {selection : Selection} {node : Node κ} (h : compile R selection = .ok node) :
    List.Forall₂ (CompilesTo R) selection.comparisons node.leaves := by
  induction selection generalizing node
  case everything => cases h; exact .nil
  case comparison name operator value =>
    have h : compile R (.ofEntry (name, ⟨operator, value, .and⟩)) = .ok node := h
    have ⟨field, test, hf, ht, hn⟩ := of_compile_ofEntry h
    subst hn
    exact .cons ⟨field, hf, rfl, ht⟩ .nil
  case and left right ihl ihr =>
    have ⟨l, r, hl, hr, hn⟩ := of_compile_join (c := .and) h
    rw [hn, leaves_join]
    exact List.rel_append (ihl hl) (ihr hr)
  case or left right ihl ihr =>
    have ⟨l, r, hl, hr, hn⟩ := of_compile_join (c := .or) h
    rw [hn, leaves_join]
    exact List.rel_append (ihl hl) (ihr hr)

def error? (R : Registration κ ρ) (selection : Selection) : Option Error :=
  match compile R selection with
  | .ok _    => none
  | .error e => some e

theorem error?_eq_some_iff {selection : Selection} {e : Error} :
    error? R selection = some e ↔ compile R selection = .error e := by
  unfold error?
  cases compile R selection <;> simp

theorem error?_eq_none_iff {selection : Selection} :
    error? R selection = none ↔ ∃ node, compile R selection = .ok node := by
  unfold error?
  cases compile R selection <;> simp

theorem error?_join (R : Registration κ ρ) (c : Connective) (left right : Selection) :
    error? R (.join c left right) = (error? R left).or (error? R right) := by
  rw [error?, compile_join]
  cases hl : compile R left
  case error => simp [error?, hl, bind, Except.bind]
  case ok => cases hr : compile R right <;> simp [error?, hl, hr, bind, Except.bind, pure, Except.pure]

-- How comparisons are joined makes no difference to which of them is at fault.
theorem error?_eq_findSome? (R : Registration κ ρ) (selection : Selection) :
    error? R selection = selection.comparisons.findSome? fun (field, operator, value) =>
      error? R (.comparison field operator value) := by
  induction selection
  case everything => rfl
  case comparison => simp [Selection.comparisons]
  case and left right ihl ihr =>
    rw [Selection.comparisons, List.findSome?_append, ← ihl, ← ihr]
    exact error?_join R .and left right
  case or left right ihl ihr =>
    rw [Selection.comparisons, List.findSome?_append, ← ihl, ← ihr]
    exact error?_join R .or left right

end Node

theorem Filter.compile_eq (f : Filter) (R : Registration κ ρ) :
    f.compile R = (Node.compile R (f.selection R)).map fun root => ⟨f.selection R, root⟩ := by
  unfold Filter.compile Predicate.compile
  cases Node.compile R (f.selection R) <;> rfl

theorem Filter.of_compile {f : Filter} {p : Predicate R} (h : f.compile R = .ok p) :
    p.selection = f.selection R ∧ Node.compile R (f.selection R) = .ok p.root := by
  rw [compile_eq] at h
  cases hn : Node.compile R (f.selection R) <;> rw [hn] at h <;> cases h
  exact ⟨rfl, rfl⟩

end RecordFilter
