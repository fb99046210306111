import RecordFilter.Proofs.Predicate.Compile

namespace RecordFilter

variable {κ ρ : Type} {R : Registration κ ρ}

theorem Registration.name_of_field? {name : String} {field : Field κ} (h : R.field? name = some field) :
    field.name = name := by
  simpa using List.find?_some h

theorem Kind.supports_iff {k : Kind} {operator : Operator} :
    k.Supports operator ↔ ¬ (operator.IsOrdering ∧ k = .bool) ∧ ¬ (operator = .contains ∧ k ≠ .text) := by
  cases operator <;> simp [Supports, IsOrdered, IsTextual, Operator.IsOrdering]

-- What is wrong with a condition. A literal is only looked at if the field can be asked what the operator asks.
inductive Registration.Fault (R : Registration κ ρ) (name : String) (c : Condition) : Error → Prop
  | unordered {field : Field κ} (hf : R.field? name = some field) (ho : c.operator.IsOrdering)
      (hk : field.kind = .bool) : Fault R name c (.unsupportedOperator R.collection name c.operator .bool)
  | untextual {field : Field κ} (hf : R.field? name = some field) (ho : c.operator = .contains)
      (hk : field.kind ≠ .text) : Fault R name c (.unsupportedOperator R.collection name .contains field.kind)
  | uncastable {field : Field κ} {cause : CastError} (hf : R.field? name = some field)
      (hb : ¬ (c.operator.IsOrdering ∧ field.kind = .bool))
      (ht : ¬ (c.operator = .contains ∧ field.kind ≠ .text))
      (hc : c.value.castTo field.kind = .error cause) : Fault R name c (.typeMismatch R.collection name cause)

namespace Registration

theorem Fault.registers {name : String} {c : Condition} {e : Error} (h : R.Fault name c e) : R.Registers name := by
  rw [← isSome_field?_iff]
  cases h <;> simp [*]

theorem fault_iff {name : String} {c : Condition} {e : Error} {field : Field κ} (hf : R.field? name = some field) :
    R.Fault name c e ↔ Test.compile R field c.operator c.value = .error e := by
  rw [Test.compile_eq, name_of_field? hf]
  constructor
  case mp =>
    intro h
    cases h
    case unordered hf' ho hk =>
      cases hf.symm.trans hf'
      rw [if_neg fun hs => (Kind.supports_iff.mp hs).left ⟨ho, hk⟩, hk]
    case untextual hf' ho hk =>
      cases hf.symm.trans hf'
      rw [if_neg fun hs => (Kind.supports_iff.mp hs).right ⟨ho, hk⟩, ho]
    case uncastable hf' hb ht hc =>
      cases hf.symm.trans hf'
      rw [if_pos (Kind.supports_iff.mpr ⟨hb, ht⟩), hc]
      rfl
  case mpr =>
    intro h
    split at h
    case isTrue hs =>
      have ⟨hb, ht⟩ := Kind.supports_iff.mp hs
      cases hc : c.value.castTo field.kind <;> rw [hc] at h <;> cases h
      exact .uncastable hf hb ht hc
    case isFalse hs =>
      cases h
      by_cases hb : c.operator.IsOrdering ∧ field.kind = .bool
      case pos => exact hb.right ▸ .unordered hf hb.left hb.right
      case neg =>
        have ⟨ho, hk⟩ := Classical.not_not.mp fun ht => hs (Kind.supports_iff.mpr ⟨hb, ht⟩)
        exact ho ▸ .untextual hf ho hk

-- What is wrong with a condition that counts.
def fault? (R : Registration κ ρ) (entry : String × Condition) : Option Error :=
  if R.Registers entry.1 then Node.error? R (.ofEntry entry) else none

theorem fault?_eq_some_iff {entry : String × Condition} {e : Error} :
    R.fault? entry = some e ↔ R.Fault entry.1 entry.2 e := by
  unfold fault?
  split
  case isFalse h => exact ⟨nofun, fun hf => absurd hf.registers h⟩
  case isTrue h =>
    have ⟨field, hf⟩ := Option.isSome_iff_exists.mp (isSome_field?_iff.mpr h)
    rw [fault_iff hf, Node.error?_eq_some_iff, Node.compile_ofEntry hf]
    cases Test.compile R field entry.2.operator entry.2.value <;> simp [Except.map]

theorem fault?_eq_none_iff {entry : String × Condition} :
    R.fault? entry = none ↔ ∀ e, ¬ R.Fault entry.1 entry.2 e := by
  simp only [Option.eq_none_iff_forall_ne_some, ne_eq, fault?_eq_some_iff]

end Registration

namespace Filter

theorem error?_selection (f : Filter) (R : Registration κ ρ) :
    Node.error? R (f.selection R) = f.entries.findSome? R.fault? := by
  rw [Node.error?_eq_findSome?, selection, Selection.comparisons_ofEntries, List.findSome?_map, registered]
  induction f.entries
  case nil => rfl
  case cons entry entries ih =>
    by_cases h : R.Registers entry.1
    case pos => simp [List.findSome?_cons, Registration.fault?, Selection.ofEntry, h, ih]
    case neg => simp [Registration.fault?, h, ih]

theorem compile_eq_error_iff {f : Filter} {e : Error} :
    f.compile R = .error e ↔ Node.error? R (f.selection R) = some e := by
  rw [compile_eq, Node.error?_eq_some_iff]
  cases Node.compile R (f.selection R) <;> simp [Except.map]

theorem compile_eq_ok_iff {f : Filter} :
    (∃ p, f.compile R = .ok p) ↔ Node.error? R (f.selection R) = none := by
  rw [compile_eq, Node.error?_eq_none_iff]
  cases Node.compile R (f.selection R) <;> simp [Except.map]

theorem comparisons_selection (f : Filter) (R : Registration κ ρ) :
    (f.selection R).comparisons =
      (f.entries.map fun entry => (entry.1, entry.2.operator, entry.2.value)).filter (R.Registers ·.1) := by
  rw [selection, Selection.comparisons_ofEntries, registered, List.filter_map]
  rfl

-- Neither the connectives nor how the comparisons are joined decide which condition is at fault, names that are not
-- registered are no fault, and a cast to the kind of texts leaves nothing else to look for.
theorem compile_error_iff_first_fault (f : Filter) (R : Registration κ ρ) :
    (∀ e, f.compile R = .error e ↔
      ∃ before entry after, f.entries = before ++ entry :: after ∧ R.Fault entry.1 entry.2 e ∧
        ∀ other ∈ before, ∀ e', ¬ R.Fault other.1 other.2 e') ∧
    ((∃ p, f.compile R = .ok p) ↔ ∀ entry ∈ f.entries, ∀ e, ¬ R.Fault entry.1 entry.2 e) ∧
    (∀ name, f.compile R ≠ .error (.fieldNotFound name)) ∧
    (∀ g : Filter, (g.entries.map fun entry => (entry.1, entry.2.operator, entry.2.value)) =
        (f.entries.map fun entry => (entry.1, entry.2.operator, entry.2.value)) →
      ∀ e, g.compile R = .error e ↔ f.compile R = .error e) ∧
    (∀ s : Selection, s.comparisons = (f.selection R).comparisons →
      ∀ e, Node.compile R s = .error e ↔ f.compile R = .error e) ∧
    (∀ (field : Field κ) (value literal : Value), field.kind.Supports .contains →
      value.castTo field.kind = .ok literal → ∃ needle, literal = .text needle) := by
  have first (e : Error) : f.compile R = .error e ↔
      ∃ before entry after, f.entries = before ++ entry :: after ∧ R.Fault entry.1 entry.2 e ∧
        ∀ other ∈ before, ∀ e', ¬ R.Fault other.1 other.2 e' := by
    simp only [compile_eq_error_iff, error?_selection, List.findSome?_eq_some_iff, R.fault?_eq_some_iff,
      R.fault?_eq_none_iff]
  have structure_irrelevant (s : Selection) (h : s.comparisons = (f.selection R).comparisons) (e : Error) :
      Node.compile R s = .error e ↔ f.compile R = .error e := by
    rw [compile_eq_error_iff, ← Node.error?_eq_some_iff, Node.error?_eq_findSome?, h, ← Node.error?_eq_findSome?]
  refine ⟨first, ?ok, ?fieldNotFound, ?connectives, structure_irrelevant, ?contains⟩
  case ok => simp only [compile_eq_ok_iff, error?_selection, List.findSome?_eq_none_iff, R.fault?_eq_none_iff]
  case fieldNotFound =>
    intro name h
    have ⟨_, _, _, _, hf, _⟩ := (first _).mp h
    cases hf
  case connectives =>
    intro g h e
    rw [compile_eq_error_iff, Node.error?_eq_some_iff]
    exact structure_irrelevant _ (by rw [comparisons_selection, comparisons_selection, h]) e
  case contains =>
    intro field value literal hs hc
    exact Value.exists_text_of_kind (Value.kind_of_castTo hc |>.trans hs)

end Filter
end RecordFilter
