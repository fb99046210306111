import RecordFilter.Proofs.Predicate.LeftFold
import RecordFilter.Proofs.Value.Compare
import RecordFilter.Value.Scalar

namespace RecordFilter

-- The comparison, without its answer for values of different kinds.
def Value.compare? : Value → Value → Option (Option Ordering)
  | integer v m _, integer w n _ => if v = w then some (some (Ord.compare m n)) else none
  | float x,       float y       => some (x.compare y)
  | bool a,        bool b        => some (some (compareBool a b))
  | text s,        text t        => some (some (Ord.compare s t))
  | _,             _             => none

theorem Value.compare?_of_kind {v w : Value} (h : v.kind = w.kind) : v.compare? w = some (v.compare w) := by
  cases v <;> cases w <;> try cases h
  case integer.integer.refl => simp [compare?, compare]
  all_goals rfl

namespace Test

-- A test, without its answer for values of other kinds than it is for.
def holds? : Test → Value → Option Bool
  | relation r literal, value   => (value.compare? literal).map r.holds
  | contains needle,    .text s => some (occursIn needle.toList s.toList)
  | contains _,         _       => none

def IsFor (k : Kind) : Test → Prop
  | relation _ literal => literal.kind = k
  | contains _         => k.IsTextual

end Test

namespace Node

variable {κ : Type}

-- The right side is only looked at where the left one leaves the outcome open.
def eval? (read : κ → Value) : Node κ → Option Bool
  | everything               => some true
  | comparison accessor test => test.holds? (read accessor)
  | and left right           => do if ← left.eval? read then right.eval? read else return false
  | or left right            => do if ← left.eval? read then return true else right.eval? read

end Node

-- Whether every field of every record holds a value of the kind that the field declares.
def Registration.IsTyped {κ ρ : Type} (R : Registration κ ρ) : Prop :=
  ∀ field ∈ R.fields, ∀ item, (R.read field.accessor item).kind = field.kind

variable {κ ρ : Type} {R : Registration κ ρ}

namespace Test

variable {test : Test} {value : Value}

theorem isFor_of_compile {field : Field κ} {operator : Operator} (h : compile R field operator value = .ok test) :
    test.IsFor field.kind := by
  obtain ⟨hs, literal, hc, rfl⟩ := of_compile h
  cases operator
  case relation r => exact Value.kind_of_castTo hc
  case contains   => exact hs

theorem holds?_of_isFor (h : test.IsFor value.kind) : test.holds? value = some (test.holds value) := by
  cases test
  case relation r literal => rw [holds?, Value.compare?_of_kind h.symm]; rfl
  case contains needle =>
    obtain ⟨s, rfl⟩ := Value.exists_text_of_kind h
    rfl

end Test

namespace Node

variable {node : Node κ}

-- Whether a leaf reads a registered field, and has a test for the kind that the field declares.
def IsForField (R : Registration κ ρ) (leaf : κ × Test) : Prop :=
  ∃ field ∈ R.fields, leaf.1 = field.accessor ∧ leaf.2.IsFor field.kind

theorem CompilesTo.isForField {comparison : String × Operator × Value} {leaf : κ × Test}
    (h : CompilesTo R comparison leaf) : IsForField R leaf :=
  have ⟨field, hf, ha, ht⟩ := h
  ⟨field, List.mem_of_find?_eq_some hf, ha, Test.isFor_of_compile ht⟩

theorem isForField_of_compile {selection : Selection} (h : compile R selection = .ok node) :
    ∀ leaf ∈ node.leaves, IsForField R leaf :=
  have hl : List.Forall₂ (fun leaf comparison => IsForField R leaf ∧ CompilesTo R comparison leaf) node.leaves
      selection.comparisons := (leaves_of_compile h).flip.imp fun _ _ hc => ⟨CompilesTo.isForField hc, hc⟩
  (List.forall₂_and_left _ _ |>.mp hl).left

theorem IsForField.isFor {leaf : κ × Test} (h : IsForField R leaf) (hR : R.IsTyped) (item : ρ) :
    leaf.2.IsFor (R.read leaf.1 item).kind := by
  obtain ⟨field, hf, ha, ht⟩ := h
  rwa [ha, hR field hf item]

theorem eval?_of_leaves {read : κ → Value} (h : ∀ leaf ∈ node.leaves, leaf.2.IsFor (read leaf.1).kind) :
    node.eval? read = some (node.eval read) := by
  induction node
  case everything => rfl
  case comparison accessor test => exact Test.holds?_of_isFor (h _ List.mem_cons_self)
  case and left right ihl ihr =>
    have ⟨hl, hr⟩ := List.forall_mem_append.mp h
    rw [eval?, ihl hl, ihr hr, eval]
    cases left.eval read <;> rfl
  case or left right ihl ihr =>
    have ⟨hl, hr⟩ := List.forall_mem_append.mp h
    rw [eval?, ihl hl, ihr hr, eval]
    cases left.eval read <;> rfl

end Node

-- A field that does not hold what it declares would be unequal to everything, with no error to tell of it.
theorem Predicate.never_falls_back (R : Registration κ ρ) :
    (∀ (v : Value) (k : Kind) (w : Value), v.castTo k = .ok w → w.kind = k ∧ w.castTo k = .ok w) ∧
    (R.IsTyped → ∀ (f : Filter) (p : Predicate R), f.compile R = .ok p → ∀ item,
      (∀ accessor r literal, (accessor, .relation r literal) ∈ p.root.leaves →
        (R.read accessor item).kind = literal.kind ∧
        ((R.read accessor item).compare literal = none ↔ (R.read accessor item).IsNaN ∨ literal.IsNaN)) ∧
      (∀ accessor needle, (accessor, .contains needle) ∈ p.root.leaves →
        ∃ s, R.read accessor item = .text s ∧
          ((Test.contains needle).holds (.text s) ↔ needle.toList <:+: s.toList)) ∧
      (∀ leaf ∈ p.root.leaves, leaf.2.holds? (R.read leaf.1 item) = some (leaf.2.holds (R.read leaf.1 item))) ∧
      p.root.eval? (R.read · item) = some (p.accepts item)) := by
  refine ⟨fun v k w h => ?cast, fun hR f p h item => ?tests⟩
  case cast =>
    have hk := Value.kind_of_castTo h
    exact ⟨hk, hk ▸ w.castTo_kind⟩
  case tests =>
    have hl : ∀ leaf ∈ p.root.leaves, leaf.2.IsFor (R.read leaf.1 item).kind := fun leaf hm =>
      (Node.isForField_of_compile (Filter.of_compile h).right leaf hm).isFor hR item
    refine ⟨fun accessor r literal hm => ?relation, fun accessor needle hm => ?contains,
      fun leaf hm => Test.holds?_of_isFor (hl leaf hm), Node.eval?_of_leaves hl⟩
    case relation =>
      have hk : literal.kind = (R.read accessor item).kind := hl _ hm
      exact ⟨hk.symm, Value.compare_eq_none_iff hk.symm⟩
    case contains =>
      obtain ⟨s, hs⟩ := Value.exists_text_of_kind (hl _ hm)
      refine ⟨s, hs, ?_⟩
      rw [Test.holds, occursIn_eq_decide, decide_eq_true_iff]

-- Only the weight, which is a `nan`, has no order with its literal. The literal for the age came as a text.
theorem Predicate.never_falls_back_pet :
    let R : Registration (Fin 3) (Double × Int32 × String) :=
      ⟨"Pet", [⟨"weight", .float, 0⟩, ⟨"age", .integer .w32, 1⟩, ⟨"name", .text, 2⟩], fun
        | 0, pet => .float pet.1
        | 1, pet => Scalar.int32.fieldValue pet.2.1
        | 2, pet => .text pet.2.2⟩
    let f := Filter.empty
      |>.add "weight" (.relation .notEqual) (.float (.number false .zero))
      |>.add "age" (.relation .less) (.text "10")
      |>.or "name" .contains (.text "rex")
    let pet : Double × Int32 × String := (.nan, 7, "rex")
    ∃ p, f.compile R = .ok p ∧ (R.read 0 pet).compare (.float (.number false .zero)) = none ∧
      (R.read 1 pet).compare (.integer .w32 10 (by decide)) ≠ none ∧
      p.root.eval? (R.read · pet) = some (p.accepts pet) := by
  intro R f pet
  have hR : R.IsTyped := by
    intro field hf item
    simp only [R, List.mem_cons, List.not_mem_nil, or_false] at hf
    obtain rfl | rfl | rfl := hf <;> rfl
  have ⟨hr, _, _, he⟩ := (never_falls_back R).right hR f _ rfl pet
  refine ⟨_, rfl, (hr 0 .notEqual _ (by decide)).right.mpr (.inl trivial), ?_, he⟩
  exact fun hn => (hr 1 .less _ (by decide)).right.mp hn |>.elim id id

end RecordFilter
