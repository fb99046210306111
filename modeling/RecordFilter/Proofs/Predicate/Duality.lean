import RecordFilter.Proofs.Predicate.Parallel
import RecordFilter.Proofs.Value.Compare

namespace RecordFilter

-- There is no operator for a text that is not contained.
def Operator.complement : Operator → Operator
  | relation r => relation r.complement
  | contains   => contains

theorem Kind.supports_complement_iff {k : Kind} {operator : Operator} :
    k.Supports operator.complement ↔ k.Supports operator := by
  cases operator
  case relation r => simp only [Operator.complement, Supports, Relation.isOrdering_complement_iff]
  case contains   => rfl

def Connective.dual : Connective → Connective
  | and => or
  | or  => and

theorem Connective.join_dual (c : Connective) (a b : Bool) : c.dual.join (!a) (!b) = !c.join a b := by
  cases c <;> cases a <;> cases b <;> rfl

def Condition.dual (c : Condition) : Condition :=
  ⟨c.operator.complement, c.value, c.connective.dual⟩

namespace Filter

def dualEntry (entry : String × Condition) : String × Condition :=
  (entry.1, entry.2.dual)

def dual (f : Filter) : Filter where
  entries := f.entries.map dualEntry
  nodup   := by rw [List.map_map]; exact f.nodup

end Filter

variable {κ ρ : Type} {R : Registration κ ρ}

-- Whether the value in the field is of the declared kind, and neither it nor the literal is a `nan`.
def Registration.Comparable (R : Registration κ ρ) (item : ρ) (entry : String × Condition) : Prop :=
  ∀ field literal, R.field? entry.1 = some field → entry.2.value.castTo field.kind = .ok literal →
    (R.read field.accessor item).kind = field.kind ∧ ¬ (R.read field.accessor item).IsNaN ∧ ¬ literal.IsNaN

-- Two nodes that say the opposite of each other, of the records with a property.
def Node.Opposite (R : Registration κ ρ) (I : ρ → Prop) (m n : Node κ) : Prop :=
  ∀ item, I item → n.eval (R.read · item) = !m.eval (R.read · item)

namespace Filter

variable {f : Filter} {I : ρ → Prop}

theorem registered_dual (f : Filter) (R : Registration κ ρ) : f.dual.registered R = (f.registered R).map dualEntry := by
  rw [registered, dual, List.filter_map]
  rfl

theorem alike_compile_dualEntry {entry : String × Condition} {field : Field κ} (hf : R.field? entry.1 = some field)
    (hc : entry.2.operator ≠ .contains) (hI : ∀ item, I item → entry.2.operator.IsOrdering → R.Comparable item entry) :
    Alike (fun _ _ => True) (Node.Opposite R I) (Node.compile R (.ofEntry entry))
      (Node.compile R (.ofEntry (dualEntry entry))) := by
  have hd : R.field? (dualEntry entry).1 = some field := hf
  rw [Node.compile_ofEntry hf, Node.compile_ofEntry hd, Test.compile_eq, Test.compile_eq]
  simp only [dualEntry, Condition.dual, Kind.supports_complement_iff]
  by_cases hs : field.kind.Supports entry.2.operator
  case neg => simp only [if_neg hs]; exact .error trivial
  case pos =>
    simp only [if_pos hs]
    cases hl : entry.2.value.castTo field.kind
    case error cause => exact .error trivial
    case ok literal =>
      cases ho : entry.2.operator
      case contains => exact absurd ho hc
      case relation r =>
        refine .ok fun item hi => Relation.holds_complement fun hr => ?_
        have ⟨hk, hv, hn⟩ := hI item hi (ho ▸ hr) field literal hf hl
        exact Value.exists_compare (hk.trans (Value.kind_of_castTo hl).symm) hv hn

theorem parallel_dualEntry {entry : String × Condition} (hr : R.Registers entry.1)
    (hc : entry.2.operator ≠ .contains) (hI : ∀ item, I item → entry.2.operator.IsOrdering → R.Comparable item entry) :
    Node.Parallel R R (fun _ _ => True) (Node.Opposite R I) entry (dualEntry entry) where
  compile :=
    have ⟨_, hf⟩ := Option.isSome_iff_exists.mp (Registration.isSome_field?_iff.mpr hr)
    alike_compile_dualEntry hf hc hI
  join hl hm item hi := by
    rw [Node.eval_join, Node.eval_join, hl item hi, hm item hi]
    exact Connective.join_dual ..

theorem alike_compile_dual (hm : f.registered R ≠ []) (hc : ∀ entry ∈ f.registered R, entry.2.operator ≠ .contains)
    (hI : ∀ item, I item → ∀ entry ∈ f.registered R, entry.2.operator.IsOrdering → R.Comparable item entry) :
    Alike (fun _ _ => True) (fun p q => ∀ item, I item → q.accepts item = !p.accepts item) (f.compile R)
      (f.dual.compile R) := by
  have hp : List.Forall₂ (Node.Parallel R R (fun _ _ => True) (Node.Opposite R I)) (f.registered R)
      (f.dual.registered R) := by
    rw [registered_dual, List.forall₂_map_right_iff, List.forall₂_same]
    intro entry he
    have hr : R.Registers entry.1 := of_decide_eq_true (List.mem_filter.mp he).right
    exact parallel_dualEntry hr (hc entry he) fun item hi => hI item hi entry he
  exact (alike_compile hp fun he => absurd he hm).mono fun p q h => h

end Filter

-- A filter without conditions that count accepts everything, and so does its dual.
theorem Predicate.accepts_dual {f : Filter} (hm : ∃ entry ∈ f.entries, R.Registers entry.1)
    (hc : ∀ entry ∈ f.registered R, entry.2.operator ≠ .contains) :
    ((∃ p, f.compile R = .ok p) ↔ ∃ q, f.dual.compile R = .ok q) ∧
    ∀ p q, f.compile R = .ok p → f.dual.compile R = .ok q → ∀ item,
      (∀ entry ∈ f.registered R, entry.2.operator.IsOrdering → R.Comparable item entry) →
      q.accepts item = !p.accepts item := by
  have ⟨entry, he, hr⟩ := hm
  have hm : f.registered R ≠ [] := List.ne_nil_of_mem (List.mem_filter.mpr ⟨he, decide_eq_true hr⟩)
  have h := Filter.alike_compile_dual hm hc fun item hi => hi
  constructor
  case left => exact h.exists_ok_iff
  case right =>
    intro p q hp hq
    rw [hp, hq] at h
    exact h.of_ok

-- A `nan` where only equality is asked for, a field that does not hold what it declares, and a condition on another
-- type make no difference.
theorem Predicate.accepts_dual_pet :
    let R : Registration Nat (Nat → Value) :=
      ⟨"Pet", [⟨"weight", .float, 0⟩, ⟨"age", .integer .w32, 1⟩, ⟨"name", .text, 2⟩], fun slot pet => pet slot⟩
    let f := Filter.empty
      |>.add "owner" .contains (.text "Kim")
      |>.add "weight" (.relation .equal) (.float .nan)
      |>.or "age" (.relation .less) (.text "10")
      |>.add "name" (.relation .notEqual) (.text "rex")
    let pet : Nat → Value
      | 0 => .float .nan
      | 1 => .integer .w32 7 (by decide)
      | _ => .bool true
    ∃ p q : Predicate R, f.compile R = .ok p ∧ f.dual.compile R = .ok q ∧ p.accepts pet ∧
      q.accepts pet = !p.accepts pet := by
  intro R f pet
  have hm : ∃ entry ∈ f.entries, R.Registers entry.1 := by decide
  have hc : ∀ entry ∈ f.registered R, entry.2.operator ≠ .contains := by decide
  have ho : ∀ entry ∈ f.registered R, entry.2.operator.IsOrdering →
      entry = ("age", ⟨.relation .less, .text "10", .or⟩) := by decide
  refine ⟨_, _, rfl, rfl, rfl, (accepts_dual hm hc).right _ _ rfl rfl pet fun entry he hr => ?_⟩
  rw [ho entry he hr]
  intro field literal hf hl
  cases hf
  cases hl
  exact ⟨rfl, id, id⟩

end RecordFilter
