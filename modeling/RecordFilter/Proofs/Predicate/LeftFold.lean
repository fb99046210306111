import RecordFilter.Proofs.Predicate.Compile
import Mathlib.Data.List.Infix

namespace RecordFilter

theorem occursIn_eq_decide (needle cs : List Char) : occursIn needle cs = decide (needle <:+: cs) := by
  induction cs
  case nil => cases needle <;> simp [occursIn]
  case cons c cs ih =>
    have : needle.isPrefixOf (c :: cs) = decide (needle <+: c :: cs) := by
      rw [Bool.eq_iff_iff, List.isPrefixOf_iff_prefix, decide_eq_true_iff]
    simp [occursIn, ih, List.infix_cons_iff, this]

-- What an operator says of a field's value and a literal.
def Operator.holds : Operator → Value → Value → Bool
  | relation r, value,   literal => r.holds (value.compare literal)
  | contains,   .text s, .text t => t.toList <:+: s.toList
  | contains,   _,       _       => false

def joinNext (before : Bool) (next : Connective × Bool) : Bool :=
  next.1.join before next.2

-- The first outcome has nothing before it to join, and without outcomes nothing is ruled out.
def leftFold : List (Connective × Bool) → Bool
  | []              => true
  | first :: others => others.foldl joinNext first.2

variable {κ ρ : Type} {R : Registration κ ρ}

-- What a condition says of a record, unless its name is not registered or its literal cannot be cast.
def Registration.test? (R : Registration κ ρ) (item : ρ) (entry : String × Condition) : Option Bool := do
  let field ← R.field? entry.1
  let literal ← (entry.2.value.castTo field.kind).toOption
  return entry.2.operator.holds (R.read field.accessor item) literal

def Registration.outcome? (R : Registration κ ρ) (item : ρ) (entry : String × Condition) :
    Option (Connective × Bool) :=
  (R.test? item entry).map (entry.2.connective, ·)

def Filter.outcome? (f : Filter) (R : Registration κ ρ) (item : ρ) : Option Bool :=
  ((f.registered R).mapM (R.outcome? item)).map leftFold

theorem Test.holds_ofLiteral {k : Kind} {operator : Operator} {literal : Value} (hs : k.Supports operator)
    (hk : literal.kind = k) (value : Value) :
    (ofLiteral operator literal).holds value = operator.holds value literal := by
  cases operator
  case relation r => rfl
  case contains =>
    have ⟨needle, hn⟩ := Value.exists_text_of_kind (hk.trans hs)
    subst hn
    cases value
    case text s => exact occursIn_eq_decide ..
    all_goals rfl

namespace Node

theorem test?_of_compile {entry : String × Condition} {node : Node κ} (h : compile R (.ofEntry entry) = .ok node)
    (item : ρ) : R.test? item entry = some (node.eval (R.read · item)) := by
  have ⟨field, test, hf, ht, hn⟩ := of_compile_ofEntry h
  have ⟨hs, literal, hc, ht⟩ := Test.of_compile ht
  subst hn ht
  simp [Registration.test?, hf, hc, Except.toOption, eval, Test.holds_ofLiteral hs (Value.kind_of_castTo hc)]

-- The induction is on the conditions that are still to be joined, whatever was joined before them.
theorem outcomes_of_compile_foldl {selection : Selection} {entries : List (String × Condition)} {node : Node κ}
    (h : compile R (entries.foldl .extend selection) = .ok node) (item : ρ) :
    ∃ start outcomes, compile R selection = .ok start ∧ entries.mapM (R.outcome? item) = some outcomes ∧
      node.eval (R.read · item) = outcomes.foldl joinNext (start.eval (R.read · item)) := by
  induction entries generalizing selection
  case nil => exact ⟨node, [], h, rfl, rfl⟩
  case cons entry entries ih =>
    have ⟨extended, outcomes, he, ho, hn⟩ := ih h
    have ⟨start, right, hl, hr, hj⟩ := of_compile_extend he
    have ht := test?_of_compile hr item
    refine ⟨start, (entry.2.connective, right.eval (R.read · item)) :: outcomes, hl, ?_, ?_⟩
    · simp [List.mapM_cons, Registration.outcome?, ht, ho]
    · rw [hn, hj, eval_join, List.foldl_cons, joinNext]

end Node

-- All conditions that count have an outcome then, and the predicate accepts what their left fold does.
theorem Predicate.accepts_eq_leftFold {f : Filter} {p : Predicate R} (h : f.compile R = .ok p) (item : ρ) :
    f.outcome? R item = some (p.accepts item) := by
  rw [Filter.compile_eq] at h
  cases hn : Node.compile R (f.selection R) <;> rw [hn] at h <;> cases h
  rw [Filter.selection] at hn
  rw [Filter.outcome?]
  cases he : f.registered R <;> rw [he] at hn
  case nil => cases hn; rfl
  case cons entry entries =>
    have ⟨start, outcomes, hs, ho, hn⟩ := Node.outcomes_of_compile_foldl hn item
    have ht := Node.test?_of_compile hs item
    simp [List.mapM_cons, Registration.outcome?, ht, ho, leftFold, accepts, hn]

-- Of the two fields of one name the first one counts, and the condition on the owner does not count at all. With a
-- precedence between the connectives the pet would be accepted for its age.
theorem Predicate.accepts_eq_leftFold_pet :
    let R : Registration Nat (Nat → Value) :=
      ⟨"Pet", [⟨"age", .integer .w32, 0⟩, ⟨"name", .text, 1⟩, ⟨"age", .bool, 2⟩, ⟨"tame", .bool, 2⟩],
        fun slot pet => pet slot⟩
    let f := Filter.empty
      |>.add "owner" .contains (.bool true)
      |>.or "age" (.relation .less) (.text " 10 ")
      |>.or "name" .contains (.text "rex")
      |>.add "tame" (.relation .equal) (.integer .w16 0 (by decide))
    let pet : Nat → Value
      | 0 => .integer .w32 7 (by decide)
      | 1 => .text "tyrannosaurus rex"
      | _ => .bool true
    ∃ p : Predicate R, f.compile R = .ok p ∧ f.outcome? R pet = some (p.accepts pet) ∧ p.accepts pet = false :=
  ⟨_, rfl, accepts_eq_leftFold rfl _, rfl⟩

end RecordFilter
