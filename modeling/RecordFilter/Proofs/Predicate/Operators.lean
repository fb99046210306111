import RecordFilter.Proofs.Predicate.Exact
import RecordFilter.Proofs.Predicate.Fault
import RecordFilter.Proofs.Value.Compare
import RecordFilter.Proofs.Value.Text
import Mathlib.Data.String.Basic

namespace RecordFilter

namespace Relation

-- The relation that is named after an order.
def ofOrdering : Ordering → Relation
  | .lt => less
  | .eq => equal
  | .gt => greater

def alternatives : List Relation :=
  [less, equal, greater]

-- Outcomes of the relations between two values that fit together, whether or not the values are in an order.
structure Consistent (outcome : Relation → Bool) (ordered : Prop) : Prop where
  notEqual       : outcome notEqual = !outcome equal
  lessOrEqual    : outcome lessOrEqual = (outcome less || outcome equal)
  greaterOrEqual : outcome greaterOrEqual = (outcome greater || outcome equal)
  unique         : ∀ r ∈ alternatives, ∀ s ∈ alternatives, outcome r → outcome s → r = s
  exists_iff     : (∃! r, r ∈ alternatives ∧ outcome r) ↔ ordered
  unordered      : ¬ ordered → ∀ r, outcome r ↔ r = .notEqual

variable {o : Option Ordering}

theorem ofOrdering_mem_alternatives (c : Ordering) : ofOrdering c ∈ alternatives := by
  cases c <;> decide

theorem holds_iff_of_mem_alternatives {r : Relation} (h : r ∈ alternatives) :
    r.holds o ↔ ∃ c, o = some c ∧ ofOrdering c = r := by
  simp only [alternatives, List.mem_cons, List.not_mem_nil, or_false] at h
  obtain rfl | rfl | rfl := h
  all_goals
    cases o
    case none   => simp [holds]
    case some c => cases c <;> simp [holds, ofOrdering]

theorem consistent_holds {ordered : Prop} (h : (∃ c, o = some c) ↔ ordered) : Consistent (·.holds o) ordered where
  notEqual       := rfl
  lessOrEqual    := rfl
  greaterOrEqual := rfl
  unique r hr s hs hor hos := by
    obtain ⟨c, hc, rfl⟩ := (holds_iff_of_mem_alternatives hr).mp hor
    obtain ⟨d, hd, rfl⟩ := (holds_iff_of_mem_alternatives hs).mp hos
    cases hc.symm.trans hd
    rfl
  exists_iff := by
    rw [← h]
    constructor
    case mp =>
      rintro ⟨r, ⟨hr, ho⟩, -⟩
      have ⟨c, hc, _⟩ := (holds_iff_of_mem_alternatives hr).mp ho
      exact ⟨c, hc⟩
    case mpr =>
      rintro ⟨c, rfl⟩
      refine ⟨ofOrdering c, ⟨ofOrdering_mem_alternatives c, ?_⟩, fun r ⟨hr, ho⟩ => ?_⟩
      · exact (holds_iff_of_mem_alternatives (ofOrdering_mem_alternatives c)).mpr ⟨c, rfl, rfl⟩
      · obtain ⟨d, hd, rfl⟩ := (holds_iff_of_mem_alternatives hr).mp ho
        cases hd
        rfl
  unordered hn r := by
    cases o
    case none   => exact r.holds_none_iff
    case some c => exact absurd (h.mp ⟨c, rfl⟩) hn

end Relation

namespace Value

variable {v w : Value}

theorem kind_eq_of_compare {c : Ordering} (h : v.compare w = some c) : v.kind = w.kind := by
  cases v <;> cases w <;> simp [compare, kind] at h ⊢
  exact h.left

theorem exists_compare_iff : (∃ c, v.compare w = some c) ↔ v.kind = w.kind ∧ ¬ v.IsNaN ∧ ¬ w.IsNaN where
  mp := by
    rintro ⟨c, h⟩
    have hk := kind_eq_of_compare h
    have hn := mt (compare_eq_none_iff hk).mpr (h ▸ Option.some_ne_none c)
    exact ⟨hk, not_or.mp hn⟩
  mpr h := exists_compare h.left h.right.left h.right.right

end Value

theorem isInfix_toList_iff {s t : String} : t.toList <:+: s.toList ↔ ∃ before after, s = before ++ t ++ after where
  mp := by
    rintro ⟨before, after, h⟩
    refine ⟨String.ofList before, String.ofList after, String.toList_inj.mp ?_⟩
    simp [← h]
  mpr := by
    rintro ⟨before, after, rfl⟩
    exact ⟨before.toList, after.toList, by simp⟩

namespace Operator

variable {s t : String}

theorem holds_equal_iff : (relation .equal).holds (.text s) (.text t) ↔ s = t :=
  Relation.equal.holds_compare_iff

theorem holds_contains_iff : contains.holds (.text s) (.text t) ↔ ∃ before after, s = before ++ t ++ after :=
  decide_eq_true_iff.trans isInfix_toList_iff

end Operator

variable {κ ρ : Type} {R : Registration κ ρ} {name : String} {field : Field κ} {operator : Operator}
  {connective : Connective} {v : Value}

namespace Filter

theorem compile_put_of_error {cause : CastError} (hf : R.field? name = some field)
    (hs : field.kind.Supports operator) (hc : v.castTo field.kind = .error cause) :
    (empty.put name ⟨operator, v, connective⟩).compile R = .error (.typeMismatch R.collection name cause) := by
  rw [compile_of_entry rfl hf, Test.compile_eq, if_pos hs, hc, Registration.name_of_field? hf]
  rfl

-- On a field of texts all operators are allowed, and every literal has a text.
theorem exists_compile_put_of_text (operator : Operator) (v : Value) (connective : Connective)
    (hf : R.field? name = some field) (hk : field.kind = .text) :
    ∃ p, (empty.put name ⟨operator, v, connective⟩).compile R = .ok p ∧
      ∀ item, p.accepts item = operator.holds (R.read field.accessor item) (.text v.toText) := by
  have hs : field.kind.Supports operator := by
    rw [hk]
    cases operator
    case relation r => exact fun _ => nofun
    case contains   => rfl
  have hl : v.castTo field.kind = .ok (.text v.toText) := hk ▸ v.castTo_text
  exact exists_compile_of_entry (c := ⟨operator, v, connective⟩) rfl hf hs hl

end Filter

-- Which errors there are is left to the literal, as all relations are allowed on fields that are not of truth values.
theorem Predicate.operators_consistent (hf : R.field? name = some field) (hk : field.kind ≠ .bool)
    (connective : Connective) :
    let f (operator : Operator) (v : Value) := Filter.empty.put name ⟨operator, v, connective⟩
    (∀ v,
      (∃ cause, v.castTo field.kind = .error cause ∧
        ∀ r, (f (.relation r) v).compile R = .error (.typeMismatch R.collection name cause)) ∨
      ∃ literal, v.castTo field.kind = .ok literal ∧ ∃ p : Relation → Predicate R,
        (∀ r, (f (.relation r) v).compile R = .ok (p r)) ∧
        ∀ item, Relation.Consistent (fun r => (p r).accepts item)
          ((R.read field.accessor item).kind = field.kind ∧ ¬ (R.read field.accessor item).IsNaN ∧
            ¬ literal.IsNaN)) ∧
    (field.kind = .text → ∃ p : Operator → Value → Predicate R,
      (∀ operator v, (f operator v).compile R = .ok (p operator v)) ∧
      ∀ item s, R.read field.accessor item = .text s →
        (∀ v, (p .contains v).accepts item ↔ ∃ before after, s = before ++ v.toText ++ after) ∧
        (∀ v, (p (.relation .equal) v).accepts item → (p .contains v).accepts item) ∧
        (∀ v w, (p .contains v).accepts item → (∃ before after, v.toText = before ++ w.toText ++ after) →
          (p .contains w).accepts item) ∧
        (p .contains (.text "")).accepts item) := by
  intro f
  constructor
  case left =>
    intro v
    have hs (r : Relation) : field.kind.Supports (.relation r) := fun _ => hk
    cases hl : v.castTo field.kind
    case error cause => exact .inl ⟨cause, rfl, fun r => Filter.compile_put_of_error hf (hs r) hl⟩
    case ok literal =>
      choose p hp ha using fun r => Filter.exists_compile_of_entry (f := f (.relation r) v) rfl hf (hs r) hl
      refine .inr ⟨literal, rfl, p, hp, fun item => ?_⟩
      simp only [ha]
      apply Relation.consistent_holds
      rw [Value.exists_compare_iff, Value.kind_of_castTo hl]
  case right =>
    intro ht
    choose p hp ha using fun operator v => Filter.exists_compile_put_of_text operator v connective hf ht
    refine ⟨p, hp, fun item s hi => ?_⟩
    have hc (v : Value) : (p .contains v).accepts item ↔ ∃ before after, s = before ++ v.toText ++ after := by
      rw [ha, hi, Operator.holds_contains_iff]
    refine ⟨hc, fun v he => ?equal, fun v w hv hw => ?part, ?empty⟩
    case equal =>
      rw [ha, hi, Operator.holds_equal_iff] at he
      exact (hc v).mpr ⟨"", "", by simp [he]⟩
    case part =>
      obtain ⟨before, after, hs⟩ := (hc v).mp hv
      obtain ⟨before', after', hv⟩ := hw
      refine (hc w).mpr ⟨before ++ before', after' ++ after, ?_⟩
      simp only [hs, hv, String.append_assoc]
    case empty => exact (hc _).mpr ⟨"", s, by simp [Value.toText]⟩

-- The age is not the number that it is declared to be, and is unequal to every number.
theorem Predicate.operators_consistent_pet :
    let R : Registration Bool (Value × String) :=
      ⟨"Pet", [⟨"age", .integer .w32, true⟩, ⟨"name", .text, false⟩], fun age pet => if age then pet.1 else .text pet.2⟩
    let pet : Value × String := (.bool true, "tyrannosaurus rex")
    (∃ p : Relation → Predicate R,
      (∀ r, (Filter.empty.put "age" ⟨.relation r, .text "10", .or⟩).compile R = .ok (p r)) ∧
      ∀ r, (p r).accepts pet ↔ r = .notEqual) ∧
    ∃ p, (Filter.empty.put "name" ⟨.contains, .text "saur", .or⟩).compile R = .ok p ∧ p.accepts pet := by
  intro R pet
  have hf : R.field? "age" = some ⟨"age", .integer .w32, true⟩ := rfl
  have hg : R.field? "name" = some ⟨"name", .text, false⟩ := rfl
  have ha := operators_consistent hf nofun .or
  have hn := operators_consistent hg nofun .or
  constructor
  case left =>
    obtain ⟨_, hc, _⟩ | ⟨_, _, p, hp, h⟩ := ha.left (.text "10")
    case inl => cases hc
    case inr => exact ⟨p, hp, (h pet).unordered fun ho => nomatch ho.left⟩
  case right =>
    have ⟨p, hp, h⟩ := hn.right rfl
    have ⟨hc, _⟩ := h pet _ rfl
    exact ⟨_, hp _ _, (hc _).mpr ⟨"tyranno", "us rex", by decide⟩⟩

end RecordFilter
