import RecordFilter.Proofs.Filter.Interference
import RecordFilter.Proofs.Predicate.Compile
import RecordFilter.Proofs.Declaration.Acceptance

namespace RecordFilter

variable {κ ρ : Type} {R : Registration κ ρ}

namespace Registration

-- Whether a field is registered, and no field before it has its accessor.
def IsFirst (R : Registration κ ρ) (field : Field κ) : Prop :=
  ∃ before after, R.fields = before ++ field :: after ∧ ∀ other ∈ before, other.accessor ≠ field.accessor

variable {field : Field κ}

theorem accessorName?_of_isFirst [DecidableEq κ] (h : R.IsFirst field) :
    R.accessorName? field.accessor = some field.name := by
  have ⟨before, after, hf, hb⟩ := h
  have hn : before.find? (·.accessor = field.accessor) = none := by simpa using hb
  simp [accessorName?, hf, List.find?_append, hn]

theorem accessorName?_eq_none_iff [DecidableEq κ] {accessor : κ} :
    R.accessorName? accessor = none ↔ ∀ field ∈ R.fields, field.accessor ≠ accessor := by
  simp [accessorName?]

theorem field?_of_nodup (hn : (R.fields.map Field.name).Nodup) (h : field ∈ R.fields) :
    R.field? field.name = some field :=
  find?_of_nodup hn h

end Registration

-- Whether a test of the predicate, with the accessor that it reads, stands among all its tests where the condition
-- stands among those of the filter that count.
def Predicate.Tests (p : Predicate R) (f : Filter) (entry : String × Condition) (leaf : κ × Test) : Prop :=
  ∃ i : Nat, (f.registered R)[i]? = some entry ∧ p.root.leaves[i]? = some leaf

namespace Filter

variable {f : Filter} {name : String} {c : Condition}

theorem mem_write_self (name : String) (c : Condition) (entries : List (String × Condition)) :
    (name, c) ∈ write name c entries := by
  induction entries
  case nil => simp [write]
  case cons entry entries ih => by_cases h : entry.1 = name <;> simp [write, h, ih]

theorem tests_of_compile {field : Field κ} (hf : R.field? name = some field) (hm : (name, c) ∈ f.entries)
    {p : Predicate R} (h : f.compile R = .ok p) :
    ∃ literal, c.value.castTo field.kind = .ok literal ∧
      p.Tests f (name, c) (field.accessor, .ofLiteral c.operator literal) := by
  rw [compile_eq] at h
  cases hn : Node.compile R (f.selection R) <;> rw [hn] at h <;> cases h
  have hr : R.Registers name := Registration.isSome_field?_iff.mp (hf ▸ rfl)
  have hm : (name, c) ∈ f.registered R := List.mem_filter.mpr ⟨hm, decide_eq_true hr⟩
  obtain ⟨i, hg⟩ := List.mem_iff_getElem?.mp hm
  have hl := Node.leaves_of_compile hn
  rw [selection, Selection.comparisons_ofEntries, List.forall₂_map_left_iff, List.forall₂_iff_get] at hl
  obtain ⟨hi, hv⟩ := List.getElem?_eq_some_iff.mp hg
  obtain ⟨field', hf', ha, ht⟩ := hl.right i hi (hl.left ▸ hi)
  rw [List.get_eq_getElem, hv] at hf' ht
  cases hf.symm.trans hf'
  obtain ⟨hs, literal, hc, ht⟩ := Test.of_compile ht
  exact ⟨literal, hc, i, hg, List.getElem?_eq_some_iff.mpr ⟨hl.left ▸ hi, Prod.ext ha ht⟩⟩

end Filter

namespace Operation

variable {c : Connective} {operator : Operator} {value : Value} {name : String}

theorem perform_typed_of_isFirst [DecidableEq κ] {field : Field κ} (h : R.IsFirst field) (f : Filter) :
    (typed R field.accessor c operator value).perform f = (named c field.name operator value).perform f := by
  rw [perform_typed, Registration.accessorName?_of_isFirst h]
  rfl

theorem perform_typed_of_absent [DecidableEq κ] {accessor : κ} (h : ∀ field ∈ R.fields, field.accessor ≠ accessor)
    (f : Filter) : (typed R accessor c operator value).perform f = .error (.invalidAccessor R.collection) := by
  rw [perform_typed, Registration.accessorName?_eq_none_iff.mpr h]
  rfl

theorem perform_typed_isOk_iff [DecidableEq κ] {accessor : κ} {f : Filter} :
    (∃ g, (typed R accessor c operator value).perform f = .ok g) ↔ ∃ field ∈ R.fields, field.accessor = accessor := by
  constructor
  case mp =>
    rintro ⟨g, h⟩
    by_contra hn
    rw [perform_typed_of_absent (by simpa using hn)] at h
    cases h
  case mpr =>
    intro h
    cases ha : R.accessorName? accessor
    case none =>
      have hn := Registration.accessorName?_eq_none_iff.mp ha
      exact absurd h (by simpa using hn)
    case some name => exact ⟨_, by rw [perform_typed, ha]; exact perform_named f⟩

theorem mem_entries_foldl_put {ops : List Operation} (h : ∀ op ∈ ops, op.Avoids (· = name)) (f : Filter)
    (c : Condition) : (name, c) ∈ (ops.foldl next (f.put name c)).entries := by
  have hm : (name, c) ∈ (f.put name c).entries.filter (·.1 = name) :=
    List.mem_filter.mpr ⟨Filter.mem_write_self .., decide_eq_true rfl⟩
  rw [← filter_entries_foldl_of_avoids h] at hm
  exact List.mem_of_mem_filter hm

-- Only where names repeat can the accessor and the name lead to different fields, and no declaration lets them repeat.
theorem typed_coincides [DecidableEq κ] (R : Registration κ ρ) (accessor : κ) (c : Connective) (operator : Operator)
    (value : Value) (f : Filter) :
    let op := typed R accessor c operator value
    ((∃ g, op.perform f = .ok g) ↔ ∃ field ∈ R.fields, field.accessor = accessor) ∧
    ((∀ field ∈ R.fields, field.accessor ≠ accessor) →
      op.perform f = .error (.invalidAccessor R.collection) ∧ op.next f = f) ∧
    (∀ field, R.IsFirst field → field.accessor = accessor →
      op.perform f = (named c field.name operator value).perform f ∧
      ((R.fields.map Field.name).Nodup →
        ∀ ops : List Operation, (∀ later ∈ ops, later.Avoids (· = field.name)) →
          let g := ops.foldl next (op.next f)
          ∀ p, g.compile R = .ok p → ∃ literal, value.castTo field.kind = .ok literal ∧
            p.Tests g (field.name, ⟨operator, value, c⟩) (accessor, .ofLiteral operator literal))) ∧
    (∀ (d : Declaration) (description : Description), d.describe = .ok description →
      R.fields.map Field.name = description.fields.map (·.name) → (R.fields.map Field.name).Nodup) := by
  intro op
  refine ⟨perform_typed_isOk_iff, ?failure, ?first, ?declared⟩
  case failure =>
    intro h
    have he : op.perform f = .error (.invalidAccessor R.collection) := perform_typed_of_absent h f
    exact ⟨he, by rw [next, he]⟩
  case first =>
    intro field hf ha
    subst ha
    have he : op.perform f = (named c field.name operator value).perform f := perform_typed_of_isFirst hf f
    refine ⟨he, ?_⟩
    intro hn ops hops g p hp
    obtain ⟨before, after, hR, _⟩ := hf
    have hm : field ∈ R.fields := hR ▸ List.mem_append_right _ List.mem_cons_self
    have hg : g = ops.foldl next (f.put field.name ⟨operator, value, c⟩) := by
      simp only [g, next, he, perform_named]
    exact Filter.tests_of_compile (Registration.field?_of_nodup hn hm) (hg ▸ mem_entries_foldl_put hops f _) hp
  case declared =>
    intro d description hd hR
    rw [hR]
    exact Declaration.nodup_of_describe hd

-- Two fields share an accessor. The later operations write under the name of the other one.
theorem typed_coincides_age :
    let R : Registration Nat (Nat → Value) :=
      ⟨"Pet", [⟨"age", .integer .w32, 0⟩, ⟨"years", .integer .w64, 0⟩, ⟨"name", .text, 1⟩], fun slot pet => pet slot⟩
    let f := after [
      add "name" .contains (.text "rex"),
      typed R 0 .or (.relation .less) (.text "10"),
      setEqual "years" (.bool true)]
    ∃ p, f.compile R = .ok p ∧ (0, .relation .less (.integer .w32 10 (by decide))) ∈ p.root.leaves := by
  intro R f
  have h := (typed_coincides R 0 .or (.relation .less) (.text "10") (after [add "name" .contains (.text "rex")]))
  have hf : R.IsFirst ⟨"age", .integer .w32, 0⟩ := ⟨[], _, rfl, nofun⟩
  have ⟨literal, hc, i, hg, hl⟩ := (h.right.right.left _ hf rfl).right (by decide)
    [setEqual "years" (.bool true)] (by decide) _ rfl
  cases hc
  exact ⟨_, rfl, List.mem_of_getElem? hl⟩

end Operation
end RecordFilter
