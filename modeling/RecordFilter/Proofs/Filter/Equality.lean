import RecordFilter.Proofs.Filter.History
import RecordFilter.Proofs.Predicate.Parallel
import RecordFilter.Proofs.Value.Compare

namespace RecordFilter

theorem Value.not_isNaN_of_equals {v w : Value} (h : v.equals w) : ¬ v.IsNaN ∧ ¬ w.IsNaN := by
  cases equals_iff.mp h
  case inl h => exact ⟨h.right, h.left ▸ h.right⟩
  case inr h =>
    obtain ⟨negative, rfl, rfl⟩ := h
    exact ⟨id, id⟩

theorem Value.equals_self {v : Value} (h : ¬ v.IsNaN) : v.equals v :=
  equals_iff.mpr (.inl ⟨rfl, h⟩)

theorem Selection.equals_join {c : Connective} {left left' right right' : Selection} (hl : left.equals left')
    (hr : right.equals right') : (join c left right).equals (join c left' right') := by
  cases c <;> simp [join, equals, hl, hr]

namespace Filter

-- What equality asks of two entries.
structure Coincide (a b : String × Condition) : Prop where
  name       : a.1 = b.1
  operator   : a.2.operator = b.2.operator
  value      : a.2.value.equals b.2.value
  connective : a.2.connective = b.2.connective

theorem coincide_iff {a b : String × Condition} : (a.1 == b.1 && a.2.equals b.2) ↔ Coincide a b := by
  simp only [Condition.equals, Bool.and_eq_true, beq_iff_eq]
  constructor
  case mp  => exact fun ⟨hn, ⟨ho, hv⟩, hc⟩ => ⟨hn, ho, hv, hc⟩
  case mpr => exact fun h => ⟨h.name, ⟨h.operator, h.value⟩, h.connective⟩

theorem Coincide.self {entry : String × Condition} (h : ¬ entry.2.value.IsNaN) : Coincide entry entry :=
  ⟨rfl, rfl, Value.equals_self h, rfl⟩

theorem isEqv_iff_forall₂ {α : Type} {p : α → α → Bool} {as bs : List α} :
    as.isEqv bs p ↔ List.Forall₂ (fun a b => p a b) as bs := by
  induction as generalizing bs
  case nil => cases bs <;> simp [List.isEqv]
  case cons a as ih => cases bs <;> simp [List.isEqv, ih]

theorem equals_iff {f g : Filter} : f.equals g ↔ List.Forall₂ Coincide f.entries g.entries := by
  simp only [equals, isEqv_iff_forall₂, coincide_iff]

section Entries

variable {entries others : List (String × Condition)}

theorem not_isNaN_of_forall₂ (h : List.Forall₂ Coincide entries others) :
    (∀ entry ∈ entries, ¬ entry.2.value.IsNaN) ∧ ∀ entry ∈ others, ¬ entry.2.value.IsNaN := by
  induction h
  case nil => simp
  case cons ha _ ih =>
    have ⟨hv, hw⟩ := Value.not_isNaN_of_equals ha.value
    exact ⟨List.forall_mem_cons.mpr ⟨hv, ih.left⟩, List.forall_mem_cons.mpr ⟨hw, ih.right⟩⟩

theorem map_fst_eq_of_forall₂ (h : List.Forall₂ Coincide entries others) :
    entries.map Prod.fst = others.map Prod.fst := by
  induction h
  case nil           => rfl
  case cons ha _ ih => rw [List.map_cons, List.map_cons, ha.name, ih]

theorem rel_find? (h : List.Forall₂ Coincide entries others) (name : String) :
    Option.Rel Coincide (entries.find? (·.1 = name)) (others.find? (·.1 = name)) := by
  induction h
  case nil => exact .none
  case cons a b _ _ ha _ ih =>
    by_cases hn : a.1 = name
    case pos => simpa [hn, ha.name ▸ hn] using Option.Rel.some ha
    case neg => simpa [hn, ha.name ▸ hn] using ih

end Entries

section Answers

variable {f g : Filter}

theorem equals_put (h : f.equals g) {c : Condition} (hc : ¬ c.value.IsNaN) (name : String) :
    (f.put name c).equals (g.put name c) :=
  equals_iff.mpr (forall₂_write (fun _ _ ha => ha.name) (.self hc) (equals_iff.mp h))

theorem not_equals_of_isNaN {entry : String × Condition} (he : entry ∈ f.entries) (hv : entry.2.value.IsNaN) :
    ¬ f.equals g ∧ ¬ g.equals f where
  left h  := (not_isNaN_of_forall₂ (equals_iff.mp h)).left entry he hv
  right h := (not_isNaN_of_forall₂ (equals_iff.mp h)).right entry he hv

theorem names_eq_of_equals (h : f.equals g) : f.names = g.names :=
  map_fst_eq_of_forall₂ (equals_iff.mp h)

theorem alike_get (h : f.equals g) (name : String) :
    Alike Eq (fun a b => a.1.equals b.1 ∧ a.2 = b.2) (f.get name) (g.get name) := by
  have hc := rel_find? (equals_iff.mp h) name
  rw [get, get, condition?, condition?]
  generalize f.entries.find? _ = a, g.entries.find? _ = b at hc ⊢
  cases hc
  case none    => exact .error rfl
  case some hc => exact .ok ⟨hc.value, hc.operator⟩

end Answers

section Selected

variable {entries others : List (String × Condition)}

theorem Coincide.equals_ofEntry {a b : String × Condition} (h : Coincide a b) :
    (Selection.ofEntry a).equals (.ofEntry b) := by
  simp [Selection.ofEntry, Selection.equals, h.name, h.operator, h.value]

theorem equals_foldl_extend (h : List.Forall₂ Coincide entries others) {s t : Selection} (hs : s.equals t) :
    (entries.foldl .extend s).equals (others.foldl .extend t) := by
  induction h generalizing s t
  case nil => exact hs
  case cons a b _ _ ha _ ih =>
    have he : (s.extend a).equals (t.extend b) := by
      rw [Selection.extend, Selection.extend, ha.connective]
      exact Selection.equals_join hs ha.equals_ofEntry
    exact ih he

theorem equals_ofEntries (h : List.Forall₂ Coincide entries others) :
    (Selection.ofEntries entries).equals (.ofEntries others) := by
  cases h
  case nil       => rfl
  case cons ha h => exact equals_foldl_extend h ha.equals_ofEntry

theorem equals_selection {κ ρ : Type} {f g : Filter} (h : f.equals g) (R : Registration κ ρ) :
    (f.selection R).equals (g.selection R) :=
  equals_ofEntries (forall₂_registered (fun _ _ hc => hc.name) (equals_iff.mp h) R)

end Selected

end Filter

namespace Operation

variable {f g : Filter}

-- Where no name is found, both of the filters report it.
theorem alike_perform_typed {κ ρ : Type} [DecidableEq κ] {R : Registration κ ρ} {accessor : κ} {c : Connective}
    {operator : Operator} {value : Value} (h : f.equals g)
    (hv : ∀ write ∈ (typed R accessor c operator value).write?, ¬ write.2.value.IsNaN) :
    Alike Eq (fun f' g' => f'.equals g') ((typed R accessor c operator value).perform f)
      ((typed R accessor c operator value).perform g) := by
  rw [write?_typed] at hv
  rw [perform_typed, perform_typed]
  cases ha : R.accessorName? accessor <;> rw [ha] at hv
  case none => exact .error rfl
  case some name =>
    rw [Option.elim_some, Option.elim_some, perform_named, perform_named]
    exact .ok (Filter.equals_put h (hv _ rfl) name)

theorem alike_perform (h : f.equals g) {op : Operation} (hv : ∀ write ∈ op.write?, ¬ write.2.value.IsNaN) :
    Alike Eq (fun f' g' => f'.equals g') (op.perform f) (op.perform g) := by
  cases op
  case new | clear               => exact .ok rfl
  case single                    => exact .ok (Filter.equals_put rfl (hv _ rfl) _)
  case add | or | set | setEqual => exact .ok (Filter.equals_put h (hv _ rfl) _)
  case addTyped                  => exact alike_perform_typed (c := .and) h hv
  case orTyped                   => exact alike_perform_typed (c := .or) h hv

theorem equals_next (h : f.equals g) {op : Operation} (hv : ∀ write ∈ op.write?, ¬ write.2.value.IsNaN) :
    (op.next f).equals (op.next g) := by
  have hp := alike_perform h hv
  rw [next, next]
  generalize op.perform f = x, op.perform g = y at hp ⊢
  cases hp
  case error => exact h
  case ok h  => exact h

theorem equals_foldl_next (h : f.equals g) {ops : List Operation}
    (hv : ∀ op ∈ ops, ∀ write ∈ op.write?, ¬ write.2.value.IsNaN) : (ops.foldl next f).equals (ops.foldl next g) := by
  induction ops generalizing f g
  case nil => exact h
  case cons op ops ih =>
    have ⟨ho, hv⟩ := List.forall_mem_cons.mp hv
    exact ih (equals_next h ho) hv

end Operation

variable {κ ρ : Type} {R : Registration κ ρ}

theorem Test.alike_compile {field : Field κ} {v w : Value} (h : v.OppositeZeros w) (hk : field.kind ≠ .text)
    (operator : Operator) :
    Alike Eq (fun s t => ∀ value, s.holds value = t.holds value) (compile R field operator v)
      (compile R field operator w) := by
  rw [compile_eq, compile_eq]
  by_cases hs : field.kind.Supports operator
  case neg => simp only [if_neg hs]; exact .error rfl
  case pos =>
    simp only [if_pos hs]
    cases Value.castTo_of_oppositeZeros hk h
    case inl hc => rw [hc]; exact .refl (fun _ => rfl) (fun _ _ => rfl) _
    case inr hc =>
      rw [hc.left, hc.right]
      cases operator
      case relation r => exact .ok fun value => congrArg r.holds (Value.compare_eq_of_oppositeZeros h value)
      case contains   => exact absurd hs hk

namespace Filter

variable {f g : Filter}

-- Whether the two filters have opposite zeros where the field holds texts.
def ZerosMeetTexts (R : Registration κ ρ) (f g : Filter) : Prop :=
  ∃ name c d field, (name, c) ∈ f.entries ∧ (name, d) ∈ g.entries ∧ c.value.OppositeZeros d.value ∧
    R.field? name = some field ∧ field.kind = .text

theorem Coincide.parallel {a b : String × Condition} (h : Coincide a b) {field : Field κ}
    (hf : R.field? a.1 = some field) (hz : a.2.value.OppositeZeros b.2.value → field.kind ≠ .text) :
    Node.Parallel R R Eq Node.Agree a b where
  compile := by
    rw [Node.compile_ofEntry hf, Node.compile_ofEntry (h.name ▸ hf), ← h.operator]
    cases Value.equals_iff.mp h.value
    case inl hv => rw [hv.left]; exact .refl (fun _ => rfl) Node.Agree.refl _
    case inr hv => exact (Test.alike_compile hv (hz hv) a.2.operator).map fun _ _ ht read => ht _
  join hl hr := h.connective ▸ hl.join _ hr

theorem alike_compile_of_equals (h : f.equals g) (hz : ¬ ZerosMeetTexts R f g) :
    Alike Eq (fun p q => ∀ item, p.accepts item = q.accepts item) (f.compile R) (g.compile R) := by
  have hp (a : String × Condition) (ha : a ∈ f.entries) (b : String × Condition) (hb : b ∈ g.entries)
      (hc : Coincide a b) (field : Field κ) (hf : R.field? a.1 = some field) :
      Node.Parallel R R Eq Node.Agree a b :=
    hc.parallel hf fun hv hk => hz ⟨a.1, a.2, b.2, field, ha, hc.name ▸ hb, hv, hf, hk⟩
  have ha := alike_compile_of_forall₂ (fun _ _ hc => hc.name) (equals_iff.mp h) hp (.refl _)
  exact ha.mono fun p q hr item => hr _

-- Nothing that can be done with a filter or asked of it tells equal filters apart, a zero among texts apart. A `nan` is
-- not even equal to itself.
theorem equals_congruence (f g : Filter) :
    (f.equals g ↔ List.Forall₂ Coincide f.entries g.entries) ∧
    (∀ entry ∈ f.entries, entry.2.value.IsNaN → ¬ f.equals g ∧ ¬ g.equals f) ∧
    (f.equals g →
      (∀ op : Operation, (∀ write ∈ op.write?, ¬ write.2.value.IsNaN) →
        Alike Eq (fun f' g' => f'.equals g') (op.perform f) (op.perform g)) ∧
      (∀ ops : List Operation, (∀ op ∈ ops, ∀ write ∈ op.write?, ¬ write.2.value.IsNaN) →
        (ops.foldl Operation.next f).equals (ops.foldl Operation.next g)) ∧
      (∀ name, f.Names name ↔ g.Names name) ∧
      f.size = g.size ∧
      (∀ name, Alike Eq (fun a b => a.1.equals b.1 ∧ a.2 = b.2) (f.get name) (g.get name)) ∧
      ∀ {κ ρ : Type} (R : Registration κ ρ), (f.selection R).equals (g.selection R) ∧ (¬ ZerosMeetTexts R f g →
        Alike Eq (fun p q => ∀ item, p.accepts item = q.accepts item) (f.compile R) (g.compile R))) := by
  refine ⟨equals_iff, fun entry => not_equals_of_isNaN, fun h =>
    ⟨?operation, ?operations, ?names, ?size, alike_get h, fun R => ⟨equals_selection h R, ?compile⟩⟩⟩
  case operation  => exact fun op hv => Operation.alike_perform h hv
  case operations => exact fun ops hv => Operation.equals_foldl_next h hv
  case names      => exact fun name => by rw [Names, Names, names_eq_of_equals h]
  case size       => exact (equals_iff.mp h).length_eq
  case compile    => exact alike_compile_of_equals h

example :
    let R : Registration Unit Value := ⟨"Pet", [⟨"name", .text, ()⟩], fun _ pet => pet⟩
    let f := empty.setEqual "name" (.float (.number false .zero))
    let g := empty.setEqual "name" (.float (.number true .zero))
    f.equals g ∧ (f.compile R).map (·.accepts (.text "0")) ≠ (g.compile R).map (·.accepts (.text "0")) := by
  decide +kernel

end Filter
end RecordFilter
