import RecordFilter.Proofs.Filter.History
import RecordFilter.Predicate.Basic

namespace RecordFilter

theorem Filter.filter_write (P : String → Prop) [DecidablePred P] (field : String) (condition : Condition)
    (entries : List (String × Condition)) :
    (write field condition entries).filter (P ·.1) =
      if P field then write field condition (entries.filter (P ·.1)) else entries.filter (P ·.1) := by
  induction entries
  case nil => by_cases h : P field <;> simp [write, h]
  case cons entry entries ih =>
    by_cases he : entry.1 = field
    case pos => by_cases h : P field <;> simp [write, he, h]
    case neg =>
      rw [write, if_neg he, List.filter_cons, ih]
      by_cases h : P field <;> by_cases hp : P entry.1 <;> simp [write, he, h, hp]

namespace Operation

variable (P : String → Prop) [DecidablePred P]

-- Whether an operation leaves alone what is written under the names with a property.
def Avoids (op : Operation) : Prop :=
  ¬ op.Restarts ∧ ∀ write ∈ op.write?, ¬ P write.1

instance (op : Operation) : Decidable (op.Avoids P) :=
  inferInstanceAs (Decidable (¬ op.Restarts ∧ ∀ write ∈ op.write?, ¬ P write.1))

def visible (ops : List Operation) : List Operation :=
  ops.filter fun op => ¬ op.Avoids P

variable {P}

theorem filter_entries_next (f : Filter) (op : Operation) :
    (op.next f).entries.filter (P ·.1) =
      op.write?.elim id (fun write => if P write.1 then Filter.write write.1 write.2 else id)
        (if op.Restarts then [] else f.entries.filter (P ·.1)) := by
  have hr : (if op.Restarts then [] else f.entries).filter (P ·.1) =
      if op.Restarts then [] else f.entries.filter (P ·.1) := by
    split <;> rfl
  rw [entries_next, ← hr]
  cases op.write?
  case none => rfl
  case some write =>
    simp only [Option.elim, Filter.filter_write]
    split <;> rfl

theorem filter_entries_next_of_avoids {op : Operation} (h : op.Avoids P) (f : Filter) :
    (op.next f).entries.filter (P ·.1) = f.entries.filter (P ·.1) := by
  rw [filter_entries_next, if_neg h.left]
  cases hw : op.write?
  case none       => rfl
  case some write => simp [h.right write hw]

theorem filter_entries_foldl_of_avoids {ops : List Operation} (h : ∀ op ∈ ops, op.Avoids P) (f : Filter) :
    (ops.foldl next f).entries.filter (P ·.1) = f.entries.filter (P ·.1) := by
  induction ops generalizing f
  case nil => rfl
  case cons op ops ih =>
    have ⟨ho, h⟩ := List.forall_mem_cons.mp h
    rw [List.foldl_cons, ih h, filter_entries_next_of_avoids ho]

-- The runs with and without the operations that are to make no difference are compared after each operation.
theorem filter_entries_after_visible (ops : List Operation) :
    (after (visible P ops)).entries.filter (P ·.1) = (after ops).entries.filter (P ·.1) := by
  induction ops using List.reverseRecOn
  case nil => rfl
  case append_singleton ops op ih =>
    rw [after_concat]
    by_cases h : op.Avoids P
    case pos => simp [visible, h, filter_entries_next_of_avoids, ← ih]
    case neg =>
      have hv : visible P (ops ++ [op]) = visible P ops ++ [op] := by simp [visible, h]
      rw [hv, after_concat, filter_entries_next, filter_entries_next, ih]

end Operation

namespace Filter

variable {κ ρ : Type} {R : Registration κ ρ} {f g : Filter}

theorem observe_congr (h : f.selection R = g.selection R) :
    f.selection R = g.selection R ∧ f.render R = g.render R ∧ f.compile R = g.compile R :=
  ⟨h, by rw [render, render, h], by rw [compile, compile, h]⟩

theorem registered_put {name : String} (h : R.Registers name) (f : Filter) (c : Condition) :
    (f.put name c).registered R = write name c (f.registered R) :=
  (filter_write R.Registers ..).trans (if_pos h)

theorem selection_put_of_head {name : String} {c : Condition} (h : (f.registered R).head? = some (name, c))
    (k : Connective) : (f.put name { c with connective := k }).selection R = f.selection R := by
  have ⟨entries, he⟩ := List.head?_eq_some_iff.mp h
  have hm : (name, c) ∈ f.registered R := he ▸ List.mem_cons_self
  have hr : R.Registers name := by simpa [registered] using (List.mem_filter.mp hm).right
  rw [selection, registered_put hr, selection, he, write, if_pos rfl]
  rfl

theorem registered_congr {κ' ρ' : Type} {S : Registration κ' ρ'} (h : ∀ name, S.Registers name ↔ R.Registers name)
    (f : Filter) : f.registered S = f.registered R :=
  List.filter_congr fun entry _ => by simp only [h]

end Filter

-- Nor does the connective of the first condition that counts, or what else is registered beside the names.
theorem Operation.noninterference {κ ρ : Type} (R : Registration κ ρ) :
    (∀ ops ops' : List Operation, visible R.Registers ops = visible R.Registers ops' →
      (after ops).selection R = (after ops').selection R ∧ (after ops).render R = (after ops').render R ∧
        (after ops).compile R = (after ops').compile R) ∧
    (∀ (f : Filter) (name : String) (c : Condition) (k : Connective), (f.registered R).head? = some (name, c) →
      let g := f.put name { c with connective := k }
      g.selection R = f.selection R ∧ g.render R = f.render R ∧ g.compile R = f.compile R) ∧
    (∀ {κ' ρ' : Type} (S : Registration κ' ρ'), (∀ name, S.Registers name ↔ R.Registers name) →
      ∀ f : Filter, f.selection S = f.selection R ∧ f.render S = f.render R) := by
  refine ⟨?foreign, ?connective, ?registration⟩
  case foreign =>
    intro ops ops' h
    have hr := filter_entries_after_visible (P := R.Registers) ops
    rw [h, filter_entries_after_visible] at hr
    exact Filter.observe_congr (congrArg Selection.ofEntries hr.symm)
  case connective =>
    intro f name c k h g
    exact Filter.observe_congr (Filter.selection_put_of_head h k)
  case registration =>
    intro κ' ρ' S h f
    have hs : f.selection S = f.selection R := by
      rw [Filter.selection, Filter.selection, Filter.registered_congr h]
    exact ⟨hs, by rw [Filter.render, Filter.render, hs]⟩

-- The owner comes first and is written again later in one of the two runs, and comes last in the other.
theorem Operation.noninterference_owner :
    let R : Registration Nat (Nat → Value) :=
      ⟨"Pet", [⟨"age", .integer .w32, 0⟩, ⟨"name", .text, 1⟩], fun slot pet => pet slot⟩
    let age := add "age" (.relation .less) (.text "10")
    let name := or "name" .contains (.text "rex")
    let ops := [or "owner" .contains (.bool true), age, setEqual "owner" (.text "Kim"), name]
    let ops' := [age, name, setEqual "owner" (.text "Robin")]
    (after ops).names ≠ (after ops').names ∧ (after ops).compile R = (after ops').compile R := by
  intro R age name ops ops'
  exact ⟨by decide, ((noninterference R).left ops ops' rfl).right.right⟩

end RecordFilter
