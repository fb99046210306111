import RecordFilter.Filter
import Mathlib.Data.List.DropRight

namespace RecordFilter
namespace Filter

theorem write_of_not_mem {field : String} {condition : Condition} {entries : List (String × Condition)}
    (h : field ∉ entries.map Prod.fst) : write field condition entries = entries ++ [(field, condition)] := by
  induction entries
  case nil => rfl
  case cons entry entries ih =>
    simp only [List.map_cons, List.mem_cons, not_or] at h
    simp [write, Ne.symm h.left, ih h.right]

theorem write_of_mem {field : String} {condition : Condition} {entries : List (String × Condition)}
    (hn : (entries.map Prod.fst).Nodup) (h : field ∈ entries.map Prod.fst) :
    write field condition entries =
      entries.map fun entry => if entry.1 = field then (field, condition) else entry := by
  induction entries
  case nil => cases h
  case cons entry entries ih =>
    have ⟨hm, hn⟩ := List.nodup_cons.mp hn
    by_cases he : entry.1 = field
    case pos =>
      have (other) (ho : other ∈ entries) : other.1 ≠ field := by
        rintro rfl
        exact hm (he ▸ List.mem_map_of_mem ho)
      have : entries.map (fun entry => if entry.1 = field then (field, condition) else entry) = entries :=
        (List.map_congr_left fun other ho => if_neg (this other ho)).trans (List.map_id' entries)
      simp only [write, he, if_true, List.map_cons, this]
    case neg =>
      simp only [List.map_cons, List.mem_cons] at h
      simp [write, he, ih hn (h.resolve_left (he ·.symm))]

theorem find?_write (field : String) (condition : Condition) (entries : List (String × Condition)) (name : String) :
    (write field condition entries).find? (·.1 = name) =
      if field = name then some (field, condition) else entries.find? (·.1 = name) := by
  induction entries
  case nil => by_cases h : field = name <;> simp [write, h]
  case cons entry entries ih =>
    by_cases he : entry.1 = field
    case pos => by_cases h : field = name <;> simp [write, he, h]
    case neg =>
      rw [write, if_neg he, List.find?_cons, List.find?_cons, ih]
      by_cases hn : entry.1 = name
      case pos => simp [hn, Ne.symm (hn ▸ he)]
      case neg => simp [hn]

-- The last of several writes under a name.
def lastWrite? (writes : List (String × Condition)) (field : String) : Option (String × Condition) :=
  writes.findRev? (·.1 = field)

-- Each name stands where it was first written, with what was last written under it.
def summary (writes : List (String × Condition)) : List (String × Condition) :=
  (writes.map Prod.fst).eraseDups.filterMap (lastWrite? writes)

section Summary

variable {writes : List (String × Condition)} {field : String} {condition : Condition}

theorem eraseDups_concat (names : List String) (name : String) :
    (names ++ [name]).eraseDups = if name ∈ names then names.eraseDups else names.eraseDups ++ [name] := by
  rw [List.eraseDups_append]
  split <;> simp_all [List.removeAll, List.eraseDups_cons]

theorem nodup_eraseDups (names : List String) : names.eraseDups.Nodup := by
  induction names using List.reverseRecOn
  case nil => exact List.nodup_nil
  case append_singleton names name ih =>
    rw [eraseDups_concat]
    split
    case isTrue => exact ih
    case isFalse h =>
      refine List.nodup_append.mpr ⟨ih, by simp, ?_⟩
      rintro a ha b hb rfl
      exact h (List.mem_singleton.mp hb ▸ List.mem_eraseDups.mp ha)

theorem lastWrite?_concat (name : String) :
    lastWrite? (writes ++ [(field, condition)]) name =
      if field = name then some (field, condition) else lastWrite? writes name := by
  simp only [lastWrite?, List.findRev?_eq_find?_reverse, List.reverse_concat, List.find?_cons]
  by_cases h : field = name <;> simp [h]

theorem fst_of_lastWrite? {name : String} {entry : String × Condition} (h : lastWrite? writes name = some entry) :
    entry.1 = name := by
  rw [lastWrite?, List.findRev?_eq_find?_reverse] at h
  simpa using List.find?_some h

theorem lastWrite?_isSome_iff : (lastWrite? writes field).isSome ↔ field ∈ writes.map Prod.fst := by
  simp [lastWrite?]

theorem exists_lastWrite? (h : field ∈ writes.map Prod.fst) :
    ∃ condition, lastWrite? writes field = some (field, condition) := by
  have ⟨entry, he⟩ := Option.isSome_iff_exists.mp (lastWrite?_isSome_iff.mpr h)
  exact ⟨entry.2, by rw [he, ← fst_of_lastWrite? he]⟩

theorem map_fst_summary (writes : List (String × Condition)) :
    (summary writes).map Prod.fst = (writes.map Prod.fst).eraseDups := by
  have (names : List String) (h : ∀ name ∈ names, name ∈ writes.map Prod.fst) :
      (names.filterMap (lastWrite? writes)).map Prod.fst = names := by
    induction names
    case nil => rfl
    case cons name names ih =>
      have ⟨hm, h⟩ := List.forall_mem_cons.mp h
      have ⟨condition, hl⟩ := exists_lastWrite? hm
      simp [hl, ih h]
  exact this _ fun _ => List.mem_eraseDups.mp

theorem mem_map_fst_summary_iff : field ∈ (summary writes).map Prod.fst ↔ field ∈ writes.map Prod.fst := by
  rw [map_fst_summary, List.mem_eraseDups]

theorem summary_concat :
    summary (writes ++ [(field, condition)]) = write field condition (summary writes) := by
  by_cases h : field ∈ writes.map Prod.fst
  case pos =>
    have hn : ((summary writes).map Prod.fst).Nodup := map_fst_summary writes ▸ nodup_eraseDups _
    rw [write_of_mem hn (mem_map_fst_summary_iff.mpr h), summary, List.map_append, List.map_singleton,
      eraseDups_concat, if_pos h, summary, List.map_filterMap]
    refine List.filterMap_congr fun name hm => ?_
    have ⟨other, ho⟩ := exists_lastWrite? (List.mem_eraseDups.mp hm)
    by_cases hf : field = name <;> simp [lastWrite?_concat, ho, hf, eq_comm]
  case neg =>
    rw [write_of_not_mem (mem_map_fst_summary_iff.not.mpr h), summary, List.map_append, List.map_singleton,
      eraseDups_concat, if_neg h, List.filterMap_append]
    congr 1
    case e_a =>
      refine List.filterMap_congr fun name hm => ?_
      have : field ≠ name := (h <| · ▸ List.mem_eraseDups.mp hm)
      simp [lastWrite?_concat, this]
    case e_a => simp [lastWrite?_concat]

theorem find?_summary (writes : List (String × Condition)) (name : String) :
    (summary writes).find? (·.1 = name) = lastWrite? writes name := by
  induction writes using List.reverseRecOn
  case nil => rfl
  case append_singleton writes write ih => rw [summary_concat, find?_write, lastWrite?_concat, ih]

end Summary

end Filter

-- Operations on a variable that holds a filter. Each of the typed ones brings the registration in which it looks
-- the accessor up.
inductive Operation : Type 1
  | new
  | single (field : String) (operator : Operator) (value : Value)
  | add (field : String) (operator : Operator) (value : Value)
  | or (field : String) (operator : Operator) (value : Value)
  | set (field : String) (operator : Operator) (value : Value)
  | setEqual (field : String) (value : Value)
  | addTyped {κ ρ : Type} [DecidableEq κ] (R : Registration κ ρ) (accessor : κ) (operator : Operator) (value : Value)
  | orTyped {κ ρ : Type} [DecidableEq κ] (R : Registration κ ρ) (accessor : κ) (operator : Operator) (value : Value)
  | clear

namespace Operation

def perform (f : Filter) : Operation → Except Error Filter
  | new                                => .ok .empty
  | single field operator value        => .ok (.single field operator value)
  | add field operator value           => .ok (f.add field operator value)
  | or field operator value            => .ok (f.or field operator value)
  | set field operator value           => .ok (f.set field operator value)
  | setEqual field value               => .ok (f.setEqual field value)
  | addTyped R accessor operator value => f.addTyped R accessor operator value
  | orTyped R accessor operator value  => f.orTyped R accessor operator value
  | clear                              => .ok .empty

-- The filter in the variable afterwards. An operation that fails does not get to replace it.
def next (f : Filter) (op : Operation) : Filter :=
  match op.perform f with
  | .ok g    => g
  | .error _ => f

def after (ops : List Operation) : Filter :=
  ops.foldl next .empty

-- Whether nothing of what was there before is left.
def Restarts : Operation → Prop
  | new | single .. | clear => True
  | _                       => False

instance : DecidablePred Restarts
  | new | single .. | clear => isTrue trivial
  | add .. | or .. | set .. | setEqual .. | addTyped .. | orTyped .. => isFalse id

def write? : Operation → Option (String × Condition)
  | new | clear => none
  | single field operator value | add field operator value | set field operator value =>
    some (field, ⟨operator, value, .and⟩)
  | or field operator value            => some (field, ⟨operator, value, .or⟩)
  | setEqual field value               => some (field, ⟨.relation .equal, value, .and⟩)
  | addTyped R accessor operator value => (R.accessorName? accessor).map (·, ⟨operator, value, .and⟩)
  | orTyped R accessor operator value  => (R.accessorName? accessor).map (·, ⟨operator, value, .or⟩)

-- What was written since the last operation that restarts, and by that operation itself.
def writes (ops : List Operation) : List (String × Condition) :=
  ((ops.rdropWhile (¬ ·.Restarts)).getLast?.toList ++ ops.rtakeWhile (¬ ·.Restarts)).filterMap write?

theorem writes_concat (ops : List Operation) (op : Operation) :
    writes (ops ++ [op]) = (if op.Restarts then [] else writes ops) ++ op.write?.toList := by
  by_cases h : op.Restarts <;> cases hw : op.write? <;> simp [writes, h, hw]

section Typed

variable {κ ρ : Type} [DecidableEq κ] {R : Registration κ ρ} {accessor : κ} {c : Connective} {operator : Operator}
  {value : Value} {name : String}

-- A condition added under the name of a field, and one added by an accessor.
def named : Connective → String → Operator → Value → Operation
  | .and => add
  | .or  => or

def typed (R : Registration κ ρ) (accessor : κ) : Connective → Operator → Value → Operation
  | .and => addTyped R accessor
  | .or  => orTyped R accessor

theorem perform_named (f : Filter) :
    (named c name operator value).perform f = .ok (f.put name ⟨operator, value, c⟩) := by
  cases c <;> rfl

theorem perform_typed (R : Registration κ ρ) (accessor : κ) (f : Filter) :
    (typed R accessor c operator value).perform f =
      (R.accessorName? accessor).elim (.error (.invalidAccessor R.collection)) fun name =>
        (named c name operator value).perform f := by
  cases c
  all_goals
    simp only [typed, perform, Filter.addTyped, Filter.orTyped, Filter.nameOf]
    cases R.accessorName? accessor <;> rfl

theorem write?_typed :
    (typed R accessor c operator value).write? = (R.accessorName? accessor).map (·, ⟨operator, value, c⟩) := by
  cases c <;> rfl

theorem entries_next_typed (f : Filter) :
    ((typed R accessor c operator value).next f).entries =
      (typed R accessor c operator value).write?.elim id (fun write => Filter.write write.1 write.2) f.entries := by
  rw [next, perform_typed, write?_typed]
  cases R.accessorName? accessor
  case none => rfl
  case some => rw [Option.elim_some, perform_named]; rfl

theorem error_of_perform_typed {f : Filter} {e : Error} (h : (typed R accessor c operator value).perform f = .error e) :
    e = .invalidAccessor R.collection := by
  rw [perform_typed] at h
  cases ha : R.accessorName? accessor <;> rw [ha] at h
  case none => cases h; rfl
  case some => exact nomatch (perform_named f).symm.trans h

end Typed

theorem entries_next (f : Filter) (op : Operation) :
    (op.next f).entries =
      op.write?.elim id (fun write => Filter.write write.1 write.2) (if op.Restarts then [] else f.entries) := by
  cases op
  case addTyped => exact entries_next_typed (c := .and) f
  case orTyped  => exact entries_next_typed (c := .or) f
  all_goals rfl

theorem after_concat (ops : List Operation) (op : Operation) : after (ops ++ [op]) = op.next (after ops) := by
  simp [after]

theorem entries_after (ops : List Operation) : (after ops).entries = Filter.summary (writes ops) := by
  induction ops using List.reverseRecOn
  case nil => rfl
  case append_singleton ops op ih =>
    have hr : (if op.Restarts then [] else (after ops).entries) =
        Filter.summary (if op.Restarts then [] else writes ops) := by
      split
      case isTrue  => rfl
      case isFalse => exact ih
    rw [after_concat, entries_next, writes_concat, hr]
    cases op.write?
    case none       => simp
    case some write => exact Filter.summary_concat.symm

-- An accessor that is not registered is all that can go wrong.
theorem error_of_perform {f : Filter} {op : Operation} {e : Error} (h : op.perform f = .error e) :
    ∃ collection, e = .invalidAccessor collection := by
  cases op
  case addTyped => exact ⟨_, error_of_perform_typed (c := .and) h⟩
  case orTyped  => exact ⟨_, error_of_perform_typed (c := .or) h⟩
  all_goals cases h

-- Everything that can be asked of a filter is answered by the operations that led to it. One that fails leaves no
-- trace.
theorem after_determined (ops : List Operation) :
    (after ops).entries = Filter.summary (writes ops) ∧
    (after ops).names = ((writes ops).map Prod.fst).eraseDups ∧
    (after ops).size = ((writes ops).map Prod.fst).eraseDups.length ∧
    ((after ops).IsEmpty ↔ writes ops = []) ∧
    (∀ name, (after ops).Names name ↔ name ∈ (writes ops).map Prod.fst) ∧
    (∀ name, (after ops).get name =
      (Filter.lastWrite? (writes ops) name).elim (.error (.fieldNotFound name)) fun write =>
        .ok (write.2.value, write.2.operator)) ∧
    (∀ op e, op.perform (after ops) = .error e →
      (∃ collection, e = .invalidAccessor collection) ∧ after (ops ++ [op]) = after ops) := by
  have he := entries_after ops
  have hn : (after ops).names = ((writes ops).map Prod.fst).eraseDups := by
    rw [Filter.names, he, Filter.map_fst_summary]
  refine ⟨he, hn, ?size, ?isEmpty, ?names, ?get, ?error⟩
  case size => rw [← hn, Filter.names, List.length_map, Filter.size]
  case isEmpty =>
    rw [Filter.IsEmpty, ← List.map_eq_nil_iff (f := Prod.fst), ← Filter.names,
      ← List.map_eq_nil_iff (f := Prod.fst) (l := writes ops)]
    simp only [hn, List.eq_nil_iff_forall_not_mem, List.mem_eraseDups]
  case names =>
    intro name
    rw [Filter.Names, hn, List.mem_eraseDups]
  case get =>
    intro name
    simp only [Filter.get, Filter.condition?, he, Filter.find?_summary]
    cases Filter.lastWrite? (writes ops) name <;> rfl
  case error =>
    intro op e h
    have hs : op.next (after ops) = after ops := by simp only [next, h]
    exact ⟨error_of_perform h, after_concat ops op ▸ hs⟩

end Operation
end RecordFilter
