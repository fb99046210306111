import RecordFilter.Proofs.Declaration.Description
import RecordFilter.Proofs.Filter.Interference
import RecordFilter.Proofs.Predicate.Fault
import RecordFilter.Proofs.Predicate.Parallel
import RecordFilter.Proofs.Predicate.Trace

namespace RecordFilter

variable {κ κ' ρ : Type} {R : Registration κ ρ} {S : Registration κ' ρ}

namespace Registration

-- What conditions on a name are checked against, and what their tests read.
def lookup? (R : Registration κ ρ) (name : String) : Option (Kind × (ρ → Value)) :=
  (R.field? name).map fun field => (field.kind, R.read field.accessor)

structure SameLookup (R : Registration κ ρ) (S : Registration κ' ρ) : Prop where
  collection : S.collection = R.collection
  lookup?    : ∀ name, S.lookup? name = R.lookup? name

-- Some of the fields are left out, each of which has the name of an earlier one.
inductive Shortened : List String → List (Field κ) → List (Field κ) → Prop
  | nil {seen : List String} : Shortened seen [] []
  | keep {seen : List String} {field : Field κ} {fields kept : List (Field κ)}
      (h : Shortened (field.name :: seen) fields kept) : Shortened seen (field :: fields) (field :: kept)
  | drop {seen : List String} {field : Field κ} {fields kept : List (Field κ)} (hs : field.name ∈ seen)
      (h : Shortened seen fields kept) : Shortened seen (field :: fields) kept

variable {name : String} {field : Field κ} {fields : List (Field κ)}

theorem field?_eq_some_iff :
    R.field? name = some field ↔ field.name = name ∧
      ∃ before after, R.fields = before ++ field :: after ∧ ∀ earlier ∈ before, earlier.name ≠ name := by
  simp [field?, List.find?_eq_some_iff_append]

theorem registers_iff_exists_field? : R.Registers name ↔ ∃ field, R.field? name = some field := by
  rw [← isSome_field?_iff, Option.isSome_iff_exists]

theorem registers_iff_isSome_lookup? : R.Registers name ↔ (R.lookup? name).isSome := by
  rw [← isSome_field?_iff, lookup?, Option.isSome_map]

namespace SameLookup

theorem registers_iff (h : R.SameLookup S) (name : String) : S.Registers name ↔ R.Registers name := by
  rw [registers_iff_isSome_lookup?, registers_iff_isSome_lookup?, h.lookup?]

theorem of_find? (h : ∀ name, fields.find? (·.name = name) = R.fields.find? (·.name = name)) :
    R.SameLookup { R with fields := fields } where
  collection := rfl
  lookup? name := by rw [Registration.lookup?, Registration.lookup?, field?, field?, h]

end SameLookup

theorem Shortened.find? {seen : List String} {kept : List (Field κ)} (h : Shortened seen fields kept)
    (hn : name ∉ seen) : kept.find? (·.name = name) = fields.find? (·.name = name) := by
  induction h
  case nil => rfl
  case keep field _ _ _ ih =>
    by_cases hf : field.name = name
    case pos => simp [hf]
    case neg => simpa [hf] using ih (by simp [hn, Ne.symm hf])
  case drop field _ _ hs _ ih =>
    have hf : field.name ≠ name := fun hf => hn (hf ▸ hs)
    simpa [hf] using ih hn

theorem find?_of_filter_eq (h : ∀ name, fields.filter (·.name = name) = R.fields.filter (·.name = name))
    (name : String) : fields.find? (·.name = name) = R.fields.find? (·.name = name) := by
  rw [← List.head?_filter, ← List.head?_filter, h]

theorem find?_of_perm (h : R.fields.Perm fields) (hn : (R.fields.map Field.name).Nodup) (name : String) :
    fields.find? (·.name = name) = R.fields.find? (·.name = name) := by
  cases hf : R.fields.find? (·.name = name)
  case none =>
    rw [List.find?_eq_none] at hf ⊢
    exact fun field hm => hf field (h.mem_iff.mpr hm)
  case some field =>
    have hm : field ∈ fields := h.mem_iff.mp (List.mem_of_find?_eq_some hf)
    have hn : (fields.map Field.name).Nodup := (h.map _).nodup_iff.mp hn
    rw [← name_of_field? (R := R) hf]
    exact find?_of_nodup hn hm

theorem find?_of_repeated {before after : List (Field κ)} {field other : Field κ}
    (hf : ∃ earlier ∈ before, earlier.name = field.name) (ho : ∃ earlier ∈ before, earlier.name = other.name)
    (name : String) :
    (before ++ other :: after).find? (·.name = name) = (before ++ field :: after).find? (·.name = name) := by
  rw [List.find?_append, List.find?_append]
  cases hb : before.find? (·.name = name)
  case some => rfl
  case none =>
    have hn : ∀ earlier ∈ before, earlier.name ≠ name := by simpa using hb
    obtain ⟨_, hm, he⟩ := hf
    obtain ⟨_, hm', he'⟩ := ho
    have hf : field.name ≠ name := he ▸ hn _ hm
    have ho : other.name ≠ name := he' ▸ hn _ hm'
    simp [hf, ho]

end Registration

open Registration

-- Whether two nodes come to the same on every record, each with what is read from it in its own way.
def Node.ReadAlike (R : Registration κ ρ) (S : Registration κ' ρ) (m : Node κ) (n : Node κ') : Prop :=
  ∀ item, n.eval (S.read · item) = m.eval (R.read · item)

theorem Test.compile_congr {field : Field κ} {field' : Field κ'} (hc : S.collection = R.collection)
    (hn : field'.name = field.name) (hk : field'.kind = field.kind) (operator : Operator) (value : Value) :
    compile S field' operator value = compile R field operator value := by
  rw [compile_eq, compile_eq, hc, hn, hk]

namespace Node

theorem alike_compile_of_sameLookup (h : R.SameLookup S) (entry : String × Condition) :
    Alike Eq (ReadAlike R S) (compile R (.ofEntry entry)) (compile S (.ofEntry entry)) := by
  have hl := h.lookup? entry.1
  cases hR : R.field? entry.1 <;> cases hS : S.field? entry.1 <;> simp [lookup?, hR, hS] at hl
  case none.none =>
    simp only [Selection.ofEntry, compile, hR, hS]
    exact .error rfl
  case some.some field field' =>
    obtain ⟨hk, hr⟩ := hl
    have hn : field'.name = field.name := (name_of_field? hS).trans (name_of_field? hR).symm
    rw [compile_ofEntry hR, compile_ofEntry hS, Test.compile_congr h.collection hn hk]
    refine (Alike.refl (e := Eq) (r := Eq) (fun _ => rfl) (fun _ => rfl) _).map ?_
    rintro test _ rfl item
    simp only [eval, hr]

theorem parallel_of_sameLookup (h : R.SameLookup S) (entry : String × Condition) :
    Parallel R S Eq (ReadAlike R S) entry entry where
  compile := alike_compile_of_sameLookup h entry
  join hl hr item := by rw [eval_join, eval_join, hl, hr]

end Node

namespace Filter

-- Whatever is asked of the filter, the answers and the reports are the same for both registrations.
structure SameOutcome (f : Filter) (R : Registration κ ρ) (S : Registration κ' ρ) : Prop where
  selection : f.selection S = f.selection R
  render    : f.render S = f.render R
  compile   : Alike Eq
    (fun p q => q.selection = p.selection ∧ (q.AcceptsAll ↔ p.AcceptsAll) ∧ ∀ item, q.accepts item = p.accepts item)
    (f.compile R) (f.compile S)
  traces    : f.selectionTrace S = f.selectionTrace R ∧ f.compileTrace S = f.compileTrace R

theorem selectionTrace_of_sameLookup (h : R.SameLookup S) (f : Filter) : f.selectionTrace S = f.selectionTrace R := by
  have hf : f.foreign S = f.foreign R := List.filter_congr fun entry _ => by simp only [h.registers_iff]
  rw [selectionTrace_eq, selectionTrace_eq, hf]
  exact List.map_congr_left fun entry _ => by rw [skip, skip, h.collection]

theorem sameOutcome_of_sameLookup (h : R.SameLookup S) (f : Filter) : f.SameOutcome R S := by
  have hr : f.registered S = f.registered R := registered_congr h.registers_iff f
  have hs : f.selection S = f.selection R := by rw [selection, selection, hr]
  have ht : f.selectionTrace S = f.selectionTrace R := selectionTrace_of_sameLookup h f
  have hp : Alike Eq (fun p q => Node.ReadAlike R S p.root q.root) (f.compile R) (f.compile S) :=
    alike_compile (hr ▸ List.forall₂_same.mpr fun entry _ => Node.parallel_of_sameLookup h entry) fun _ _ => rfl
  cases hR : f.compile R <;> cases hS : f.compile S <;> rw [hR, hS] at hp <;> cases hp
  case error.error.error he =>
    have hc : f.compileTrace S = f.compileTrace R := by
      rw [compileTrace_of_error hR, compileTrace_of_error hS, h.collection, ht]
    exact ⟨hs, by rw [render, render, hs], hR ▸ hS ▸ .error he, ht, hc⟩
  case ok.ok.ok p q hp =>
    have hq : q.selection = p.selection := by rw [(of_compile hS).left, (of_compile hR).left, hs]
    have ha : q.AcceptsAll ↔ p.AcceptsAll := by rw [acceptsAll_iff_of_compile hS, acceptsAll_iff_of_compile hR, hr]
    have hc : f.compileTrace S = f.compileTrace R := by
      rw [compileTrace_of_ok hR, compileTrace_of_ok hS, h.collection, ht, Predicate.toText, Predicate.toText, hq]
    exact ⟨hs, by rw [render, render, hs], hR ▸ hS ▸ .ok ⟨hq, ha, hp⟩, ht, hc⟩

end Filter

-- Whether a condition counts and what it is checked against are found out in two ways, which never disagree.
theorem Registration.matters_by_first_fields (R : Registration κ ρ) :
    (∀ {κ' : Type} (S : Registration κ' ρ), R.SameLookup S → ∀ f : Filter, f.SameOutcome R S) ∧
    (∀ kept, Shortened [] R.fields kept → R.SameLookup { R with fields := kept }) ∧
    (∀ fields, (∀ name, fields.filter (·.name = name) = R.fields.filter (·.name = name)) →
      R.SameLookup { R with fields := fields }) ∧
    (∀ fields, R.fields.Perm fields → (R.fields.map Field.name).Nodup → R.SameLookup { R with fields := fields }) ∧
    (∀ name, R.Registers name ↔ ∃ before field after, R.fields = before ++ field :: after ∧ field.name = name ∧
      (∀ earlier ∈ before, earlier.name ≠ name) ∧ R.field? name = some field) ∧
    (∀ before field after, R.fields = before ++ field :: after → (∃ earlier ∈ before, earlier.name = field.name) →
      ∀ other, (∃ earlier ∈ before, earlier.name = other.name) →
        ∀ f : Filter, f.SameOutcome R { R with fields := before ++ other :: after }) := by
  refine ⟨fun S h f => Filter.sameOutcome_of_sameLookup h f, ?shortened, ?rearranged, ?permuted, ?first, ?repeated⟩
  case shortened => exact fun kept h => .of_find? fun name => h.find? (List.not_mem_nil)
  case rearranged => exact fun fields h => .of_find? (find?_of_filter_eq h)
  case permuted => exact fun fields h hn => .of_find? (find?_of_perm h hn)
  case first =>
    intro name
    rw [registers_iff_exists_field?]
    constructor
    case mp =>
      rintro ⟨field, hf⟩
      obtain ⟨hn, before, after, hR, hb⟩ := field?_eq_some_iff.mp hf
      exact ⟨before, field, after, hR, hn, hb, hf⟩
    case mpr =>
      rintro ⟨_, field, _, -, -, -, hf⟩
      exact ⟨field, hf⟩
  case repeated =>
    intro before field after hR hf other ho f
    exact Filter.sameOutcome_of_sameLookup (.of_find? fun name => hR ▸ find?_of_repeated hf ho name) f

-- The age is registered again as a text, in front of which the other registration has the name.
theorem Registration.matters_by_first_fields_age :
    let R : Registration Nat (Nat → Value) :=
      ⟨"Pet", [⟨"age", .integer .w32, 0⟩, ⟨"name", .text, 1⟩, ⟨"age", .text, 1⟩], fun slot pet => pet slot⟩
    let S : Registration Bool (Nat → Value) :=
      ⟨"Pet", [⟨"name", .text, true⟩, ⟨"age", .integer .w32, false⟩], fun second pet => pet second.toNat⟩
    let f := Filter.empty |>.or "age" (.relation .less) (.text "10") |>.add "name" .contains (.text "rex")
    (∃ p, f.compile R = .ok p) ∧ f.SameOutcome R S := by
  intro R S f
  have hl (name : String) : S.lookup? name = R.lookup? name := by
    by_cases ha : "age" = name
    case pos => subst ha; rfl
    case neg => by_cases hn : "name" = name <;> simp [lookup?, field?, R, S, ha, hn]
  exact ⟨⟨_, rfl⟩, (matters_by_first_fields R).left S ⟨rfl, hl⟩ f⟩

end RecordFilter
