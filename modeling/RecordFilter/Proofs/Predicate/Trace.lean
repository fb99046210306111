import RecordFilter.Predicate.Trace
import RecordFilter.Proofs.Predicate.Compile
import RecordFilter.Proofs.Selection.Resolve

namespace RecordFilter

variable {κ ρ : Type} {R : Registration κ ρ}

def Event.IsSkip : Event → Prop
  | skipped .. => True
  | _          => False

instance : DecidablePred Event.IsSkip
  | .skipped ..               => isTrue trivial
  | .entered _ | .compiled .. => isFalse id

-- What is reported of a condition that is skipped.
def Registration.skip (R : Registration κ ρ) (entry : String × Condition) : Event :=
  .skipped R.collection entry.1

theorem Node.isEverything_iff_of_compile {s : Selection} {node : Node κ} (h : compile R s = .ok node) :
    node.IsEverything ↔ s = .everything := by
  cases s
  case everything => cases h; simp [IsEverything]
  case comparison name operator value =>
    have h : compile R (.ofEntry (name, ⟨operator, value, .and⟩)) = .ok node := h
    have ⟨_, _, _, _, hn⟩ := of_compile_ofEntry h
    simp [hn, IsEverything]
  case and left right =>
    have ⟨_, _, _, _, hn⟩ := of_compile_join (c := .and) h
    simp [hn, join, IsEverything]
  case or left right =>
    have ⟨_, _, _, _, hn⟩ := of_compile_join (c := .or) h
    simp [hn, join, IsEverything]

namespace Filter

section Resolve

variable {entry : String × Condition} {entries : List (String × Condition)}

theorem resolveNext_of_registers (h : R.Registers entry.1) (folded : Option Selection) (events : List Event) :
    resolveNext R (folded, events) entry = (some (folded.elim (.ofEntry entry) (·.extend entry)), events) :=
  if_pos h

theorem resolveNext_of_not_registers (h : ¬ R.Registers entry.1) (folded : Option Selection) (events : List Event) :
    resolveNext R (folded, events) entry = (folded, events ++ [R.skip entry]) :=
  if_neg h

theorem foldl_resolveNext_some (s : Selection) (events : List Event) :
    entries.foldl (resolveNext R) (some s, events) =
      (some ((entries.filter (R.Registers ·.1)).foldl .extend s),
        events ++ (entries.filter (¬ R.Registers ·.1)).map R.skip) := by
  induction entries generalizing s events
  case nil => simp
  case cons entry entries ih =>
    by_cases h : R.Registers entry.1
    case pos => simp [resolveNext_of_registers, h, ih]
    case neg => simp [resolveNext_of_not_registers, h, ih]

-- Conditions that are skipped before the first one that counts leave nothing for it to join.
theorem foldl_resolveNext_none (events : List Event) :
    let seen := entries.foldl (resolveNext R) (none, events)
    seen.1.getD .everything = .ofEntries (entries.filter (R.Registers ·.1)) ∧
      seen.2 = events ++ (entries.filter (¬ R.Registers ·.1)).map R.skip := by
  induction entries generalizing events
  case nil => simp [Selection.ofEntries]
  case cons entry entries ih =>
    by_cases h : R.Registers entry.1
    case pos => simp [resolveNext_of_registers, foldl_resolveNext_some, h, Selection.ofEntries]
    case neg => simp [resolveNext_of_not_registers, h, ih]

end Resolve

section Trace

variable {f : Filter}

theorem resolve_eq (f : Filter) (R : Registration κ ρ) : f.resolve R = (f.selection R, (f.foreign R).map R.skip) :=
  Prod.ext (foldl_resolveNext_none []).left (foldl_resolveNext_none []).right

theorem selectionTrace_eq (f : Filter) (R : Registration κ ρ) : f.selectionTrace R = (f.foreign R).map R.skip := by
  rw [selectionTrace, resolve_eq]

theorem compileTrace_of_ok {p : Predicate R} (h : f.compile R = .ok p) :
    f.compileTrace R = .entered R.collection :: f.selectionTrace R ++ [.compiled R.collection p.toText] := by
  rw [compileTrace, h]

theorem compileTrace_of_error {e : Error} (h : f.compile R = .error e) :
    f.compileTrace R = .entered R.collection :: f.selectionTrace R := by
  rw [compileTrace, h, List.append_nil]

theorem filter_selectionTrace (f : Filter) (R : Registration κ ρ) :
    (f.selectionTrace R).filter (·.IsSkip) = (f.foreign R).map R.skip := by
  rw [selectionTrace_eq, List.filter_eq_self]
  intro event he
  obtain ⟨entry, _, rfl⟩ := List.mem_map.mp he
  exact decide_eq_true trivial

theorem filter_compileTrace (f : Filter) (R : Registration κ ρ) :
    (f.compileTrace R).filter (·.IsSkip) = (f.foreign R).map R.skip := by
  have he (name : String) : ¬ (Event.entered name).IsSkip := id
  have hc (name text : String) : ¬ (Event.compiled name text).IsSkip := id
  cases h : f.compile R
  case error e => simp [compileTrace_of_error h, he, filter_selectionTrace]
  case ok p => simp [compileTrace_of_ok h, he, hc, filter_selectionTrace]

theorem mem_fields_selection_iff {entry : String × Condition} (h : entry ∈ f.entries) :
    entry.1 ∈ (f.selection R).fields ↔ R.Registers entry.1 := by
  rw [selection, Selection.fields_ofEntries, List.mem_map]
  constructor
  case mp =>
    rintro ⟨other, ho, he⟩
    exact he ▸ of_decide_eq_true (List.mem_filter.mp ho).right
  case mpr => exact fun hr => ⟨entry, List.mem_filter.mpr ⟨h, decide_eq_true hr⟩, rfl⟩

theorem skip_mem_iff {trace : List Event} (ht : trace.filter (·.IsSkip) = (f.foreign R).map R.skip)
    {entry : String × Condition} (h : entry ∈ f.entries) :
    R.skip entry ∈ trace ↔ entry.1 ∉ (f.selection R).fields := by
  have hs : R.skip entry ∈ trace ↔ R.skip entry ∈ (f.foreign R).map R.skip := by
    rw [← ht, List.mem_filter]
    exact (and_iff_left (decide_eq_true trivial)).symm
  rw [hs, mem_fields_selection_iff h, List.mem_map]
  constructor
  case mp =>
    rintro ⟨other, ho, he⟩
    have hn : other.1 = entry.1 := (Event.skipped.inj he).right
    exact hn ▸ of_decide_eq_true (List.mem_filter.mp ho).right
  case mpr => exact fun hr => ⟨entry, List.mem_filter.mpr ⟨h, decide_eq_true hr⟩, rfl⟩

theorem selection_eq_everything_iff : f.selection R = .everything ↔ f.registered R = [] :=
  Selection.ofEntries_eq_everything_iff

theorem leaves_of_compile {p : Predicate R} (h : f.compile R = .ok p) :
    List.Forall₂ (fun entry leaf => Node.CompilesTo R (entry.1, entry.2.operator, entry.2.value) leaf)
      (f.registered R) p.root.leaves := by
  have hl := Node.leaves_of_compile (of_compile h).right
  rwa [selection, Selection.comparisons_ofEntries, List.forall₂_map_left_iff] at hl

theorem acceptsAll_iff_of_compile {p : Predicate R} (h : f.compile R = .ok p) :
    p.AcceptsAll ↔ f.registered R = [] :=
  (Node.isEverything_iff_of_compile (of_compile h).right).trans selection_eq_everything_iff

theorem toText_of_compile {p : Predicate R} (h : f.compile R = .ok p) : p.toText = f.render R := by
  rw [Predicate.toText, (of_compile h).left, render]

theorem compile_of_registered_eq_nil (h : f.registered R = []) : f.compile R = .ok ⟨.everything, .everything⟩ := by
  rw [compile_eq, selection_eq_everything_iff.mpr h]
  rfl

-- The conditions are gone through once. Those on registered names make up the selection, one after another, and the
-- others are reported, whether or not the selection can be compiled.
theorem evaluated_or_reported (f : Filter) (R : Registration κ ρ) :
    f.resolve R = (f.selection R, f.selectionTrace R) ∧
    (f.selection R).fields = (f.registered R).map Prod.fst ∧
    (f.selection R).IsLeftDeep ∧
    (∀ trace ∈ [f.selectionTrace R, f.renderTrace R, f.compileTrace R],
      trace.filter (·.IsSkip) = (f.foreign R).map R.skip ∧
      ∀ entry ∈ f.entries, R.skip entry ∈ trace ↔ entry.1 ∉ (f.selection R).fields) ∧
    (∀ p, f.compile R = .ok p →
      p.selection = f.selection R ∧ p.toText = f.render R ∧
      f.compileTrace R =
        .entered R.collection :: (f.foreign R).map R.skip ++ [.compiled R.collection (f.render R)] ∧
      List.Forall₂ (fun entry leaf => Node.CompilesTo R (entry.1, entry.2.operator, entry.2.value) leaf)
        (f.registered R) p.root.leaves ∧
      (p.AcceptsAll ↔ f.registered R = [])) ∧
    (∀ e, f.compile R = .error e → f.compileTrace R = .entered R.collection :: (f.foreign R).map R.skip) ∧
    (f.registered R = [] ↔ f.render R = "TRUE") ∧
    (f.registered R = [] → ∃ p, f.compile R = .ok p) := by
  have hr : f.resolve R = (f.selection R, f.selectionTrace R) := by rw [selectionTrace_eq, resolve_eq]
  refine ⟨hr, Selection.fields_ofEntries _, Selection.isLeftDeep_ofEntries _, ?traces, ?ok, ?error, ?text, ?empty⟩
  case traces =>
    intro trace hm
    have ht : trace.filter (·.IsSkip) = (f.foreign R).map R.skip := by
      simp only [List.mem_cons, List.not_mem_nil, or_false, renderTrace] at hm
      obtain rfl | rfl | rfl := hm
      · exact filter_selectionTrace f R
      · exact filter_selectionTrace f R
      · exact filter_compileTrace f R
    exact ⟨ht, fun entry he => skip_mem_iff ht he⟩
  case ok =>
    intro p h
    have ht := compileTrace_of_ok h
    rw [selectionTrace_eq, toText_of_compile h] at ht
    exact ⟨(of_compile h).left, toText_of_compile h, ht, leaves_of_compile h, acceptsAll_iff_of_compile h⟩
  case error =>
    intro e h
    rw [compileTrace_of_error h, selectionTrace_eq]
  case text => rw [render, Selection.toText_eq_true_iff, selection_eq_everything_iff]
  case empty => exact fun h => ⟨_, compile_of_registered_eq_nil h⟩

end Trace

end Filter
end RecordFilter
