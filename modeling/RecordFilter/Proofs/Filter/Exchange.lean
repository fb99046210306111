import RecordFilter.Proofs.Filter.Typed
import RecordFilter.Proofs.Predicate.Parallel

namespace RecordFilter

theorem Connective.join_right_comm (c : Connective) (a b d : Bool) : c.join (c.join a b) d = c.join (c.join a d) b := by
  cases c
  case and => exact Bool.and_right_comm a b d
  case or  => exact Bool.or_right_comm a b d

theorem Connective.join_comm (c : Connective) (a b : Bool) : c.join a b = c.join b a := by
  cases c
  case and => exact Bool.and_comm a b
  case or  => exact Bool.or_comm a b

variable {κ ρ : Type}

-- Whether two selections compile to nodes that agree, or neither of them compiles, whatever the reasons.
def Selection.Interchangeable (R : Registration κ ρ) (s t : Selection) : Prop :=
  Alike (fun _ _ => True) Node.Agree (Node.compile R s) (Node.compile R t)

namespace Selection

variable {R : Registration κ ρ} {s t u : Selection} {a b : String × Condition}

namespace Interchangeable

theorem refl (s : Selection) : Interchangeable R s s :=
  Alike.refl (fun _ => trivial) Node.Agree.refl _

theorem trans (h : Interchangeable R s t) (h' : Interchangeable R t u) : Interchangeable R s u :=
  Alike.trans h h' (fun _ _ _ _ _ => trivial) fun _ _ _ hr hs read => (hr read).trans (hs read)

theorem foldl_extend (h : Interchangeable R s t) (entries : List (String × Condition)) :
    Interchangeable R (entries.foldl extend s) (entries.foldl extend t) := by
  apply Node.alike_compile_foldl (List.forall₂_same.mpr fun entry _ => ?_) h
  exact { compile := refl (ofEntry entry), join := Node.Agree.join _ }

theorem extend_extend (s : Selection) (h : a.2.connective = b.2.connective) :
    Interchangeable R ((s.extend a).extend b) ((s.extend b).extend a) := by
  simp only [Interchangeable, extend, Node.compile_join, h]
  cases Node.compile R s
  case error => exact .error trivial
  case ok node =>
    cases Node.compile R (ofEntry a) <;> cases Node.compile R (ofEntry b)
    case ok.ok =>
      refine .ok fun read => ?_
      simp only [Node.eval_join]
      exact Connective.join_right_comm ..
    all_goals exact .error trivial

theorem ofEntry_extend (h : a.2.connective = b.2.connective) :
    Interchangeable R ((ofEntry a).extend b) ((ofEntry b).extend a) := by
  simp only [Interchangeable, extend, Node.compile_join, h]
  cases Node.compile R (ofEntry a) <;> cases Node.compile R (ofEntry b)
  case ok.ok =>
    refine .ok fun read => ?_
    rw [Node.eval_join, Node.eval_join]
    exact Connective.join_comm ..
  all_goals exact .error trivial

-- The first condition joins nothing, so there its connective may be exchanged like that of any other.
theorem exchange (before after : List (String × Condition)) (h : a.2.connective = b.2.connective) :
    Interchangeable R (ofEntries (before ++ a :: b :: after)) (ofEntries (before ++ b :: a :: after)) := by
  cases before
  case nil => exact (ofEntry_extend h).foldl_extend after
  case cons first before =>
    simp only [ofEntries, List.cons_append, List.foldl_append]
    exact (extend_extend _ h).foldl_extend after

theorem of_perm {c : Connective} {entries others : List (String × Condition)} (hp : entries.Perm others)
    (hc : ∀ entry ∈ entries, entry.2.connective = c) (before : List (String × Condition)) :
    Interchangeable R (ofEntries (before ++ entries)) (ofEntries (before ++ others)) := by
  induction hp generalizing before
  case nil => exact refl _
  case cons entry entries others _ ih =>
    have h := ih (List.forall_mem_cons.mp hc).right (before ++ [entry])
    rwa [List.append_assoc, List.append_assoc] at h
  case swap a b after =>
    have ⟨hb, ha, _⟩ := List.forall_mem_cons.mp hc |>.imp_right List.forall_mem_cons.mp
    exact exchange before after (hb.trans ha.symm)
  case trans hp _ ih ih' =>
    have hc' := fun entry he => hc entry (hp.mem_iff.mpr he)
    exact (ih hc before).trans (ih' hc' before)

end Interchangeable

end Selection

variable {R : Registration κ ρ}

namespace Filter

theorem alike_compile_of_interchangeable {f g : Filter} (h : (f.selection R).Interchangeable R (g.selection R)) :
    Alike (fun _ _ => True) (fun p q => ∀ item, p.accepts item = q.accepts item) (f.compile R) (g.compile R) := by
  rw [compile_eq, compile_eq]
  exact h.map fun _ _ ha item => ha _

-- Where only one of the two is registered, or none, the type of records does not see the exchange.
theorem selection_exchange {f g : Filter} {before after : List (String × Condition)} {a b : String × Condition}
    (hf : f.entries = before ++ a :: b :: after) (hg : g.entries = before ++ b :: a :: after)
    (h : a.2.connective = b.2.connective) : (f.selection R).Interchangeable R (g.selection R) := by
  simp only [selection, registered, hf, hg, List.filter_append, List.filter_cons]
  by_cases ha : R.Registers a.1
  case neg =>
    simp only [ha, decide_false, Bool.false_eq_true, if_false]
    exact .refl _
  case pos =>
    by_cases hb : R.Registers b.1
    case neg =>
      simp only [hb, decide_false, Bool.false_eq_true, if_false]
      exact .refl _
    case pos =>
      simp only [ha, hb, decide_true, if_true]
      exact .exchange _ _ h

theorem selection_of_perm {f g : Filter} {c : Connective} (hp : f.entries.Perm g.entries)
    (hc : ∀ entry ∈ f.entries, entry.2.connective = c) : (f.selection R).Interchangeable R (g.selection R) :=
  .of_perm (hp.filter _) (fun entry he => hc entry (List.mem_of_mem_filter he)) []

-- What becomes of conditions that are written one after another, all with the same connective.
def ofConditions (c : Connective) (conditions : List (String × Operator × Value)) : Filter :=
  Operation.after (conditions.map fun (name, operator, value) => .named c name operator value)

theorem ofConditions_concat (c : Connective) (conditions : List (String × Operator × Value)) (name : String)
    (operator : Operator) (value : Value) :
    ofConditions c (conditions ++ [(name, operator, value)]) =
      (ofConditions c conditions).put name ⟨operator, value, c⟩ := by
  rw [ofConditions, List.map_append, List.map_singleton, Operation.after_concat, Operation.next,
    Operation.perform_named]
  rfl

theorem entries_put_of_not_names {f : Filter} {name : String} (h : ¬ f.Names name) (c : Condition) :
    (f.put name c).entries = f.entries ++ [(name, c)] :=
  write_of_not_mem h

theorem entries_ofConditions {c : Connective} {conditions : List (String × Operator × Value)}
    (h : (conditions.map Prod.fst).Nodup) :
    (ofConditions c conditions).entries =
      conditions.map fun (name, operator, value) => (name, ⟨operator, value, c⟩) := by
  induction conditions using List.reverseRecOn
  case nil => rfl
  case append_singleton conditions condition ih =>
    rw [List.map_append, List.map_singleton, ← List.concat_eq_append, List.nodup_concat] at h
    have he := ih h.right
    have hn : ¬ (ofConditions c conditions).Names condition.1 := by
      rw [Names, names, he, List.map_map]
      exact h.left
    rw [ofConditions_concat, entries_put_of_not_names hn, he, List.map_append, List.map_singleton]

-- The second part is for conditions under names of their own: one that is written again would keep its place.
theorem neighbours_commute (R : Registration κ ρ) :
    (∀ (f g : Filter) (before after : List (String × Condition)) (a b : String × Condition),
      f.entries = before ++ a :: b :: after → g.entries = before ++ b :: a :: after →
      a.2.connective = b.2.connective →
      Alike (fun _ _ => True) (fun p q => ∀ item, p.accepts item = q.accepts item) (f.compile R) (g.compile R)) ∧
    (∀ (c : Connective) (conditions others : List (String × Operator × Value)),
      (conditions.map Prod.fst).Nodup → conditions.Perm others →
      Alike (fun _ _ => True) (fun p q => ∀ item, p.accepts item = q.accepts item)
        ((ofConditions c conditions).compile R) ((ofConditions c others).compile R)) := by
  constructor
  case left =>
    intro f g before after a b hf hg hc
    exact alike_compile_of_interchangeable (selection_exchange hf hg hc)
  case right =>
    intro c conditions others hn hp
    have ho : (others.map Prod.fst).Nodup := (hp.map _).nodup_iff.mp hn
    apply alike_compile_of_interchangeable
    apply selection_of_perm (c := c)
    · rw [entries_ofConditions hn, entries_ofConditions ho]
      exact hp.map _
    · rw [entries_ofConditions hn]
      intro entry he
      obtain ⟨condition, _, rfl⟩ := List.mem_map.mp he
      rfl

-- Two neighbours with different connectives.
example :
    let R : Registration Bool (Bool → Bool) :=
      ⟨"Pet", [⟨"tame", .bool, true⟩, ⟨"fed", .bool, false⟩], fun slot pet => .bool (pet slot)⟩
    let f := empty.add "tame" (.relation .equal) (.bool true) |>.or "fed" (.relation .equal) (.bool true)
    let g := empty.or "fed" (.relation .equal) (.bool true) |>.add "tame" (.relation .equal) (.bool true)
    (f.compile R).map (·.accepts id) ≠ (g.compile R).map (·.accepts id) := by
  decide +kernel

end Filter
end RecordFilter
