import RecordFilter.Proofs.Predicate.Compile

namespace RecordFilter

-- Outcomes that are both errors or both results, and related as such.
inductive Alike {ε ζ α β : Type} (e : ε → ζ → Prop) (r : α → β → Prop) : Except ε α → Except ζ β → Prop
  | error {d : ε} {d' : ζ} (h : e d d') : Alike e r (.error d) (.error d')
  | ok {a : α} {b : β} (h : r a b) : Alike e r (.ok a) (.ok b)

namespace Alike

section

variable {ε ζ α α' β β' γ γ' : Type} {e : ε → ζ → Prop} {r : α → α' → Prop} {s : β → β' → Prop} {t : γ → γ' → Prop}

theorem refl {e : ε → ε → Prop} {r : α → α → Prop} (he : ∀ d, e d d) (hr : ∀ a, r a a) (x : Except ε α) :
    Alike e r x x := by
  cases x
  case error d => exact .error (he d)
  case ok a    => exact .ok (hr a)

theorem trans {δ η : Type} {e' : ζ → η → Prop} {e'' : ε → η → Prop} {s : α' → δ → Prop} {t : α → δ → Prop}
    {x : Except ε α} {y : Except ζ α'} {z : Except η δ} (h : Alike e r x y) (h' : Alike e' s y z)
    (he : ∀ a b c, e a b → e' b c → e'' a c) (hr : ∀ a b c, r a b → s b c → t a c) : Alike e'' t x z := by
  cases h
  case error hd =>
    cases h'
    case error hd' => exact .error (he _ _ _ hd hd')
  case ok ha =>
    cases h'
    case ok hb => exact .ok (hr _ _ _ ha hb)

theorem mono {x : Except ε α} {y : Except ζ α'} {s : α → α' → Prop} (h : Alike e r x y)
    (hr : ∀ a b, r a b → s a b) : Alike e s x y := by
  cases h
  case error h => exact .error h
  case ok h    => exact .ok (hr _ _ h)

theorem map {x : Except ε α} {y : Except ζ α'} {f : α → β} {g : α' → β'} (h : Alike e r x y)
    (hf : ∀ a b, r a b → s (f a) (g b)) : Alike e s (x.map f) (y.map g) := by
  cases h
  case error h => exact .error h
  case ok h    => exact .ok (hf _ _ h)

theorem map₂ {x : Except ε α} {x' : Except ζ α'} {y : Except ε β} {y' : Except ζ β'} {f : α → β → γ}
    {g : α' → β' → γ'} (hx : Alike e r x x') (hy : Alike e s y y')
    (hf : ∀ a a' b b', r a a' → s b b' → t (f a b) (g a' b')) :
    Alike e t (do return f (← x) (← y)) (do return g (← x') (← y')) := by
  cases hx
  case error h => exact .error h
  case ok ha =>
    cases hy
    case error h => exact .error h
    case ok hb   => exact .ok (hf _ _ _ _ ha hb)

theorem exists_ok_iff {x : Except ε α} {y : Except ζ α'} (h : Alike e r x y) :
    (∃ a, x = .ok a) ↔ ∃ b, y = .ok b := by
  cases h <;> simp

theorem of_ok {a : α} {b : α'} (h : Alike e r (.ok a) (.ok b)) : r a b := by
  cases h
  assumption

end

end Alike

variable {κ ρ κ' ρ' : Type} {R : Registration κ ρ} {S : Registration κ' ρ'} {e : Error → Error → Prop}
  {r : Node κ → Node κ' → Prop}

namespace Node

-- Two nodes that come to the same, whatever is read.
def Agree (m n : Node κ) : Prop :=
  ∀ read, m.eval read = n.eval read

theorem Agree.refl (n : Node κ) : Agree n n :=
  fun _ => rfl

theorem Agree.join (c : Connective) {left left' right right' : Node κ} (hl : Agree left left')
    (hr : Agree right right') : Agree (Node.join c left right) (Node.join c left' right') := by
  intro read
  rw [eval_join, eval_join, hl, hr]

-- Two conditions that compile alike, and whose connectives keep what relates the nodes that they join.
structure Parallel (R : Registration κ ρ) (S : Registration κ' ρ') (e : Error → Error → Prop)
    (r : Node κ → Node κ' → Prop) (a b : String × Condition) : Prop where
  compile : Alike e r (Node.compile R (.ofEntry a)) (Node.compile S (.ofEntry b))
  join {left left' right right'} (hl : r left left') (hr : r right right') :
    r (Node.join a.2.connective left right) (Node.join b.2.connective left' right')

variable {entries others : List (String × Condition)}

theorem Parallel.extend {a b : String × Condition} (h : Parallel R S e r a b) {s t : Selection}
    (hs : Alike e r (Node.compile R s) (Node.compile S t)) :
    Alike e r (Node.compile R (s.extend a)) (Node.compile S (t.extend b)) := by
  rw [Selection.extend, Selection.extend, compile_join, compile_join]
  exact hs.map₂ h.compile fun _ _ _ _ hl hr => h.join hl hr

theorem alike_compile_foldl (h : List.Forall₂ (Parallel R S e r) entries others) {s t : Selection}
    (hs : Alike e r (compile R s) (compile S t)) :
    Alike e r (compile R (entries.foldl .extend s)) (compile S (others.foldl .extend t)) := by
  induction h generalizing s t
  case nil          => exact hs
  case cons hp _ ih => exact ih (hp.extend hs)

-- Without conditions there is nothing that could relate the nodes.
theorem alike_compile_ofEntries (h : List.Forall₂ (Parallel R S e r) entries others)
    (hn : entries = [] → r everything everything) :
    Alike e r (compile R (.ofEntries entries)) (compile S (.ofEntries others)) := by
  cases h
  case nil        => exact .ok (hn rfl)
  case cons hp ht => exact alike_compile_foldl ht hp.compile

end Node

namespace Filter

theorem alike_compile {f g : Filter} (h : List.Forall₂ (Node.Parallel R S e r) (f.registered R) (g.registered S))
    (hn : f.registered R = [] → r .everything .everything) :
    Alike e (fun p q => r p.root q.root) (f.compile R) (g.compile S) := by
  rw [compile_eq, compile_eq]
  exact (Node.alike_compile_ofEntries h hn).map fun _ _ hr => hr

variable {q : String × Condition → String × Condition → Prop} {r : Node κ → Node κ → Prop}

theorem forall₂_write {entries others : List (String × Condition)} {name : String} {c d : Condition}
    (hn : ∀ a b, q a b → a.1 = b.1) (hc : q (name, c) (name, d)) (h : List.Forall₂ q entries others) :
    List.Forall₂ q (write name c entries) (write name d others) := by
  induction h
  case nil => exact .cons hc .nil
  case cons a b _ _ ha ht ih =>
    by_cases hm : a.1 = name
    case pos =>
      rw [write, if_pos hm, write, if_pos (hn a b ha ▸ hm)]
      exact .cons hc ht
    case neg =>
      rw [write, if_neg hm, write, if_neg (hn a b ha ▸ hm)]
      exact .cons ha ih

-- Entries of one name are left out together.
theorem forall₂_registered {f g : Filter} (hn : ∀ a b, q a b → a.1 = b.1) (h : List.Forall₂ q f.entries g.entries)
    (R : Registration κ ρ) : List.Forall₂ q (f.registered R) (g.registered R) :=
  List.rel_filter (fun a b hq => by simp only [hn a b hq]) h

-- Only the entries on registered fields have to compile alike.
theorem alike_compile_of_forall₂ {f g : Filter} (hn : ∀ a b, q a b → a.1 = b.1)
    (h : List.Forall₂ q f.entries g.entries)
    (hp : ∀ a ∈ f.entries, ∀ b ∈ g.entries, q a b → ∀ field, R.field? a.1 = some field → Node.Parallel R R e r a b)
    (he : r .everything .everything) : Alike e (fun p q => r p.root q.root) (f.compile R) (g.compile R) := by
  have hq := List.forall₂_iff_zip.mp (forall₂_registered hn h R)
  refine alike_compile (List.forall₂_iff_zip.mpr ⟨hq.left, fun {a b} hm => ?_⟩) fun _ => he
  have ⟨ha, hb⟩ := List.of_mem_zip hm
  have ⟨ha, hr⟩ := List.mem_filter.mp ha
  have ⟨hb, _⟩ := List.mem_filter.mp hb
  have ⟨field, hf⟩ := Option.isSome_iff_exists.mp (Registration.isSome_field?_iff.mpr (of_decide_eq_true hr))
  exact hp a ha b hb (hq.right hm) field hf

end Filter
end RecordFilter
