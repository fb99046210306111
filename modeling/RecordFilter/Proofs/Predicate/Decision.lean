import RecordFilter.Proofs.Predicate.LeftFold

namespace RecordFilter

namespace Connective

-- The outcome that settles what is joined, whatever was joined before.
def settling : Connective → Bool
  | and => false
  | or  => true

theorem join_eq (c : Connective) (before outcome : Bool) :
    c.join before outcome = if outcome = c.settling then outcome else before := by
  cases c <;> cases before <;> cases outcome <;> rfl

theorem settling_iff {c : Connective} : c.settling ↔ c = or := by
  cases c <;> decide

end Connective

variable {κ ρ : Type}

namespace Registration

def IsDecisive (R : Registration κ ρ) (item : ρ) (entry : String × Condition) : Prop :=
  (entry.2.connective = .or ∧ R.test? item entry = some true) ∨
    (entry.2.connective = .and ∧ R.test? item entry = some false)

-- What the conditions come to that were written after the first one, the latest of them in front. The first decisive
-- one ends the search.
def decideBackwards? (R : Registration κ ρ) (item : ρ) (first : String × Condition) :
    List (String × Condition) → Option Bool
  | []               => R.test? item first
  | entry :: earlier => do
    let outcome ← R.test? item entry
    if outcome = entry.2.connective.settling then
      return outcome
    else
      R.decideBackwards? item first earlier

variable {R : Registration κ ρ} {item : ρ} {first entry : String × Condition} {entries : List (String × Condition)}

theorem isDecisive_iff : R.IsDecisive item entry ↔ R.test? item entry = some entry.2.connective.settling := by
  rw [IsDecisive]
  cases entry.2.connective <;> simp [Connective.settling]

theorem decideBackwards?_cons {outcome : Bool} (h : R.test? item entry = some outcome) :
    R.decideBackwards? item first (entry :: entries) =
      if outcome = entry.2.connective.settling then some outcome else R.decideBackwards? item first entries := by
  rw [decideBackwards?, h]
  rfl

theorem decideBackwards?_cons_of_isDecisive (h : R.IsDecisive item entry) :
    R.decideBackwards? item first (entry :: entries) = some entry.2.connective.settling := by
  rw [decideBackwards?_cons (isDecisive_iff.mp h), if_pos rfl]

theorem decideBackwards?_append {later : List (String × Condition)}
    (ht : ∀ entry ∈ later, ∃ outcome, R.test? item entry = some outcome)
    (hd : ∀ entry ∈ later, ¬ R.IsDecisive item entry) :
    R.decideBackwards? item first (later ++ entries) = R.decideBackwards? item first entries := by
  induction later
  case nil => rfl
  case cons entry later ih =>
    have ⟨⟨outcome, ho⟩, ht⟩ := List.forall_mem_cons.mp ht
    have ⟨hd, hl⟩ := List.forall_mem_cons.mp hd
    have hs : outcome ≠ entry.2.connective.settling := fun hs => hd (isDecisive_iff.mpr (hs ▸ ho))
    rw [List.cons_append, decideBackwards?_cons ho, if_neg hs]
    exact ih ht hl

end Registration

variable {R : Registration κ ρ}

-- The induction is from the last condition, which stands at the top of the node and is looked at first.
theorem Node.decideBackwards?_of_compile {first : String × Condition} {entries : List (String × Condition)}
    {node : Node κ} (h : compile R (entries.foldl .extend (.ofEntry first)) = .ok node) (item : ρ) :
    (∀ entry ∈ first :: entries, ∃ outcome, R.test? item entry = some outcome) ∧
      R.decideBackwards? item first entries.reverse = some (node.eval (R.read · item)) := by
  induction entries using List.reverseRecOn generalizing node
  case nil =>
    have ht := test?_of_compile h item
    exact ⟨fun entry he => List.mem_singleton.mp he ▸ ⟨_, ht⟩, ht⟩
  case append_singleton entries entry ih =>
    rw [List.foldl_concat] at h
    obtain ⟨left, right, hl, hr, rfl⟩ := of_compile_extend h
    have ht := test?_of_compile hr item
    have ⟨he, hb⟩ := ih hl
    constructor
    case left =>
      intro other ho
      rw [← List.cons_append, List.mem_append, List.mem_singleton] at ho
      obtain ho | rfl := ho
      · exact he other ho
      · exact ⟨_, ht⟩
    case right =>
      rw [List.reverse_concat, Registration.decideBackwards?_cons ht, hb, eval_join, Connective.join_eq]
      split <;> rfl

-- Without a decisive condition the outcome is that of the first one, whose connective joins it to nothing.
theorem Predicate.last_decisive_settles {f : Filter} {p : Predicate R} {first : String × Condition}
    {rest : List (String × Condition)} (h : f.compile R = .ok p) (hr : f.registered R = first :: rest) (item : ρ) :
    (∀ entry ∈ f.registered R, ∃ outcome, R.test? item entry = some outcome) ∧
    (∀ before entry after, rest = before ++ entry :: after → R.IsDecisive item entry →
      (∀ later ∈ after, ¬ R.IsDecisive item later) → (p.accepts item ↔ entry.2.connective = .or)) ∧
    ((∀ entry ∈ rest, ¬ R.IsDecisive item entry) → R.test? item first = some (p.accepts item)) ∧
    R.decideBackwards? item first rest.reverse = some (p.accepts item) := by
  have hn : Node.compile R (rest.foldl .extend (.ofEntry first)) = .ok p.root := by
    have hn := (Filter.of_compile h).right
    rwa [Filter.selection, hr] at hn
  obtain ⟨ht, hb⟩ := Node.decideBackwards?_of_compile hn item
  refine ⟨hr ▸ ht, fun before entry after he hd hl => ?decisive, fun hd => ?first, hb⟩
  case decisive =>
    have ht : ∀ later ∈ after.reverse, ∃ outcome, R.test? item later = some outcome :=
      fun later hm => ht later (by simp [he, List.mem_reverse.mp hm])
    have hl : ∀ later ∈ after.reverse, ¬ R.IsDecisive item later := fun later hm => hl later (List.mem_reverse.mp hm)
    have hs : rest.reverse = after.reverse ++ entry :: before.reverse := by simp [he]
    rw [hs, Registration.decideBackwards?_append ht hl, Registration.decideBackwards?_cons_of_isDecisive hd] at hb
    rw [accepts, ← Option.some_inj.mp hb, Connective.settling_iff]
  case first =>
    have ht : ∀ entry ∈ rest.reverse, ∃ outcome, R.test? item entry = some outcome :=
      fun entry hm => ht entry (List.mem_cons_of_mem _ (List.mem_reverse.mp hm))
    have hd : ∀ entry ∈ rest.reverse, ¬ R.IsDecisive item entry := fun entry hm => hd entry (List.mem_reverse.mp hm)
    rw [← List.append_nil rest.reverse, Registration.decideBackwards?_append ht hd] at hb
    exact hb

-- The pet is accepted for its name and refused for not being wild, and its weight changes nothing.
theorem Predicate.last_decisive_settles_pet :
    let R : Registration Nat (Nat → Value) :=
      ⟨"Pet", [⟨"age", .integer .w32, 0⟩, ⟨"name", .text, 1⟩, ⟨"tame", .bool, 2⟩, ⟨"weight", .float, 3⟩],
        fun slot pet => pet slot⟩
    let f := Filter.empty
      |>.or "owner" .contains (.text "Kim")
      |>.add "age" (.relation .less) (.text "3")
      |>.or "name" .contains (.text "rex")
      |>.add "tame" (.relation .equal) (.integer .w16 0 (by decide))
      |>.or "weight" (.relation .notEqual) (.float .zero)
    let pet : Nat → Value
      | 0 => .integer .w32 7 (by decide)
      | 1 => .text "tyrannosaurus rex"
      | 2 => .bool true
      | _ => .float .zero
    ∃ p : Predicate R, f.compile R = .ok p ∧ R.IsDecisive pet ("name", ⟨.contains, .text "rex", .or⟩) ∧
      R.IsDecisive pet ("tame", ⟨.relation .equal, .integer .w16 0 (by decide), .and⟩) ∧ ¬ p.accepts pet := by
  intro R f pet
  have hn : R.IsDecisive pet ("name", ⟨.contains, .text "rex", .or⟩) := .inl ⟨rfl, rfl⟩
  have ht : R.IsDecisive pet ("tame", ⟨.relation .equal, .integer .w16 0 (by decide), .and⟩) := .inr ⟨rfl, rfl⟩
  have hw : ¬ R.IsDecisive pet ("weight", ⟨.relation .notEqual, .float .zero, .or⟩) := by
    rw [Registration.isDecisive_iff]
    exact nofun
  have hl : ∀ later ∈ [("weight", (⟨.relation .notEqual, .float .zero, .or⟩ : Condition))], ¬ R.IsDecisive pet later :=
    fun later hm => List.mem_singleton.mp hm ▸ hw
  have ⟨_, h, _⟩ := last_decisive_settles (f := f) (R := R) rfl rfl pet
  exact ⟨_, rfl, hn, ht, fun ha => nomatch (h [_] _ _ rfl ht hl).mp ha⟩

end RecordFilter
