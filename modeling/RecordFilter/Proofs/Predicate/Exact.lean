import RecordFilter.Proofs.Predicate.LeftFold
import RecordFilter.Proofs.Value.Exact

namespace RecordFilter

variable {κ ρ : Type} {R : Registration κ ρ} {name : String} {field : Field κ} {c : Condition} {f : Filter}

namespace Filter

theorem selection_of_entry (he : f.entries = [(name, c)]) (hf : R.field? name = some field) :
    f.selection R = .ofEntry (name, c) := by
  have hr : R.Registers name := Registration.isSome_field?_iff.mp (hf ▸ rfl)
  simp [selection, registered, he, hr, Selection.ofEntries]

theorem compile_of_entry (he : f.entries = [(name, c)]) (hf : R.field? name = some field) :
    f.compile R = (Test.compile R field c.operator c.value).map fun test =>
      ⟨.ofEntry (name, c), .comparison field.accessor test⟩ := by
  rw [compile_eq, selection_of_entry he hf, Node.compile_ofEntry hf]
  cases Test.compile R field c.operator c.value <;> rfl

theorem compile_isOk_iff_of_entry (he : f.entries = [(name, c)]) (hf : R.field? name = some field) :
    (∃ p, f.compile R = .ok p) ↔
      field.kind.Supports c.operator ∧ ∃ literal, c.value.castTo field.kind = .ok literal := by
  rw [compile_of_entry he hf, Test.compile_eq]
  by_cases hs : field.kind.Supports c.operator
  case pos => cases c.value.castTo field.kind <;> simp [hs, Except.map, Except.mapError]
  case neg => simp [hs, Except.map]

theorem accepts_of_entry (he : f.entries = [(name, c)]) (hf : R.field? name = some field) {p : Predicate R}
    (h : f.compile R = .ok p) :
    ∃ literal, c.value.castTo field.kind = .ok literal ∧
      ∀ item, p.accepts item = c.operator.holds (R.read field.accessor item) literal := by
  rw [compile_of_entry he hf] at h
  cases ht : Test.compile R field c.operator c.value <;> rw [ht] at h <;> cases h
  have ⟨hs, literal, hc, ht⟩ := Test.of_compile ht
  exact ⟨literal, hc, fun item => ht ▸ Test.holds_ofLiteral hs (Value.kind_of_castTo hc) _⟩

theorem exists_compile_of_entry {literal : Value} (he : f.entries = [(name, c)]) (hf : R.field? name = some field)
    (hs : field.kind.Supports c.operator) (hl : c.value.castTo field.kind = .ok literal) :
    ∃ p, f.compile R = .ok p ∧ ∀ item, p.accepts item = c.operator.holds (R.read field.accessor item) literal := by
  have ⟨p, hp⟩ := (compile_isOk_iff_of_entry he hf).mpr ⟨hs, _, hl⟩
  have ⟨literal', hl', ha⟩ := accepts_of_entry he hf hp
  cases hl.symm.trans hl'
  exact ⟨p, hp, ha⟩

end Filter

-- A literal is refused if the kind of the field does not have its number. A `nan` on either side is unequal to
-- everything.
theorem Predicate.accepts_iff_exact {r : Relation} (he : f.entries = [(name, c)]) (hr : c.operator = .relation r)
    (hf : R.field? name = some field) (hk : field.kind.IsNumeric) (hv : c.value.kind.IsNumeric) :
    ((∃ p, f.compile R = .ok p) ↔
      ∃ literal : Value, literal.kind = field.kind ∧ literal.number? = c.value.number?) ∧
    ∀ p, f.compile R = .ok p → ∀ item, (R.read field.accessor item).kind = field.kind →
      (p.accepts item ↔ r.Exact (R.read field.accessor item).number? c.value.number?) := by
  have ht : c.value.kind ≠ .text := fun h => by rw [h] at hv; exact hv
  constructor
  case left =>
    have hs : field.kind.Supports c.operator := by
      rw [hr]
      exact fun _ hb => by rw [hb] at hk; exact hk
    rw [Filter.compile_isOk_iff_of_entry he hf, ← Value.castTo_isOk_iff hk ht]
    exact and_iff_right hs
  case right =>
    intro p hp item hi
    have ⟨literal, hc, ha⟩ := Filter.accepts_of_entry he hf hp
    rw [ha, hr, ← Value.number?_of_castTo hk ht hc]
    exact Value.holds_compare_iff (hi ▸ hk) (hi.trans (Value.kind_of_castTo hc).symm) r

-- From `2 ^ 53` on the floats are even integers. The literal is the next of them, and the field stays below it.
theorem Predicate.accepts_iff_exact_next :
    let R : Registration Unit Double := ⟨"Sample", [⟨"level", .float, ()⟩], fun _ x => .float x⟩
    let f := Filter.empty.or "level" (.relation .greaterOrEqual) (.integer .w64 9007199254740994 (by decide))
    (∃ p, f.compile R = .ok p) ∧
      ∀ p, f.compile R = .ok p → ¬ p.accepts (.ofInt 9007199254740992) := by
  intro R f
  have h := accepts_iff_exact (f := f) (R := R) rfl rfl rfl trivial trivial
  have hx : (Binary.ofInt 9007199254740992 : Double).number? = some (.ofRat (9007199254740992 : Int)) :=
    Binary.toInt?_eq_some_iff.mp (by decide +kernel)
  have hl : (Binary.ofInt 9007199254740994 : Double).number? = some (.ofRat (9007199254740994 : Int)) :=
    Binary.toInt?_eq_some_iff.mp (by decide +kernel)
  refine ⟨h.left.mpr ⟨.float (.ofInt 9007199254740994), rfl, hl⟩, fun p hp => ?_⟩
  rw [h.right p hp _ rfl]
  change ¬ Relation.Exact _ (Binary.ofInt 9007199254740992 : Double).number? (some _)
  rw [hx]
  exact not_le.mpr (Number.ofRat_lt_ofRat.mpr (Int.cast_lt.mpr (by decide)))

end RecordFilter
