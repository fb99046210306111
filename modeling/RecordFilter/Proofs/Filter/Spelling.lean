import RecordFilter.Proofs.Predicate.Exact
import RecordFilter.Proofs.Predicate.Parallel
import RecordFilter.Proofs.Value.Text

namespace RecordFilter

variable {κ ρ : Type} {R : Registration κ ρ}

namespace Filter

-- Two entries that differ in their values at most, and that only before the values are cast.
structure CastAlike (R : Registration κ ρ) (a b : String × Condition) : Prop where
  name       : a.1 = b.1
  operator   : a.2.operator = b.2.operator
  connective : a.2.connective = b.2.connective
  castTo     : ∀ field, R.field? a.1 = some field → a.2.value.castTo field.kind = b.2.value.castTo field.kind

theorem CastAlike.refl (a : String × Condition) : CastAlike R a a :=
  ⟨rfl, rfl, rfl, fun _ _ => rfl⟩

theorem CastAlike.parallel {a b : String × Condition} (h : CastAlike R a b) {field : Field κ}
    (hf : R.field? a.1 = some field) : Node.Parallel R R Eq Node.Agree a b where
  compile := by
    rw [Node.compile_ofEntry hf, Node.compile_ofEntry (h.name ▸ hf), Test.compile_eq, Test.compile_eq, ← h.operator,
      ← h.castTo field hf]
    exact .refl (fun _ => rfl) Node.Agree.refl _
  join hl hr := h.connective ▸ hl.join _ hr

theorem alike_compile_of_castAlike {f g : Filter} (h : List.Forall₂ (CastAlike R) f.entries g.entries) :
    Alike Eq (fun p q => ∀ item, p.accepts item = q.accepts item) (f.compile R) (g.compile R) := by
  have hn (a b : String × Condition) (h : CastAlike R a b) : a.1 = b.1 := h.name
  have ha := alike_compile_of_forall₂ hn h (fun _ _ _ _ h _ hf => h.parallel hf) (.refl _)
  exact ha.mono fun p q hr item => hr _

theorem alike_compile_put_toText {v : Value} {name : String}
    (hk : ∀ field, R.field? name = some field → field.kind = v.kind) (f : Filter) (operator : Operator)
    (connective : Connective) :
    Alike Eq (fun p q => ∀ item, p.accepts item = q.accepts item)
      ((f.put name ⟨operator, v, connective⟩).compile R)
      ((f.put name ⟨operator, .text v.toText, connective⟩).compile R) := by
  have hn (a b : String × Condition) (h : CastAlike R a b) : a.1 = b.1 := h.name
  have hc : CastAlike R (name, ⟨operator, v, connective⟩) (name, ⟨operator, .text v.toText, connective⟩) :=
    ⟨rfl, rfl, rfl, fun field hf => by rw [hk field hf, Value.castTo_kind, Value.castTo_of_toText]⟩
  exact alike_compile_of_castAlike (forall₂_write hn hc (List.forall₂_same.mpr fun a _ => .refl a))

end Filter

-- Filters that were written with a value and with its text accept the same records, whatever else is in them.
theorem Value.castTo_text_castTo (v : Value) :
    ∃ s, v.castTo .text = .ok (.text s) ∧ (Value.text s).castTo v.kind = .ok v ∧
      ∀ {κ ρ : Type} (R : Registration κ ρ) (name : String) (field : Field κ) (operator : Operator),
        R.field? name = some field → field.kind = v.kind →
        (v.kind.Supports operator → ∃ p, (Filter.single name operator v).compile R = .ok p) ∧
        ∀ (f : Filter) (connective : Connective),
          Alike Eq (fun p q => ∀ item, p.accepts item = q.accepts item)
            ((f.put name ⟨operator, v, connective⟩).compile R)
            ((f.put name ⟨operator, .text s, connective⟩).compile R) := by
  refine ⟨v.toText, v.castTo_text, v.castTo_of_toText, fun R name field operator hf hk => ⟨?single, ?agree⟩⟩
  case single =>
    intro hs
    rw [← hk] at hs
    exact (Filter.compile_isOk_iff_of_entry rfl hf).mpr ⟨hs, v, hk ▸ v.castTo_kind⟩
  case agree =>
    intro f connective
    have hk (field' : Field _) (hf' : R.field? name = some field') : field'.kind = v.kind := by
      cases hf.symm.trans hf'
      exact hk
    exact Filter.alike_compile_put_toText hk f operator connective

-- The sign of a zero is part of its text.
theorem Value.castTo_text_castTo_zero :
    let R : Registration Unit Double := ⟨"Sample", [⟨"level", .float, ()⟩], fun _ x => .float x⟩
    let v : Value := .float (.number true .zero)
    v.castTo .text = .ok (.text "-0") ∧ (∃ p, (Filter.single "level" (.relation .less) v).compile R = .ok p) ∧
      Alike Eq (fun p q => ∀ item, p.accepts item = q.accepts item)
        ((Filter.empty.put "level" ⟨.relation .less, v, .and⟩).compile R)
        ((Filter.empty.put "level" ⟨.relation .less, .text "-0", .and⟩).compile R) := by
  intro R v
  have ht : v.castTo .text = .ok (.text "-0") := by decide +kernel
  obtain ⟨s, hs, -, h⟩ := castTo_text_castTo v
  cases ht.symm.trans hs
  have ⟨hp, ha⟩ := h R "level" ⟨"level", .float, ()⟩ (.relation .less) rfl rfl
  exact ⟨ht, hp (by decide), ha .empty .and⟩

end RecordFilter
