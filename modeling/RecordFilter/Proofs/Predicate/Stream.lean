import Mathlib.Data.List.TakeWhile
import RecordFilter.Predicate.Stream

namespace RecordFilter.Predicate

variable {κ ρ ι : Type} {R : Registration κ ρ}

namespace Stream

variable {s t u : Stream R ι} {item : ι} {items : List ι}

-- A stream after some calls to `next` which all found an item, and the items that they found.
inductive Yields : Stream R ι → List ι → Stream R ι → Prop
  | nil (s : Stream R ι) : Yields s [] s
  | cons {s t u : Stream R ι} {item : ι} {items : List ι} (h : s.next = (some item, t)) (ht : Yields t items u) :
      Yields s (item :: items) u

-- What was passed over for some items: all up to and including the last of them, and nothing else.
structure Uses (s : Stream R ι) (passed items : List ι) (t : Stream R ι) : Prop where
  source : s.source = passed ++ t.source
  items  : passed.filter s.accepts = items
  last   : ∀ last ∈ passed.getLast?, s.accepts last
  frame  : t = { s with source := t.source }

theorem next_of_rejected (h : ∀ other ∈ s.source, ¬ s.accepts other) : s.next = (none, { s with source := [] }) := by
  have hd : (s.source.dropWhile fun item => !s.accepts item) = [] := by simpa [List.dropWhile_eq_nil_iff] using h
  rw [next, hd]

theorem next_of_accepts {passed rest : List ι} (hs : s.source = passed ++ item :: rest)
    (hp : ∀ other ∈ passed, ¬ s.accepts other) (h : s.accepts item) :
    s.next = (some item, { s with source := rest }) := by
  have hd : (s.source.dropWhile fun item => !s.accepts item) = item :: rest := by
    rw [hs, List.dropWhile_append_of_pos (by simpa using hp), List.dropWhile_cons_of_neg (by simp [h])]
  rw [next, hd]

-- Either all that is left is rejected, or there is a first item that is accepted.
theorem rejected_or_first_accepted (s : Stream R ι) :
    (∀ other ∈ s.source, ¬ s.accepts other) ∨ ∃ passed item rest, s.source = passed ++ item :: rest ∧
      (∀ other ∈ passed, ¬ s.accepts other) ∧ s.accepts item := by
  cases h : s.source.find? s.accepts
  case none => exact .inl (List.find?_eq_none.mp h)
  case some item =>
    obtain ⟨ha, passed, rest, hs, hp⟩ := List.find?_eq_some_iff_append.mp h
    exact .inr ⟨passed, item, rest, hs, by simpa using hp, ha⟩

theorem of_next_eq_some (h : s.next = (some item, t)) :
    ∃ passed, s.source = passed ++ item :: t.source ∧ (∀ other ∈ passed, ¬ s.accepts other) ∧ s.accepts item ∧
      t = { s with source := t.source } := by
  obtain hr | ⟨passed, item', rest, hs, hp, ha⟩ := s.rejected_or_first_accepted
  case inl => exact nomatch h.symm.trans (next_of_rejected hr)
  case inr =>
    cases h.symm.trans (next_of_accepts hs hp ha)
    exact ⟨passed, hs, hp, ha, rfl⟩

theorem fst_next_eq_none_iff : s.next.fst = none ↔ ∀ other ∈ s.source, ¬ s.accepts other := by
  obtain hr | ⟨passed, item, rest, hs, hp, ha⟩ := s.rejected_or_first_accepted
  case inl => simpa [next_of_rejected hr] using hr
  case inr =>
    rw [next_of_accepts hs hp ha]
    exact ⟨nofun, fun h => absurd ha (h item (by simp [hs]))⟩

theorem source_next_of_none (h : s.next.fst = none) : s.next.snd.source = [] := by
  rw [next_of_rejected (fst_next_eq_none_iff.mp h)]

namespace Uses

theorem nil (s : Stream R ι) : s.Uses [] [] s :=
  ⟨rfl, rfl, nofun, rfl⟩

-- One more call in front of the others.
theorem cons {passed rest : List ι} (hp : ∀ other ∈ passed, ¬ s.accepts other) (ha : s.accepts item)
    (h : t.Uses rest items u) (hs : s.source = passed ++ item :: t.source) (ht : t = { s with source := t.source }) :
    s.Uses (passed ++ item :: rest) (item :: items) u where
  source := by rw [hs, h.source, List.append_assoc, List.cons_append]
  items := by
    have hf : passed.filter s.accepts = [] := List.filter_eq_nil_iff.mpr hp
    have hr : rest.filter s.accepts = items := by rw [← h.items, ht]; rfl
    rw [List.filter_append, hf, List.nil_append, List.filter_cons_of_pos ha, hr]
  last := by
    have hl : ∀ last ∈ rest.getLast?, s.accepts last := by
      have hl := h.last
      rw [ht] at hl
      exact hl
    intro last hm
    rw [List.getLast?_append, List.getLast?_cons, Option.some_or, Option.mem_some_iff] at hm
    subst hm
    cases hr : rest.getLast?
    case none => exact ha
    case some last => exact hl last hr
  frame := by rw [h.frame, ht]

end Uses

theorem Yields.exists_uses (h : s.Yields items t) : ∃ passed, s.Uses passed items t := by
  induction h
  case nil s => exact ⟨[], .nil s⟩
  case cons hn _ ih =>
    obtain ⟨passed, hs, hp, ha, ht⟩ := of_next_eq_some hn
    obtain ⟨rest, hr⟩ := ih
    exact ⟨passed ++ _ :: rest, .cons hp ha hr hs ht⟩

theorem exists_yields_of_filter {more : List ι} (h : s.source.filter s.accepts = items ++ more) :
    ∃ t, s.Yields items t := by
  induction items generalizing s
  case nil => exact ⟨s, .nil s⟩
  case cons item items ih =>
    obtain ⟨passed, rest, hs, hp, ha, hr⟩ := List.filter_eq_cons_iff.mp h
    obtain ⟨u, hu⟩ := ih (s := { s with source := rest }) hr
    exact ⟨u, .cons (next_of_accepts hs hp ha) hu⟩

theorem Yields.filter_source (h : s.Yields items t) :
    s.source.filter s.accepts = items ++ t.source.filter s.accepts := by
  obtain ⟨passed, hu⟩ := h.exists_uses
  rw [hu.source, List.filter_append, hu.items]

theorem Yields.accepts_eq (h : s.Yields items t) : t.accepts = s.accepts := by
  obtain ⟨_, hu⟩ := h.exists_uses
  rw [hu.frame]
  rfl

theorem le_length_iff_exists_yields {k : Nat} :
    k ≤ (s.source.filter s.accepts).length ↔ ∃ items t, s.Yields items t ∧ items.length = k := by
  constructor
  case mp =>
    intro hk
    obtain ⟨t, ht⟩ := exists_yields_of_filter (List.take_append_drop k (s.source.filter s.accepts)).symm
    exact ⟨_, t, ht, List.length_take_of_le hk⟩
  case mpr =>
    rintro ⟨items, t, ht, rfl⟩
    rw [ht.filter_source, List.length_append]
    exact Nat.le_add_right ..

-- However many items were asked for, the stream has looked at no more of its source than it took to find them, and what
-- is accepted of the rest is still to come.
theorem yields_accepted (p : Predicate R) (record : ι → ρ) (source : List ι) :
    let accepts (item : ι) := p.accepts (record item)
    let s := p.filterBy record source
    (∀ k, k ≤ (source.filter accepts).length ↔ ∃ items t, s.Yields items t ∧ items.length = k) ∧
    (∀ items t, s.Yields items t →
      items = (source.filter accepts).take items.length ∧
      (∃ passed, source = passed ++ t.source ∧ passed.filter accepts = items ∧
        ∀ last ∈ passed.getLast?, accepts last) ∧
      (t.next.fst = none ↔ ∀ item ∈ t.source, ¬ accepts item) ∧
      (t.next.fst = none ↔ items = source.filter accepts) ∧
      (t.next.fst = none → t.next.snd.source = [])) ∧
    s.drain = source.filter accepts ∧
    s.drain.map record = (source.map record).filter p ∧
    s.drain.map record = (p.filter (source.map record)).drain ∧
    (p.filterBy record s.drain).drain = s.drain ∧
    (∀ more, (p.filterBy record (source ++ more)).drain = s.drain ++ (p.filterBy record more).drain) ∧
    (∀ {κ' : Type} {S : Registration κ' ρ} (q : Predicate S),
      (q.filterBy record s.drain).drain = (p.filterBy record (q.filterBy record source).drain).drain) := by
  intro accepts s
  have hd {κ : Type} {R : Registration κ ρ} (p : Predicate R) (source : List ι) :
      (p.filterBy record source).drain = source.filter fun item => p.accepts (record item) := drain_eq_filter _
  have hm : s.drain.map record = (source.map record).filter p := by
    rw [hd, List.filter_map]
    rfl
  refine ⟨fun k => le_length_iff_exists_yields (s := s), fun items t h => ?calls, hd p source, hm, ?owned, ?again,
    ?append, ?swap⟩
  case calls =>
    have hf : source.filter accepts = items ++ t.source.filter accepts := h.filter_source
    have ha : t.accepts = accepts := h.accepts_eq
    obtain ⟨passed, hu⟩ := h.exists_uses
    have hn : t.next.fst = none ↔ ∀ item ∈ t.source, ¬ accepts item := by rw [fst_next_eq_none_iff, ha]
    refine ⟨by rw [hf, List.take_left], ⟨passed, hu.source, hu.items, hu.last⟩, hn, ?_, source_next_of_none⟩
    rw [hn, hf, ← List.filter_eq_nil_iff]
    exact ⟨fun h => by rw [h, List.append_nil], List.self_eq_append_right.mp⟩
  case owned => rw [hm]; exact (drain_eq_filter (p.filter (source.map record))).symm
  case again => rw [hd, hd, List.filter_filter]; simp only [Bool.and_self]
  case append => exact fun more => by rw [hd, hd, hd, List.filter_append]
  case swap =>
    intro κ' S q
    rw [hd, hd, hd, hd, List.filter_filter, List.filter_filter]
    simp only [Bool.and_comm]

end Stream

end RecordFilter.Predicate
