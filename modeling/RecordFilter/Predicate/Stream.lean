import RecordFilter.Predicate.Basic

namespace RecordFilter

namespace Predicate

variable {κ ρ ι : Type} {R : Registration κ ρ}

-- The items of `source` are not yet looked at. Each holds, or leads to, a record.
structure Stream (R : Registration κ ρ) (ι : Type) where
  predicate : Predicate R
  record    : ι → ρ
  source    : List ι

namespace Stream

def accepts (s : Stream R ι) (item : ι) : Bool :=
  s.predicate.accepts (s.record item)

-- Items that are not accepted are passed over for good.
def next (s : Stream R ι) : Option ι × Stream R ι :=
  match s.source.dropWhile fun item => !s.accepts item with
  | []           => (none, { s with source := [] })
  | item :: rest => (some item, { s with source := rest })

theorem next_source_length_lt {s t : Stream R ι} {item : ι} (h : s.next = (some item, t)) :
    t.source.length < s.source.length := by
  unfold next at h
  split at h
  case h_1 => cases h
  case h_2 hd =>
    cases h
    have := (List.dropWhile_sublist (l := s.source) fun item => !s.accepts item).length_le
    rw [hd] at this
    exact this

-- All items that are still to come.
def drain (s : Stream R ι) : List ι :=
  match _h : s.next with
  | (none, _)      => []
  | (some item, t) => item :: t.drain
termination_by s.source.length
decreasing_by exact next_source_length_lt ‹_›

variable {p : Predicate R} {record : ι → ρ} {item : ι} {rest : List ι}

theorem next_cons_of_accepts (h : p.accepts (record item)) :
    next ⟨p, record, item :: rest⟩ = (some item, ⟨p, record, rest⟩) := by
  simp [next, accepts, h]

theorem next_cons_of_not_accepts (h : ¬ p.accepts (record item)) :
    next ⟨p, record, item :: rest⟩ = next ⟨p, record, rest⟩ := by
  simp [next, accepts, h]

theorem drain_nil : drain ⟨p, record, []⟩ = [] := by
  rw [drain]; rfl

theorem drain_cons_of_accepts (h : p.accepts (record item)) :
    drain ⟨p, record, item :: rest⟩ = item :: drain ⟨p, record, rest⟩ := by
  rw [drain]
  split <;> simp_all [next_cons_of_accepts h]

theorem drain_cons_of_not_accepts (h : ¬ p.accepts (record item)) :
    drain ⟨p, record, item :: rest⟩ = drain ⟨p, record, rest⟩ := by
  rw [drain]
  conv => rhs; rw [drain]
  split <;> split <;> simp_all [next_cons_of_not_accepts h]

theorem drain_eq_filter (s : Stream R ι) :
    s.drain = s.source.filter fun item => s.predicate.accepts (s.record item) := by
  obtain ⟨p, record, source⟩ := s
  induction source with
  | nil => exact drain_nil
  | cons item rest ih =>
    by_cases h : p.accepts (record item)
    case pos => simpa [drain_cons_of_accepts h, h] using ih
    case neg => simpa [drain_cons_of_not_accepts h, h] using ih

end Stream

def filterBy (p : Predicate R) (record : ι → ρ) (source : List ι) : Stream R ι :=
  ⟨p, record, source⟩

def filter (p : Predicate R) (source : List ρ) : Stream R ρ :=
  p.filterBy id source

end Predicate
end RecordFilter
