import RecordFilter.Document.Codec
import RecordFilter.Proofs.Decimal.Shortest

namespace RecordFilter
namespace Codec

variable {α : Type} [Codec α] {Writable : α → Prop}

-- What can be written is what can be read.
structure Faithful (α : Type) [Codec α] (Writable : α → Prop) : Prop where
  decode?_encode_iff (x : α) : decode? (encode x) = some x ↔ Writable x
  writable {document : Document} {x : α} (h : decode? document = some x) : Writable x

-- Whatever form a document has that is read, it is written in the one form of what was read.
structure RoundTrips (α : Type) [Codec α] (Writable : α → Prop) : Prop where
  decode?_encode_iff (x : α) : decode? (encode x) = some x ↔ Writable x
  canonical {document : Document} {x : α} (h : decode? document = some x) :
    decode? (encode x) = some x ∧ ((decode? (encode x) : Option α).map encode) = some (encode x)
  encode_eq_iff {document other : Document} {x y : α} (hx : decode? document = some x) (hy : decode? other = some y) :
    encode x = encode y ↔ x = y

theorem Faithful.roundTrips (h : Faithful α Writable) : RoundTrips α Writable := by
  have hc {document : Document} {x : α} (hd : decode? document = some x) : decode? (encode x) = some x :=
    (h.decode?_encode_iff x).mpr (h.writable hd)
  refine ⟨h.decode?_encode_iff, fun hd => ?canonical, fun hx hy => ⟨fun he => ?injective, congrArg encode⟩⟩
  case canonical => exact ⟨hc hd, by rw [hc hd, Option.map_some]⟩
  case injective =>
    have hd := hc hx
    rw [he, hc hy, Option.some_inj] at hd
    exact hd.symm

-- What is written by name.
theorem Faithful.of_tag {tag : α → String} {ofTag? : String → Option α} (he : ∀ x : α, encode x = .text (tag x))
    (hd : ∀ document, (decode? document : Option α) = document.name?.bind ofTag?)
    (ht : ∀ x, ofTag? (tag x) = some x) : Faithful α fun _ => True where
  decode?_encode_iff x := by rw [he, hd]; simp [Document.name?, ht]
  writable _ := trivial

end Codec

theorem Kind.ofTag?_tag (k : Kind) : ofTag? k.tag = some k := by
  cases k
  case integer w => cases w <;> decide
  all_goals decide

theorem Operator.ofTag?_tag (operator : Operator) : ofTag? operator.tag = some operator := by
  cases operator
  case relation r => cases r <;> decide
  case contains   => decide

theorem Connective.ofTag?_tag (connective : Connective) : ofTag? connective.tag = some connective := by
  cases connective <;> decide

def Value.IsFinite : Value → Prop
  | float x => x.IsFinite
  | _       => True

namespace Document

variable {k : Kind} {v : Value} {content : Document}

theorem decodeFloat?_ofDouble_iff {x : Double} : decodeFloat? (ofDouble x) = some (.float x) ↔ x.IsFinite := by
  cases x
  case nan => simp [ofDouble, decodeFloat?, Binary.IsFinite]
  case number negative m =>
    by_cases hm : m.IsFinite
    case pos =>
      simp [ofDouble, hm, decodeFloat?, Number.toDouble?, Number.nearest, Decimal.nearest_shortest, Binary.IsFinite]
    case neg => simp [ofDouble, hm, decodeFloat?, Binary.IsFinite]

theorem isFinite_of_decodeFloat? (h : decodeFloat? content = some v) : v.IsFinite := by
  unfold decodeFloat? at h
  split at h
  case h_1 x =>
    obtain ⟨y, hy, rfl⟩ := Option.map_eq_some_iff.mp h
    rw [Number.toDouble?] at hy
    split at hy
    case isTrue hf =>
      cases hy
      exact hf
    case isFalse => cases hy
  case h_2 => cases h

theorem isFinite_of_decodeContent? (h : decodeContent? k content = some v) : v.IsFinite := by
  cases k
  case float => exact isFinite_of_decodeFloat? h
  case integer w =>
    simp only [decodeContent?, decodeInteger?] at h
    split at h
    case h_1 =>
      split at h
      case isTrue  => cases h; trivial
      case isFalse => cases h
    case h_2 => cases h
  case bool =>
    simp only [decodeContent?, decodeBool?] at h
    split at h <;> cases h
    trivial
  case text =>
    simp only [decodeContent?, decodeText?] at h
    split at h <;> cases h
    trivial

theorem decodeContent?_encodeContent_iff : decodeContent? v.kind (encodeContent v) = some v ↔ v.IsFinite := by
  cases v
  case integer w n h => simp [encodeContent, Value.kind, decodeContent?, decodeInteger?, h, Value.IsFinite]
  case float x       => exact decodeFloat?_ofDouble_iff
  case bool b        => exact ⟨fun _ => trivial, fun _ => rfl⟩
  case text s        => exact ⟨fun _ => trivial, fun _ => rfl⟩

end Document

namespace Codec

open Document

theorem faithful_kind : Faithful Kind fun _ => True :=
  .of_tag (fun _ => rfl) (fun _ => rfl) Kind.ofTag?_tag

theorem faithful_operator : Faithful Operator fun _ => True :=
  .of_tag (fun _ => rfl) (fun _ => rfl) Operator.ofTag?_tag

theorem faithful_connective : Faithful Connective fun _ => True :=
  .of_tag (fun _ => rfl) (fun _ => rfl) Connective.ofTag?_tag

theorem faithful_value : Faithful Value Value.IsFinite where
  decode?_encode_iff v := by
    rw [← decodeContent?_encodeContent_iff]
    simp only [encode, decode?, decodeValue?, Kind.ofTag?_tag, bind, Option.bind]
  writable {document v} h := by
    simp only [decode?] at h
    unfold decodeValue? at h
    split at h
    case h_1 tag content =>
      obtain ⟨k, -, hk⟩ := Option.bind_eq_some_iff.mp h
      exact isFinite_of_decodeContent? hk
    case h_2 => cases h

theorem ofDocuments?_eq_some_iff {operator value connective : Document} {c : Condition} :
    Condition.ofDocuments? operator value connective = some c ↔
      decode? operator = some c.operator ∧ decode? value = some c.value ∧ decode? connective = some c.connective := by
  obtain ⟨o, v, k⟩ := c
  simp only [Condition.ofDocuments?, Option.bind_eq_bind, Option.bind_eq_some_iff, Option.pure_def, Option.some.injEq,
    Condition.mk.injEq]
  constructor
  case mp =>
    rintro ⟨_, ho, _, hv, _, hk, rfl, rfl, rfl⟩
    exact ⟨ho, hv, hk⟩
  case mpr =>
    rintro ⟨ho, hv, hk⟩
    exact ⟨_, ho, _, hv, _, hk, rfl, rfl, rfl⟩

theorem exists_ofDocuments? {document : Document} {c : Condition} (h : decode? document = some c) :
    ∃ operator value connective, Condition.ofDocuments? operator value connective = some c := by
  simp only [decode?] at h
  split at h
  case h_1 members =>
    simp only [Option.bind_eq_bind, Option.bind_eq_some_iff] at h
    obtain ⟨operator, -, value, -, connective, -, h⟩ := h
    exact ⟨operator, value, connective, h⟩
  case h_2 operator value connective => exact ⟨operator, value, connective, h⟩
  case h_3 => cases h

theorem faithful_condition : Faithful Condition (·.value.IsFinite) where
  decode?_encode_iff c := by
    have ho := (faithful_operator.decode?_encode_iff c.operator).mpr trivial
    have hk := (faithful_connective.decode?_encode_iff c.connective).mpr trivial
    rw [← faithful_value.decode?_encode_iff]
    change Condition.ofDocuments? (encode c.operator) (encode c.value) (encode c.connective) = some c ↔ _
    rw [ofDocuments?_eq_some_iff]
    exact ⟨fun h => h.right.left, fun hv => ⟨ho, hv, hk⟩⟩
  writable {document c} h := by
    obtain ⟨operator, value, connective, hd⟩ := exists_ofDocuments? h
    exact faithful_value.writable (ofDocuments?_eq_some_iff.mp hd).right.left

-- A float is written with its sign and with digits enough to tell it from all others, so it comes back bit for bit.
theorem round_trips :
    RoundTrips Kind (fun _ => True) ∧ RoundTrips Operator (fun _ => True) ∧ RoundTrips Connective (fun _ => True) ∧
      RoundTrips Value Value.IsFinite ∧ RoundTrips Condition (·.value.IsFinite) :=
  ⟨faithful_kind.roundTrips, faithful_operator.roundTrips, faithful_connective.roundTrips, faithful_value.roundTrips,
    faithful_condition.roundTrips⟩

-- Two forms of one condition: a number may be an integer, and what is not known is passed over.
example :
    let array : Document := .array
      [.object [("Equal", .null)], .object [("F64", .number (.integer 3))], .text "Or"]
    let object : Document := .object
      [("connective", .object [("Or", .null)]), ("note", .text ""),
        ("value", .object [("F64", .number (.decimal false ⟨30, -1⟩))]), ("operator", .text "Equal")]
    (decode? array : Option Condition) = decode? object ∧ (decode? array : Option Condition).isSome := by
  decide +kernel

end Codec
end RecordFilter
