import RecordFilter.Value.Basic

namespace RecordFilter

namespace Width.Fits

theorem of_signed {w : Width} {n low bound : Int} (h : low ≤ n) (h' : n < bound) (hl : w.least ≤ low)
    (hg : bound ≤ w.greatest + 1) : w.Fits n :=
  ⟨Int.le_trans hl h, Int.le_of_lt_add_one (Int.lt_of_lt_of_le h' hg)⟩

theorem of_unsigned {w : Width} {n bound : Nat} (h : n < bound) (hg : bound ≤ w.greatest + 1) : w.Fits n :=
  of_signed (Int.natCast_nonneg n) (Int.ofNat_lt.mpr h) (by cases w <;> decide) hg

end Width.Fits

theorem Value.integer_congr {w : Width} {m n : Int} {hm : w.Fits m} {hn : w.Fits n} (h : m = n) :
    integer w m hm = integer w n hn := by
  cases h
  rfl

namespace Kind

abbrev Carrier : Kind → Type
  | integer .w16 => Int16
  | integer .w32 => Int32
  | integer .w64 => Int64
  | float        => Double
  | bool         => Bool
  | text         => String

def toValue : (k : Kind) → k.Carrier → Value
  | integer .w16, n => .integer .w16 n.toInt (.of_signed n.le_toInt n.toInt_lt (by decide) (by decide))
  | integer .w32, n => .integer .w32 n.toInt (.of_signed n.le_toInt n.toInt_lt (by decide) (by decide))
  | integer .w64, n => .integer .w64 n.toInt (.of_signed n.le_toInt n.toInt_lt (by decide) (by decide))
  | float,        x => .float x
  | bool,         b => .bool b
  | text,         s => .text s

end Kind

-- The types that records may give their fields.
inductive Scalar
  | int8 | uint8 | int16 | uint16 | int32 | uint32 | int64 | single | double | bool | text
deriving DecidableEq, Repr

namespace Scalar

abbrev Carrier : Scalar → Type
  | int8   => Int8
  | uint8  => UInt8
  | int16  => Int16
  | uint16 => UInt16
  | int32  => Int32
  | uint32 => UInt32
  | int64  => Int64
  | single => Single
  | double => Double
  | bool   => Bool
  | text   => String

-- The least kind that has all elements of the type.
def kind : Scalar → Kind
  | int8   | uint8  | int16 => .integer .w16
  | uint16 | int32          => .integer .w32
  | uint32 | int64          => .integer .w64
  | single | double         => .float
  | bool                    => .bool
  | text                    => .text

-- The value that a literal of the type stands for.
def toValue : (t : Scalar) → t.Carrier → Value
  | int8,   n => .integer .w16 n.toInt (.of_signed n.le_toInt n.toInt_lt (by decide) (by decide))
  | uint8,  n => .integer .w16 n.toNat (.of_unsigned n.toNat_lt (by decide))
  | int16,  n => .integer .w16 n.toInt (.of_signed n.le_toInt n.toInt_lt (by decide) (by decide))
  | uint16, n => .integer .w32 n.toNat (.of_unsigned n.toNat_lt (by decide))
  | int32,  n => .integer .w32 n.toInt (.of_signed n.le_toInt n.toInt_lt (by decide) (by decide))
  | uint32, n => .integer .w64 n.toNat (.of_unsigned n.toNat_lt (by decide))
  | int64,  n => .integer .w64 n.toInt (.of_signed n.le_toInt n.toInt_lt (by decide) (by decide))
  | single, x => .float (x.convert _)
  | double, x => .float x
  | bool,   b => .bool b
  | text,   s => .text s

theorem kind_toValue (t : Scalar) (x : t.Carrier) : (t.toValue x).kind = t.kind := by
  cases t <;> rfl

def widen : (t : Scalar) → t.Carrier → t.kind.Carrier
  | int8,   n => n.toInt16
  | uint8,  n => Int16.ofNat n.toNat
  | int16,  n => n
  | uint16, n => Int32.ofNat n.toNat
  | int32,  n => n
  | uint32, n => Int64.ofNat n.toNat
  | int64,  n => n
  | single, x => x.convert _
  | double, x => x
  | bool,   b => b
  | text,   s => s

-- The value that is read from a field of the type. Literals go their own way to theirs.
def fieldValue (t : Scalar) (x : t.Carrier) : Value :=
  t.kind.toValue (t.widen x)

-- No number changes where its type is widened, so both come to the same.
theorem fieldValue_eq_toValue (t : Scalar) (x : t.Carrier) : t.fieldValue x = t.toValue x := by
  cases t
  case int8   => exact Value.integer_congr x.toInt_toInt16
  case uint8  => exact Value.integer_congr (Int16.toInt_ofNat_of_lt (Nat.lt_trans x.toNat_lt (by decide)))
  case uint16 => exact Value.integer_congr (Int32.toInt_ofNat_of_lt (Nat.lt_trans x.toNat_lt (by decide)))
  case uint32 => exact Value.integer_congr (Int64.toInt_ofNat_of_lt (Nat.lt_trans x.toNat_lt (by decide)))
  all_goals rfl

end Scalar
end RecordFilter
