namespace RecordFilter

-- Powers of naturals are those of the core library, whatever else is imported.
attribute [local instance (2000)] instPowNat

namespace Binary

structure Format where
  fractionBits : Nat
  exponents    : Nat
deriving DecidableEq, Repr

namespace Format

-- The numbers share `exponents` exponents, and the infinity takes the one after them.
def binary64 : Format := ⟨52, 2047⟩
def binary32 : Format := ⟨23, 255⟩

def infinityCode (f : Format) : Nat :=
  f.exponents * 2 ^ f.fractionBits

-- Every finite number is a multiple of the least positive one, which is `2 ^ (-f.scale)`.
def scale (f : Format) : Nat :=
  f.exponents / 2 - 1 + f.fractionBits

-- The weight of the sign bit, which stands in front of the bits of the code.
def signWeight (f : Format) : Nat :=
  (f.exponents + 1) * 2 ^ f.fractionBits

end Format

-- The numbers that are not negative are counted upwards from zero, and the infinity comes last.
structure Magnitude (f : Format) where
  code    : Nat
  code_le : code ≤ f.infinityCode
deriving DecidableEq

namespace Magnitude

variable {f : Format}

def zero : Magnitude f := ⟨0, Nat.zero_le _⟩

def infinity : Magnitude f := ⟨f.infinityCode, Nat.le_refl _⟩

@[ext]
theorem ext {m n : Magnitude f} (h : m.code = n.code) : m = n := by
  cases m; cases n; cases h; rfl

def IsFinite (m : Magnitude f) : Prop :=
  m.code < f.infinityCode

instance : DecidablePred (@IsFinite f) :=
  fun m => inferInstanceAs (Decidable (m.code < f.infinityCode))

-- A finite magnitude as a multiple of the least positive number. Codes below `2 ^ fractionBits`
-- are their own multiples; from there on each further exponent doubles the distance between neighbours.
def units (m : Magnitude f) : Nat :=
  let exponent := m.code / 2 ^ f.fractionBits
  let fraction := m.code % 2 ^ f.fractionBits
  if exponent = 0 then fraction else (2 ^ f.fractionBits + fraction) * 2 ^ (exponent - 1)

end Magnitude
end Binary

inductive Binary (f : Binary.Format)
  | nan
  | number (negative : Bool) (magnitude : Binary.Magnitude f)
deriving DecidableEq

namespace Binary

variable {f : Format}

def zero : Binary f := number false .zero

def IsNaN : Binary f → Prop
  | nan => True
  | number _ _ => False

instance : DecidablePred (@IsNaN f)
  | nan => isTrue trivial
  | number _ _ => isFalse id

def IsFinite : Binary f → Prop
  | nan => False
  | number _ m => m.IsFinite

instance : DecidablePred (@IsFinite f)
  | nan => isFalse id
  | number _ m => inferInstanceAs (Decidable m.IsFinite)

-- The two zeros share a place, and `nan` has none.
def place : Binary f → Option Int
  | nan => none
  | number negative m => some (if negative then -(m.code : Int) else m.code)

def compare (a b : Binary f) : Option Ordering := do
  return Ord.compare (← a.place) (← b.place)

-- The codes past the infinity stand for no number.
def ofBits (bits : Nat) : Binary f :=
  if h : bits % f.signWeight ≤ f.infinityCode then
    number (f.signWeight ≤ bits) ⟨bits % f.signWeight, h⟩
  else
    nan

def bits? : Binary f → Option Nat
  | nan => none
  | number negative m => some (if negative then f.signWeight + m.code else m.code)

end Binary

abbrev Double := Binary .binary64

abbrev Single := Binary .binary32

end RecordFilter
