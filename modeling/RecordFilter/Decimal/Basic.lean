import RecordFilter.Binary.Rounding

namespace RecordFilter

-- Powers of naturals are those of the core library, whatever else is imported.
attribute [local instance (2000)] instPowNat

-- `digits * 10 ^ exponent`
structure Decimal where
  digits   : Nat
  exponent : Int
deriving DecidableEq, Repr

namespace Decimal

def num (d : Decimal) : Nat :=
  d.digits * 10 ^ d.exponent.toNat

def den (d : Decimal) : Nat :=
  10 ^ (-d.exponent).toNat

-- Numbers far beyond the format's range on either side are settled before a power of ten is built,
-- which the exponent of a number from outside could make as long as it likes.
def nearest (f : Binary.Format) (d : Decimal) : Binary.Magnitude f :=
  if d.digits = 0 then
    .zero
  else if (f.exponents : Int) < d.exponent then
    .infinity
  else if d.exponent < -(d.digits.log2 + f.scale + 3) then
    .zero
  else
    .nearest f d.num d.den

end Decimal
end RecordFilter
