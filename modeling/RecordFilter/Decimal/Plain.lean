import RecordFilter.Decimal.Basic

namespace RecordFilter
namespace Decimal

-- At least one digit stands in front of the point.
def plain (d : Decimal) : List Char :=
  let places := (-d.exponent).toNat
  if places = 0 then
    Nat.toDigits 10 d.num
  else
    let digits := Nat.toDigits 10 d.digits
    let padded := List.replicate (places + 1 - digits.length) '0' ++ digits
    let whole  := padded.length - places
    padded.take whole ++ '.' :: padded.drop whole

end Decimal
end RecordFilter
