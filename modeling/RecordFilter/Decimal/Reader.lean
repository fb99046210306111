import RecordFilter.Decimal.Basic
import RecordFilter.Text.Numeral

namespace RecordFilter
namespace Decimal

-- What follows the digits: nothing, or the power of ten.
def power? : List Char → Option Int
  | []      => some 0
  | c :: cs => if c = 'e' ∨ c = 'E' then Numeral.toInt? cs else none

def splitFraction : List Char → List Char × List Char
  | '.' :: cs => (cs.takeWhile Char.isDigit, cs.dropWhile Char.isDigit)
  | cs        => ([], cs)

def read? (cs : List Char) : Option Decimal :=
  let whole := cs.takeWhile Char.isDigit
  let (fraction, rest) := splitFraction (cs.dropWhile Char.isDigit)
  if whole = [] ∧ fraction = [] then
    none
  else
    (power? rest).map fun power => ⟨Nat.ofDigitChars 10 (whole ++ fraction) 0, power - fraction.length⟩

end Decimal
end RecordFilter
