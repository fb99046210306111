import RecordFilter.Decimal.Plain
import RecordFilter.Decimal.Reader
import RecordFilter.Decimal.Shortest

namespace RecordFilter
namespace Binary

variable {f : Format}

def signed (negative : Bool) (cs : List Char) : List Char :=
  if negative then '-' :: cs else cs

def toText : Binary f → List Char
  | nan => ['N', 'a', 'N']
  | number negative m => signed negative <| if m.IsFinite then (Decimal.shortest m).plain else ['i', 'n', 'f']

-- The words for what no digits denote are read in any case of their letters.
def ofText? (cs : List Char) : Option (Binary f) :=
  let (negative, unsigned) := Numeral.splitSign cs
  let word := String.ofList (unsigned.map Char.toLower)
  if word = "nan" then
    some nan
  else if word = "inf" ∨ word = "infinity" then
    some (number negative .infinity)
  else
    (Decimal.read? unsigned).map fun d => number negative (d.nearest f)

end Binary
end RecordFilter
