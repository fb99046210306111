import RecordFilter.Binary.Text

namespace RecordFilter

-- A number written without point and power of ten is an integer, all others are decimals.
inductive Document.Number
  | integer (n : Int)
  | decimal (negative : Bool) (magnitude : Decimal)
deriving DecidableEq

inductive Document
  | null
  | bool (b : Bool)
  | number (x : Document.Number)
  | text (s : String)
  | array (items : List Document)
  | object (members : List (String × Document))

namespace Document

namespace Number

-- The negative zero is no integer.
def ofText? (cs : List Char) : Option Number :=
  let (negative, unsigned) := Numeral.splitSign cs
  match Numeral.toInt? cs with
  | some n => some (if negative ∧ n = 0 then decimal true ⟨0, 0⟩ else integer n)
  | none   => (Decimal.read? unsigned).map (decimal negative)

def nearest : Number → Double
  | integer n          => Binary.ofInt n
  | decimal negative d => .number negative (d.nearest _)

-- A number beyond the greatest double is none, rather than an infinity.
def toDouble? (x : Number) : Option Double :=
  if x.nearest.IsFinite then some x.nearest else none

end Number

-- What is not finite has no number, and is written `null`.
def ofDouble : Double → Document
  | .nan => null
  | .number negative m => if m.IsFinite then number (.decimal negative (Decimal.shortest m)) else null

-- Of members that share a name only the last one counts.
def ofMembers (members : List (String × Document)) : Document :=
  object (members.foldr (fun member later => if later.any (·.1 = member.1) then later else member :: later) [])

def member? (members : List (String × Document)) (name : String) : Option Document :=
  (members.find? (·.1 = name)).map Prod.snd

end Document
end RecordFilter
