import RecordFilter.Condition

namespace RecordFilter

inductive Selection
  | everything
  | comparison (field : String) (operator : Operator) (value : Value)
  | and (left right : Selection)
  | or (left right : Selection)
deriving DecidableEq

namespace Selection

def join : Connective → Selection → Selection → Selection
  | .and => and
  | .or  => or

-- Every mention of a field, from left to right.
def fields : Selection → List String
  | everything           => []
  | comparison field _ _ => [field]
  | and left right       => left.fields ++ right.fields
  | or left right        => left.fields ++ right.fields

-- Like the equality of the values in them, not the equality of the type.
def equals : Selection → Selection → Bool
  | everything,         everything         => true
  | comparison f o v,   comparison g p w   => f == g && o == p && v.equals w
  | and left right,     and left' right'   => left.equals left' && right.equals right'
  | or left right,      or left' right'    => left.equals left' && right.equals right'
  | _,                  _                  => false

end Selection
end RecordFilter
