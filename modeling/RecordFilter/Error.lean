import RecordFilter.Condition
import RecordFilter.Value.Cast

namespace RecordFilter

inductive Error
  | fieldNotFound (field : String)
  | invalidAccessor (collection : String)
  | typeMismatch (collection field : String) (cause : CastError)
  | unsupportedOperator (collection field : String) (operator : Operator) (kind : Kind)
deriving DecidableEq

def Error.message : Error → String
  | fieldNotFound field => "field not found: " ++ field
  | invalidAccessor collection =>
    "invalid accessor: not a registered field getter of " ++ collection
  | typeMismatch collection field cause =>
    "type mismatch for " ++ collection ++ "." ++ field ++ ": " ++ cause.message
  | unsupportedOperator collection field operator kind =>
    "unsupported operator " ++ operator.symbol ++ " for " ++ collection ++ "." ++ field ++
      " of type " ++ kind.name

end RecordFilter
