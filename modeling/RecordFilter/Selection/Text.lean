import RecordFilter.Selection.Resolve

namespace RecordFilter

namespace Value

-- Within quotes a quote is written twice, and nulls are left out.
def quoteChar (c : Char) : List Char :=
  if c = '\'' then ['\'', '\''] else if c = '\x00' then [] else [c]

def quote (s : String) : List Char :=
  '\'' :: s.toList.flatMap quoteChar ++ ['\'']

-- Only texts are quoted.
def literal : Value → List Char
  | text s => quote s
  | v      => v.toText.toList

end Value

namespace Selection

def parenthesised (cs : List Char) : List Char :=
  '(' :: cs ++ [')']

def IsOr : Selection → Prop
  | or _ _ => True
  | _      => False

instance : DecidablePred IsOr
  | or _ _           => isTrue trivial
  | everything       => isFalse id
  | comparison _ _ _ => isFalse id
  | and _ _          => isFalse id

-- How a selection is written below an `AND`, given how it is written on its own.
def operand (selection : Selection) (cs : List Char) : List Char :=
  if selection.IsOr then parenthesised cs else cs

def chars : Selection → List Char
  | everything => "TRUE".toList
  | comparison field operator value =>
    field.toList ++ ' ' :: operator.symbol.toList ++ ' ' :: value.literal
  | and left right => left.operand left.chars ++ " AND ".toList ++ right.operand right.chars
  | or left right  => left.chars ++ " OR ".toList ++ right.chars

def toText (selection : Selection) : String :=
  String.ofList selection.chars

end Selection

def Filter.render {κ ρ : Type} (f : Filter) (R : Registration κ ρ) : String :=
  (f.selection R).toText

end RecordFilter
