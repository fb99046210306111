import RecordFilter.Declaration.Grammar.Type

namespace RecordFilter
namespace Rule

section Patterns

def alternatives : Rule :=
  optional (sign "|") ++ phrase .pattern ++
  many (notAhead (sign "||" <|> sign "|=") ++ sign "|" ++ phrase .pattern)

def number : Rule :=
  optional (sign "-") ++ literal <|> word ["true", "false"]

def rangeBound : Rule :=
  number <|> path false <|> word ["const"] ++ phrase .block

-- Three points are an older way to write a range that includes its end.
def rangeSign : Rule :=
  sign "..=" <|> silent (sign "...") ++ put "..=" <|> sign ".."

def patternRange : Rule :=
  rangeSign ++ optional rangeBound

def member : Rule :=
  index false <|> name

def fieldPattern : Rule :=
  attributes ++ (
    sign ".." <|>
    member ++ notAhead (sign "::") ++ sign ":" ++ alternatives <|>
    optional (word ["box"]) ++ optional (word ["ref"]) ++ optional (word ["mut"]) ++ name)

def patternRule : Rule :=
  word ["_"] <|>
  verbatim (word ["box"] ++ phrase .pattern) <|>
  number ++ optional patternRange <|>
  word ["const"] ++ phrase .block ++ optional patternRange <|>
  sign "&" ++ optional (word ["mut"]) ++ phrase .pattern <|>
  parenthesised (list alternatives) <|>
  bracketed (list alternatives) <|>
  patternRange <|>
  optional (word ["ref"]) ++ optional (word ["mut"]) ++ path false ++ optional (
    sign "!" ++ anyRaw <|>
    braced (list fieldPattern) <|>
    parenthesised (list alternatives) <|>
    sign "@" ++ phrase .pattern <|>
    patternRange)

end Patterns

section Operators

-- Longer signs come before those that they begin with.
def binaryOperator : Rule :=
  notAhead (sign "=>") ++ anySign [
    "<<=", ">>=", "+=", "-=", "*=", "/=", "%=", "^=", "&=", "|=", "&&", "||", "<<", ">>", "==", "<=", "!=", ">=",
    "+", "-", "*", "/", "%", "^", "&", "|", "<", ">", "="]

-- Each `&` stands by itself, however many there are.
def unaryOperator : Rule :=
  sign "&" ++ optional (word ["raw"] ++ word ["const", "mut"] <|> word ["mut"]) <|>
  sign "*" <|> sign "!" <|> sign "-"

-- Where no records are written, a block at the front belongs to what stands around the expression.
def notBlock (records : Bool) : Rule :=
  when (!records) (notAhead (raw .braces))

def range (records : Bool) : Rule :=
  sign "..=" ++ phrase (.operand records) <|>
  notAhead (sign "...") ++ sign ".." ++ optional (notBlock records ++ phrase (.operand records))

def moreOperands (records : Bool) : Rule :=
  many (
    word ["as"] ++ phrase (.type false) <|>
    range records <|>
    binaryOperator ++ phrase (.operand records))

end Operators

section Operands

def condition : Rule :=
  word ["if"] ++ phrase (.expression false) ++ phrase .block ++
  optional (word ["else"] ++ (phrase .condition <|> phrase .block))

def arm : Rule :=
  attributes ++ alternatives ++ optional (word ["if"] ++ phrase (.expression true)) ++ sign "=>" ++
  phrase .statement ++ optional (sign ",")

def loop : Rule :=
  word ["loop"] ++ phrase .block <|>
  word ["while"] ++ phrase (.expression false) ++ phrase .block <|>
  word ["for"] ++ notAhead (sign "<" ++ (lifetime <|> sign ">")) ++ alternatives ++ word ["in"] ++
    phrase (.expression false) ++ phrase .block

-- Expressions that end with a block, and so need no semicolon after them.
def blockLike : Rule :=
  condition <|>
  loop <|>
  word ["match"] ++ phrase (.expression false) ++ braced (innerAttributes ++ many arm) <|>
  optional (word ["unsafe", "try", "const"]) ++ phrase .block <|>
  lifetime ++ sign ":" ++ (loop <|> phrase .block)

def closure (records : Bool) : Rule :=
  let input := attributes ++ phrase .pattern ++ optional (sign ":" ++ phrase (.type true))
  optional anyLifetimes ++ optional (word ["const"]) ++ optional (word ["static"]) ++ optional (word ["async"]) ++
  optional (word ["move"]) ++ sign "|" ++ list input ++ sign "|" ++
  (sign "->" ++ phrase (.type true) ++ phrase .block <|> phrase (.expression records))

def fieldValue : Rule :=
  attributes ++ member ++ optional (sign ":" ++ phrase (.expression true))

def fieldValues : Rule :=
  list fieldValue ++ optional (sign ".." ++ optional (phrase (.expression true)))

def elements : Rule :=
  optional (phrase (.expression true) ++ (
    sign ";" ++ phrase (.expression true) <|>
    many (sign "," ++ phrase (.expression true)) ++ optional (sign ",")))

def atom (records : Bool) : Rule :=
  literal <|> word ["true", "false"] <|>
  word ["async"] ++ optional (word ["move"]) ++ phrase .block <|>
  blockLike <|>
  closure records <|>
  path false ++ optional (sign "!" ++ anyRaw <|> when records (braced fieldValues)) <|>
  parenthesised (list (phrase (.expression true))) <|>
  bracketed elements <|>
  word ["break"] ++ optional lifetime ++ optional (notBlock records ++ phrase (.expression true)) <|>
  word ["continue"] ++ optional lifetime <|>
  word ["return", "yield", "become"] ++ optional (phrase (.expression true)) <|>
  word ["let"] ++ alternatives ++ sign "=" ++ phrase (.operand records) <|>
  range records <|>
  word ["_"]

-- What is taken from a value: a result, an item, a field, or the value inside it.
def taken : Rule :=
  parenthesised (list (phrase (.expression true))) <|>
  bracketed (phrase (.expression true)) <|>
  sign "?" <|>
  notAhead (sign "..") ++ sign "." ++ many (index true) ++
    (index false <|> word ["await"] <|> name ++ optional (sign "::" ++ arguments))

def operandRule (records : Bool) : Rule :=
  attributes ++ (unaryOperator ++ phrase (.operand records) <|> atom records ++ many taken)

-- How tightly operators bind makes no difference to how they are written.
def expressionRule (records : Bool) : Rule :=
  phrase (.operand records) ++ moreOperands records

-- A block at the front of a statement ends the expression, unless something is taken from its value.
def statementRule : Rule :=
  attributes ++ blockLike ++ optional (
    ahead (notAhead (sign "..") ++ sign "." <|> sign "?") ++ many taken ++ moreOperands true) <|>
  phrase (.expression true)

end Operands

end Rule
end RecordFilter
