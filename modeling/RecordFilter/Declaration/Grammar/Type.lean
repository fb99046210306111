import RecordFilter.Declaration.Grammar.Rule

namespace RecordFilter
namespace Rule

def parenthesised (rule : Rule) : Rule := group .parentheses rule

def bracketed (rule : Rule) : Rule := group .brackets rule

def braced (rule : Rule) : Rule := group .braces rule

section Attributes

-- A path of names alone.
def plainPath : Rule :=
  optional (sign "::") ++ joined "::" (name <|> word ["super", "self", "Self", "crate"])

def attributeBody : Rule :=
  (word ["unsafe"] <|> plainPath) ++ optional (anyRaw <|> sign "=" ++ phrase (.expression true))

def attributes : Rule :=
  many (sign "#" ++ bracketed attributeBody)

-- Attributes of what they stand in.
def innerAttributes : Rule :=
  many (sign "#" ++ sign "!" ++ bracketed attributeBody)

def visibility : Rule :=
  optional (word ["pub"] ++ optional (parenthesised (
    word ["crate", "self", "super"] <|> word ["in"] ++ plainPath)))

end Attributes

section Paths

def constant : Rule :=
  optional (sign "-") ++ literal <|> word ["true", "false"] <|> phrase .block

-- A type may be given to a name, as in `Item = u8`, or bounds, as in `Item: Copy`.
def argument : Rule :=
  constant <|>
  phrase (.type true) ++ optional (
    sign "=" ++ (constant <|> phrase (.type true)) <|>
    sign ":" ++ optional (phrase .bounds))

def arguments : Rule :=
  sign "<" ++ sorted (lifetime ++ notAhead (sign "+")) argument ++ sign ">"

-- Empty brackets before parentheses are left out.
def noArguments : Rule :=
  silent (optional (sign "::") ++ sign "<" ++ sign ">") ++ ahead (optional (sign "::") ++ raw .parentheses)

-- In an expression a `<` without a `::` before it compares.
def segment (isType : Bool) : Rule :=
  let bracketed := sign "::" ++ arguments
  word ["super", "self", "crate", "try"] <|>
  (name <|> word ["Self"]) ++ optional (
    if isType then noArguments <|> notAhead (sign "<=") ++ arguments <|> bracketed else bracketed)

def segments (isType : Bool) : Rule :=
  segment isType ++ many (sign "::" ++ notAhead (raw .parentheses) ++ segment isType)

-- What a function takes and gives, behind the path to a type of functions. The `::` before it is left out.
def signature : Rule :=
  silent (optional (sign "::")) ++ parenthesised (list (phrase (.type true))) ++
  (sign "->" ++ phrase (.type false) <|> optional (sign "::" ++ segments true))

def path (isType : Bool) : Rule :=
  let qualifier := sign "<" ++ phrase (.type true) ++ optional (word ["as"] ++ phrase .path) ++ sign ">"
  (qualifier ++ sign "::" <|> optional (sign "::")) ++ segments isType ++ when isType (many signature)

end Paths

section Bounds

-- Without bounds there is no colon either.
def bounded (bounds : Rule) : Rule :=
  optional (sign ":" ++ bounds <|> silent (sign ":"))

def lifetimeParameter : Rule :=
  attributes ++ lifetime ++ bounded (joined "+" lifetime)

def anyLifetimes : Rule :=
  word ["for"] ++ sign "<" ++ list lifetimeParameter ++ sign ">"

-- A `?` before the lifetimes is written behind them.
def traitBound : Rule :=
  (swapped (sign "?") anyLifetimes <|> optional anyLifetimes ++ optional (sign "?")) ++ phrase .path

def bound : Rule :=
  lifetime <|>
  word ["use"] ++ sign "<" ++ sorted lifetime (name <|> word ["Self"]) ++ sign ">" <|>
  verbatim (sign "~" ++ word ["const"] ++ traitBound) <|>
  parenthesised traitBound <|>
  traitBound

def bounds : Rule :=
  joined "+" bound

end Bounds

section Types

-- The receiver of a method is kept as it is written.
def functionInput : Rule :=
  verbatim (word ["mut"] ++ word ["self"] ++ optional (sign ":" ++ phrase (.type true))) <|>
  optional ((name <|> word ["_", "self"]) ++ notAhead (sign "::") ++ sign ":") ++
    (sign "..." <|> phrase (.type true))

def functionType : Rule :=
  optional anyLifetimes ++ optional (word ["unsafe"]) ++ optional (word ["extern"] ++ optional literal) ++
  word ["fn"] ++ parenthesised (list (attributes ++ functionInput)) ++ optional (sign "->" ++ phrase (.type false))

-- The bounds of a type go on after the first one only where a `+` may follow a type.
def boundsOf (goOn : Bool) : Rule :=
  if goOn then phrase .bounds else bound

def moreBounds (goOn : Bool) : Rule :=
  when goOn (optional (sign "+" ++ optional (phrase .bounds)))

def typeRule (goOn : Bool) : Rule :=
  parenthesised (ahead (sign "?") ++ traitBound <|> list (phrase (.type true))) ++ moreBounds goOn <|>
  functionType <|>
  verbatim (word ["dyn"] ++ sign "*" ++ boundsOf goOn) <|>
  word ["dyn", "impl"] ++ boundsOf goOn <|>
  bracketed (phrase (.type true) ++ optional (sign ";" ++ phrase (.expression true))) <|>
  sign "*" ++ word ["const", "mut"] ++ phrase (.type false) <|>
  sign "&" ++ optional lifetime ++ optional (word ["mut"]) ++ phrase (.type false) <|>
  sign "!" <|>
  word ["_"] <|>
  ahead lifetime ++ phrase .bounds <|>
  optional anyLifetimes ++ phrase .path ++ (sign "!" ++ anyRaw <|> moreBounds goOn)

end Types

end Rule
end RecordFilter
