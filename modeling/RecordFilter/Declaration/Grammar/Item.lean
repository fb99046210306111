import RecordFilter.Declaration.Grammar.Expression

namespace RecordFilter
namespace Rule

section Parameters

def parameter : Rule :=
  attributes ++ (
    word ["const"] ++ name ++ sign ":" ++ phrase (.type true) ++ optional (sign "=" ++ (constant <|> name)) <|>
    name ++ bounded bounds ++ optional (sign "=" ++ phrase (.type true)))

-- Parameters are written like arguments, with the lifetimes first, but not if there are none.
def parameters : Rule :=
  silent (sign "<" ++ sign ">") <|>
  optional (sign "<" ++ sorted lifetimeParameter parameter ++ sign ">")

def requirement : Rule :=
  lifetime ++ sign ":" ++ optional (joined "+" lifetime) <|>
  optional anyLifetimes ++ phrase (.type true) ++ sign ":" ++ optional bounds

def requirements : Rule :=
  optional (word ["where"] ++ joined "," requirement <|> silent (word ["where"]))

end Parameters

section Functions

def receiver : Rule :=
  optional (sign "&" ++ optional lifetime) ++ optional (word ["mut"]) ++ word ["self"] ++ notAhead (sign "::") ++
  optional (sign ":" ++ phrase (.type true))

def input : Rule :=
  attributes ++ (
    receiver <|>
    sign "..." <|>
    phrase .pattern ++ sign ":" ++ (sign "..." <|> phrase (.type true)))

def function : Rule :=
  optional (word ["const"]) ++ optional (word ["async"]) ++ optional (word ["unsafe"]) ++
  optional (word ["extern"] ++ optional literal) ++ word ["fn"] ++ name ++ parameters ++
  parenthesised (list input) ++ optional (sign "->" ++ phrase (.type true)) ++ requirements ++
  (phrase .block <|> sign ";")

end Functions

section Members

def namedMembers : Rule :=
  braced (list (attributes ++ visibility ++ name ++ sign ":" ++ phrase (.type true)))

def unnamedMembers : Rule :=
  parenthesised (list (attributes ++ visibility ++ phrase (.type true)))

def recordType : Rule :=
  word ["struct", "union"] ++ name ++ parameters ++ (
    unnamedMembers ++ requirements ++ sign ";" <|>
    requirements ++ (namedMembers <|> sign ";"))

def variant : Rule :=
  attributes ++ visibility ++ name ++ optional (namedMembers <|> unnamedMembers) ++
  optional (sign "=" ++ phrase (.expression true))

def enumeration : Rule :=
  word ["enum"] ++ name ++ parameters ++ requirements ++ braced (list variant)

end Members

section Items

def useTreeRule : Rule :=
  braced (list (phrase .useTree)) <|>
  sign "*" <|>
  optional (sign "::") ++ (name <|> word ["self", "super", "crate", "Self"]) ++ optional (
    sign "::" ++ phrase .useTree <|>
    word ["as"] ++ (name <|> word ["_"]))

def itemBlock : Rule :=
  braced (innerAttributes ++ many (phrase .item <|> attributes ++ plainPath ++ sign "!" ++ anyRaw ++ optional (sign ";")))

def itemRule : Rule :=
  attributes ++ visibility ++ optional (word ["default"]) ++ (
    word ["use"] ++ phrase .useTree ++ sign ";" <|>
    function <|>
    word ["const"] ++ (name <|> word ["_"]) ++ parameters ++ sign ":" ++ phrase (.type true) ++
      optional (sign "=" ++ phrase (.expression true)) ++ requirements ++ sign ";" <|>
    word ["static"] ++ optional (word ["mut"]) ++ name ++ sign ":" ++ phrase (.type true) ++
      optional (sign "=" ++ phrase (.expression true)) ++ sign ";" <|>
    recordType <|>
    enumeration <|>
    word ["type"] ++ name ++ parameters ++ bounded bounds ++ requirements ++
      optional (sign "=" ++ phrase (.type true)) ++ requirements ++ sign ";" <|>
    optional (word ["unsafe"]) ++ optional (word ["auto"]) ++ word ["trait"] ++ name ++ parameters ++ bounded bounds ++
      requirements ++ itemBlock <|>
    optional (word ["unsafe"]) ++ word ["impl"] ++ parameters ++ optional (sign "!") ++ phrase (.type true) ++
      optional (word ["for"] ++ phrase (.type true)) ++ requirements ++ itemBlock <|>
    word ["mod"] ++ name ++ (sign ";" <|> itemBlock) <|>
    word ["extern"] ++ word ["crate"] ++ (name <|> word ["self"]) ++
      optional (word ["as"] ++ (name <|> word ["_"])) ++ sign ";" <|>
    optional (word ["unsafe"]) ++ word ["extern"] ++ optional literal ++ itemBlock <|>
    plainPath ++ sign "!" ++ name ++ anyRaw ++ optional (sign ";"))

end Items

section Blocks

-- A macro with braces is a statement of its own, unless something is taken from its value.
def macroStatement : Rule :=
  attributes ++ plainPath ++ sign "!" ++ raw .braces ++
  notAhead (notAhead (sign "..") ++ sign "." <|> sign "?") ++ optional (sign ";")

def binding : Rule :=
  attributes ++ word ["let"] ++ phrase .pattern ++ optional (sign ":" ++ phrase (.type true)) ++
  optional (sign "=" ++ phrase (.expression true) ++ optional (word ["else"] ++ phrase .block)) ++ sign ";"

def blockRule : Rule :=
  braced (innerAttributes ++ many (
    sign ";" <|>
    macroStatement <|>
    binding <|>
    phrase .item <|>
    phrase .statement ++ optional (sign ";")))

end Blocks

end Rule
end RecordFilter
