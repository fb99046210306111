import RecordFilter.Declaration.Description
import RecordFilter.Declaration.Grammar.Phrase
import RecordFilter.Declaration.Lexer

namespace RecordFilter

namespace Attribute

def isPathPart : Token → Bool
  | .word _     => true
  | .symbol c _ => c = ':'
  | _           => false

def ofTokens? (tokens : List Token) : Option Attribute :=
  let path := tokens.takeWhile isPathPart
  match tokens.dropWhile isPathPart with
  | []                    => some ⟨path, .bare⟩
  | [.group d content]    => some ⟨path, .list d content⟩
  | .symbol '=' _ :: rest => some ⟨path, .value rest⟩
  | _                     => none

-- The attributes at the front, and what they belong to.
def front? : List Token → Option (List Attribute × List Token)
  | .symbol '#' _ :: .group .brackets content :: tokens => do
    let first ← ofTokens? content
    let (others, rest) ← front? tokens
    return (first :: others, rest)
  | tokens => some ([], tokens)

end Attribute

namespace Member

def front? (tokens : List Token) : Option (Member × List Token) := do
  let (attributes, tokens) ← Attribute.front? tokens
  match ← Rule.visibility.read? tokens with
  | (visibility, .word ident :: .symbol ':' _ :: tokens) =>
    let (type, rest) ← (Rule.phrase (.type true)).read? tokens
    return (⟨attributes, visibility, ident, type⟩, rest)
  | _ => none

-- A comma stands between members, and may stand after the last one.
def all? : Nat → List Token → Option (List Member)
  | 0, _  => none
  | _, [] => some []
  | fuel + 1, tokens => do
    match ← front? tokens with
    | (m, [])                    => return [m]
    | (m, .symbol ',' _ :: rest) => return m :: (← all? fuel rest)
    | _                          => none

end Member

namespace Declaration

def record? (tokens : List Token) : Option Body := do
  match tokens with
  | .group .parentheses _ :: _ => return .tuple
  | tokens =>
    match ← Rule.requirements.read? tokens with
    | (_, .group .braces content :: _) => return .named (← Member.all? (content.length + 1) content)
    | _                                => return .unit

def ofTokens? (tokens : List Token) : Option Declaration := do
  let (_, tokens) ← Attribute.front? tokens
  match ← Rule.visibility.read? tokens with
  | (visibility, .word keyword :: .word name :: tokens) =>
    let (parameters, tokens) ← Rule.parameters.read? tokens
    let body ← match keyword with
      | "struct" => record? tokens
      | "enum"   => some .enumeration
      | "union"  => some .union
      | _        => none
    return ⟨visibility, name, parameters, body⟩
  | _ => none

def read? (s : String) : Option Declaration := do
  ofTokens? (← Token.read? s)

end Declaration
end RecordFilter
