import RecordFilter.Declaration.Grammar.Item

namespace RecordFilter

namespace Token

mutual

-- The number of tokens in a token, itself included.
def size : Token → Nat
  | group _ tokens => sizes tokens + 1
  | _              => 1

def sizes : List Token → Nat
  | []              => 0
  | token :: tokens => token.size + sizes tokens

end

end Token

open Rule in
def Phrase.rule : Phrase → Rule
  | type goOn          => typeRule goOn
  | expression records => expressionRule records
  | operand records    => operandRule records
  | bounds             => Rule.bounds
  | path               => Rule.path true
  | pattern            => patternRule
  | condition          => Rule.condition
  | statement          => statementRule
  | block              => blockRule
  | item               => itemRule
  | useTree            => useTreeRule

-- What a rule reads at the front, in the form in which it is written, and what follows it. For each token, far fewer
-- rules than these are needed inside one another.
def Rule.read? (rule : Rule) (tokens : List Token) : Option (List Token × List Token) :=
  rule.read Phrase.rule (2000 * (Token.sizes tokens + 1)) tokens

end RecordFilter
