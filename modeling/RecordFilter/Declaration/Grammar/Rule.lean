import RecordFilter.Declaration.Token
import RecordFilter.Text.Numeral

namespace RecordFilter

-- The phrases whose rules refer to one another. In a type without bounds a `+` does not go on, and in an expression
-- without records a brace does not go on after a path.
inductive Phrase
  | type (bounds : Bool)
  | expression (records : Bool)
  | operand (records : Bool)
  | bounds
  | path
  | pattern
  | condition
  | statement
  | block
  | item
  | useTree
deriving DecidableEq, Repr

-- A rule reads tokens from the front, and says how what was read is written: a sign becomes one unit however its symbols
-- were joined to their neighbours, and a few parts change their places.
inductive Rule
  | nothing
  | word (names : List String)
  | name
  | lifetime
  | literal
  | index (isOpen : Bool)
  | sign (s : String)
  | raw (d : Delimiter)
  | group (d : Delimiter) (content : Rule)
  | seq (first second : Rule)
  | choice (first second : Rule)
  | many (rule : Rule)
  | notAhead (rule : Rule)
  | silent (rule : Rule)
  | put (s : String)
  | verbatim (rule : Rule)
  | swapped (first second : Rule)
  | sorted (early late : Rule)
  | phrase (p : Phrase)

namespace Rule

instance : Append Rule := ⟨seq⟩

instance : OrElse Rule := ⟨fun first second => choice first (second ())⟩

def keywords : List String := [
  "_", "abstract", "as", "async", "await", "become", "box", "break", "const", "continue", "crate", "do", "dyn", "else",
  "enum", "extern", "false", "final", "fn", "for", "if", "impl", "in", "let", "loop", "macro", "match", "mod", "move",
  "mut", "override", "priv", "pub", "ref", "return", "Self", "self", "static", "struct", "super", "trait", "true",
  "try", "type", "typeof", "unsafe", "unsized", "use", "virtual", "where", "while", "yield"]

section Index

-- The digits of a number and their base, which letters after a zero at the front may give.
def digits : List Char → Nat × List Char
  | '0' :: 'x' :: cs => (16, cs)
  | '0' :: 'o' :: cs => (8, cs)
  | '0' :: 'b' :: cs => (2, cs)
  | cs               => (10, cs)

-- A position in a tuple, in plain decimal digits.
def position (cs : List Char) : Token :=
  let (base, cs) := digits cs
  .literal (String.ofList (Nat.toDigits 10 (Numeral.valueIn base (cs.filter (· ≠ '_')))))

-- Positions with points between them, which were read as one number.
def positions (cs : List Char) : List Char → List Token
  | []         => if cs.isEmpty then [] else [position cs.reverse]
  | '.' :: ds  => position cs.reverse :: .alone '.' :: positions [] ds
  | d :: ds    => positions (d :: cs) ds

end Index

section Combinations

def optional (rule : Rule) : Rule :=
  rule <|> nothing

def ahead (rule : Rule) : Rule :=
  notAhead (notAhead rule)

def failure : Rule :=
  notAhead nothing

-- The first of the signs that there is at the front.
def anySign (signs : List String) : Rule :=
  signs.foldr (fun s rule => sign s <|> rule) failure

-- At least one, with a sign between two, and possibly one at the end.
def joined (s : String) (rule : Rule) : Rule :=
  rule ++ many (sign s ++ rule) ++ optional (sign s)

def list (rule : Rule) : Rule :=
  optional (joined "," rule)

def anyRaw : Rule :=
  raw .parentheses <|> raw .brackets <|> raw .braces

def when (condition : Bool) (rule : Rule) : Rule :=
  if condition then rule else nothing

end Combinations

-- An entry of a list, whether it is one of those that are written first, and whether a comma follows it.
structure Entry where
  early  : Bool
  tokens : List Token
  comma  : Bool

-- A comma stands between entries in any case, and after the last one if it had one.
def separated : List Entry → List Token
  | []               => []
  | [entry]          => entry.tokens ++ if entry.comma then [.alone ','] else []
  | entry :: entries => entry.tokens ++ .alone ',' :: separated entries

def arranged (entries : List Entry) : List Token :=
  separated (entries.filter (·.early) ++ entries.filter (!·.early))

section Reading

variable (rules : Phrase → Rule)

mutual

-- What is written for the tokens that were read, and the tokens that follow them.
def read : Nat → Rule → List Token → Option (List Token × List Token)
  | 0, _, _ => none
  | fuel + 1, rule, tokens =>
    match rule, tokens with
    | nothing, tokens => some ([], tokens)
    | word names, .word w :: rest => if w ∈ names then some ([.word w], rest) else none
    | name, .word w :: rest => if w ∈ keywords then none else some ([.word w], rest)
    | lifetime, .lifetime a :: rest => some ([.lifetime a], rest)
    | literal, .literal s :: rest => some ([.literal s], rest)
    | literal, .text v s :: rest => some ([.text v s], rest)
    | index isOpen, .literal s :: rest =>
      if s.toList.head?.any Char.isDigit && isOpen == (s.toList.getLast? == some '.') then
        some (positions [] s.toList, rest)
      else
        none
    | sign s, tokens => (Token.afterSign? s.toList tokens).map fun rest => (Token.sign s.toList, rest)
    | raw d, .group d' content :: rest => if d = d' then some ([.group d content], rest) else none
    | group d rule, .group d' content :: rest =>
      match read fuel rule content with
      | some (written, []) => if d = d' then some ([.group d written], rest) else none
      | _                  => none
    | seq first second, tokens => do
      let (written, rest) ← read fuel first tokens
      let (written', rest) ← read fuel second rest
      return (written ++ written', rest)
    | choice first second, tokens => read fuel first tokens <|> read fuel second tokens
    | many rule, tokens =>
      match read fuel rule tokens with
      | none => some ([], tokens)
      | some (written, rest) => do
        let (written', rest) ← read fuel (many rule) rest
        return (written ++ written', rest)
    | notAhead rule, tokens => if (read fuel rule tokens).isSome then none else some ([], tokens)
    | silent rule, tokens => (read fuel rule tokens).map fun r => ([], r.2)
    | put s, tokens => some (Token.sign s.toList, tokens)
    | verbatim rule, tokens => (read fuel rule tokens).map fun r => (tokens.take (tokens.length - r.2.length), r.2)
    | swapped first second, tokens => do
      let (written, rest) ← read fuel first tokens
      let (written', rest) ← read fuel second rest
      return (written' ++ written, rest)
    | sorted early late, tokens => (readEntries fuel early late tokens).map fun r => (arranged r.1, r.2)
    | phrase p, tokens => read fuel (rules p) tokens
    | _, _ => none

def readEntries : Nat → Rule → Rule → List Token → Option (List Entry × List Token)
  | 0, _, _, _ => none
  | fuel + 1, early, late, tokens =>
    let first := ((read fuel early tokens).map fun r => (true, r)) <|> ((read fuel late tokens).map fun r => (false, r))
    match first with
    | none => some ([], tokens)
    | some (isEarly, written, .symbol ',' _ :: rest) =>
      (readEntries fuel early late rest).map fun r => (⟨isEarly, written, true⟩ :: r.1, r.2)
    | some (isEarly, written, rest) => some ([⟨isEarly, written, false⟩], rest)

end

end Reading
end Rule
end RecordFilter
