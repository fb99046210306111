import RecordFilter.Declaration.Token
import RecordFilter.Text.Blank
import RecordFilter.Text.Numeral

namespace RecordFilter

-- Delimiters stand by themselves until all of a text is cut up. Only then it is known what they enclose.
inductive Lexeme
  | token (t : Token)
  | opening (d : Delimiter)
  | closing (d : Delimiter)

namespace Lexeme

-- The two marks of writing direction separate tokens as blanks do.
def isSpace (c : Char) : Bool :=
  isBlank c || c = '\u200e' || c = '\u200f'

-- Every letter beyond the first block of code points counts as one that may begin a word.
def isWordStart (c : Char) : Bool :=
  c.isAlpha || c = '_' || (c.toNat ≥ 128 && !isSpace c)

def isWordPart (c : Char) : Bool :=
  isWordStart c || c.isDigit

def isSymbol (c : Char) : Bool :=
  "~!@#$%^&*-=+|;:,<.>/?'".contains c

def delimiter? : Char → Option Lexeme
  | '('    => some (opening .parentheses)
  | ')'    => some (closing .parentheses)
  | '['    => some (opening .brackets)
  | ']'    => some (closing .brackets)
  | '\x7b' => some (opening .braces)
  | '\x7d' => some (closing .braces)
  | _      => none

section Comments

def opensComment : List Char → Bool
  | '/' :: '/' :: _ | '/' :: '*' :: _ => true
  | _ => false

-- What is inside a comment between `/*` and `*/`, and what follows it. The opening was read; `depth` comments are open
-- inside it.
def enclosed? : Nat → List Char → Option (List Char × List Char)
  | 0, '*' :: '/' :: cs         => some ([], cs)
  | depth + 1, '*' :: '/' :: cs => (enclosed? depth cs).map fun r => ('*' :: '/' :: r.1, r.2)
  | depth, '/' :: '*' :: cs     => (enclosed? (depth + 1) cs).map fun r => ('/' :: '*' :: r.1, r.2)
  | depth, c :: cs              => (enclosed? depth cs).map fun r => (c :: r.1, r.2)
  | _, []                       => none

-- The rest of a line, without its end, and what follows it.
def line : List Char → List Char × List Char
  | '\n' :: cs         => ([], '\n' :: cs)
  | '\r' :: '\n' :: cs => ([], '\n' :: cs)
  | c :: cs            => (c :: (line cs).1, (line cs).2)
  | []                 => ([], [])

-- A comment that documents: whether it speaks of what it stands in rather than of what follows, and its text.
def documentation? : List Char → Option ((Bool × List Char) × List Char)
  | '/' :: '/' :: '!' :: cs       => some ((true, (line cs).1), (line cs).2)
  | '/' :: '/' :: '/' :: '/' :: _ => none
  | '/' :: '/' :: '/' :: cs       => some ((false, (line cs).1), (line cs).2)
  | '/' :: '*' :: '!' :: cs       => (enclosed? 0 cs).map fun r => ((true, r.1), r.2)
  | '/' :: '*' :: '*' :: '*' :: _ => none
  | '/' :: '*' :: '*' :: '/' :: _ => none
  | '/' :: '*' :: '*' :: cs       => (enclosed? 0 cs).map fun r => ((false, r.1), r.2)
  | _                             => none

-- What follows a comment that documents nothing.
def afterComment? (cs : List Char) : Option (List Char) :=
  if (documentation? cs).isSome then
    none
  else
    match cs with
    | '/' :: '/' :: cs => some (line cs).2
    | '/' :: '*' :: cs => (enclosed? 0 cs).map (·.2)
    | _                => none

-- The text from its next token on.
def skipSpace : Nat → List Char → List Char
  | 0, cs => cs
  | fuel + 1, cs =>
    match cs.dropWhile isSpace with
    | []   => []
    | rest =>
      match afterComment? rest with
      | some rest => skipSpace fuel rest
      | none      => rest

-- The attribute that a documenting comment stands for.
def documentation (inside : Bool) (cs : List Char) : List Token :=
  Token.alone '#' :: (if inside then [Token.alone '!'] else []) ++
  [.group .brackets [.word "doc", Token.alone '=', Token.ofText (String.ofList cs)]]

end Comments

section Texts

-- The character that an escape stands for, and what follows the escape. The backslash was read.
def escape? : List Char → Option (Char × List Char)
  | 'n' :: cs  => some ('\n', cs)
  | 'r' :: cs  => some ('\r', cs)
  | 't' :: cs  => some ('\t', cs)
  | '0' :: cs  => some ('\x00', cs)
  | '\\' :: cs => some ('\\', cs)
  | '\'' :: cs => some ('\'', cs)
  | '"' :: cs  => some ('"', cs)
  | 'x' :: a :: b :: cs => some (Char.ofNat (Numeral.valueIn 16 [a, b]), cs)
  | 'u' :: '\x7b' :: cs =>
    let digits := (cs.takeWhile (· ≠ '\x7d')).filter (· ≠ '_')
    some (Char.ofNat (Numeral.valueIn 16 digits), (cs.dropWhile (· ≠ '\x7d')).drop 1)
  | _ => none

-- Of the blanks only these are taken out at the beginning of a line that continues another.
def isMargin (c : Char) : Bool :=
  c = ' ' || c = '\t' || c = '\n' || c = '\r'

-- The value of a quoted text and what follows its closing quote. A backslash before the end of a line takes the margin
-- of the next one out of the value, and every end of a line counts as a single line feed.
def quoted? (quote : Char) : Nat → List Char → Option (List Char × List Char)
  | 0, _  => none
  | _, [] => none
  | fuel + 1, '\\' :: c :: cs =>
    if c = '\n' ∨ c = '\r' then
      quoted? quote fuel (cs.dropWhile isMargin)
    else do
      let (c, rest) ← escape? (c :: cs)
      let (value, rest) ← quoted? quote fuel rest
      return (c :: value, rest)
  | fuel + 1, '\r' :: '\n' :: cs => do
    let (value, rest) ← quoted? quote fuel cs
    return ('\n' :: value, rest)
  | fuel + 1, c :: cs =>
    if c = quote then
      some ([], cs)
    else do
      let (value, rest) ← quoted? quote fuel cs
      return (c :: value, rest)

-- The value of a raw text, up to a quote with as many hashes after it as came before the first one.
def raw? (hashes : List Char) : List Char → Option (List Char × List Char)
  | [] => none
  | c :: cs =>
    if c = '"' ∧ hashes.isPrefixOf cs then
      some ([], cs.drop hashes.length)
    else do
      let (value, rest) ← raw? hashes cs
      return (c :: value, rest)

end Texts

-- A token whose text is what was read of `cs`, with a suffix that follows it directly.
def written (cs rest : List Char) (f : String → Token) : Lexeme × List Char :=
  let after := if rest.head?.any isWordStart then rest.dropWhile isWordPart else rest
  (token (f (String.ofList (cs.take (cs.length - after.length)))), after)

def word (cs : List Char) : Lexeme × List Char :=
  (token (.word (String.ofList (cs.takeWhile isWordPart))), cs.dropWhile isWordPart)

section Numbers

def isDigitPart (c : Char) : Bool :=
  c.isDigit || c = '_'

-- What follows an exponent, if there is one with a digit in it. The letter in front of it was read.
def afterExponent? (cs : List Char) : Option (List Char) :=
  let unsigned := match cs.dropWhile (· = '_') with
    | '+' :: cs | '-' :: cs => cs
    | cs                    => cs
  let digits := unsigned.dropWhile (· = '_')
  if digits.head?.any Char.isDigit then some (digits.dropWhile isDigitPart) else none

-- A point belongs to a number unless another point or a word follows it, so that `1.5` is one token and `1..5` is not.
def number (cs : List Char) : Lexeme × List Char :=
  let whole := written cs (cs.dropWhile isWordPart) .literal
  match cs.dropWhile isDigitPart with
  | '.' :: rest =>
    if rest.head?.any fun c => c = '.' || isWordStart c then
      whole
    else
      match rest.dropWhile isDigitPart with
      | 'e' :: after | 'E' :: after =>
        written cs ((afterExponent? after).getD (rest.dropWhile isDigitPart)) .literal
      | after => written cs after .literal
  | 'e' :: rest | 'E' :: rest => ((afterExponent? rest).map fun after => written cs after .literal).getD whole
  | _ => whole

end Numbers

-- A word after an apostrophe, which a raw word may be.
def lifetime? (cs : List Char) : Option (Lexeme × List Char) :=
  let front := match cs with
    | 'r' :: '#' :: c :: _ => if isWordStart c then 2 else 0
    | _                    => 0
  let after := (cs.drop front).dropWhile isWordPart
  if cs.head?.any isWordStart then
    some (token (.lifetime (String.ofList (cs.take (cs.length - after.length)))), after)
  else
    none

-- A quote opens a character if a second one closes it, and a lifetime otherwise.
def apostrophe? (cs : List Char) : Option (Lexeme × List Char) :=
  match cs with
  | '\'' :: '\\' :: _ => do
    let (_, rest) ← quoted? '\'' cs.length (cs.drop 1)
    return written cs rest .literal
  | '\'' :: _ :: '\'' :: rest => some (written cs rest .literal)
  | '\'' :: rest => lifetime? rest
  | _ => none

-- The first lexeme of a text that begins with neither a space nor a comment.
def first? (cs : List Char) : Option (Lexeme × List Char) :=
  match cs with
  | [] => none
  | '"' :: rest => do
    let (value, rest) ← quoted? '"' cs.length rest
    return written cs rest (.text (String.ofList value))
  | 'b' :: '"' :: rest | 'c' :: '"' :: rest => do
    let (_, rest) ← quoted? '"' cs.length rest
    return written cs rest .literal
  | 'b' :: '\'' :: rest => do
    let (_, rest) ← quoted? '\'' cs.length rest
    return written cs rest .literal
  | 'r' :: rest => rawOrWord cs rest (fun value => .text (String.ofList value))
  | 'b' :: 'r' :: rest | 'c' :: 'r' :: rest => rawOrWord cs rest (fun _ => .literal)
  | '\'' :: _ => apostrophe? cs
  | c :: rest =>
    match delimiter? c with
    | some lexeme => some (lexeme, rest)
    | none =>
      if c.isDigit then
        some (number cs)
      else if isWordStart c then
        some (word cs)
      else
        some (token (.symbol c (rest.head?.any isSymbol && !opensComment rest)), rest)
where
  -- `rest` follows the letters in front of a raw text, if it is one. Hashes before a word are part of it.
  rawOrWord (cs rest : List Char) (f : List Char → String → Token) : Option (Lexeme × List Char) :=
    let hashes := rest.takeWhile (· = '#')
    match rest.dropWhile (· = '#') with
    | '"' :: body => do
      let (value, after) ← raw? hashes body
      return written cs after (f value)
    | after =>
      if hashes = ['#'] ∧ after.head?.any isWordStart then
        some (written cs after .word)
      else
        some (word cs)

def all? : Nat → List Char → Option (List Lexeme)
  | 0, _ => none
  | fuel + 1, cs =>
    match skipSpace (cs.length + 1) cs with
    | []   => some []
    | rest =>
      match documentation? rest with
      | some ((inside, text), rest) => do
        return (documentation inside text).map token ++ (← all? fuel rest)
      | none => do
        let (lexeme, rest) ← first? rest
        return lexeme :: (← all? fuel rest)

-- The tokens read so far of each open group, backwards, from the innermost outwards.
def nest? (outer : List (Delimiter × List Token)) (tokens : List Token) : List Lexeme → Option (List Token)
  | [] => if outer.isEmpty then some tokens.reverse else none
  | token t :: lexemes => nest? outer (t :: tokens) lexemes
  | opening d :: lexemes => nest? ((d, tokens) :: outer) [] lexemes
  | closing d :: lexemes =>
    match outer with
    | [] => none
    | (d', before) :: outer =>
      if d = d' then nest? outer (.group d tokens.reverse :: before) lexemes else none

end Lexeme

def Token.read? (s : String) : Option (List Token) := do
  Lexeme.nest? [] [] (← Lexeme.all? (s.length + 1) s.toList)

end RecordFilter
