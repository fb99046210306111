import RecordFilter.Text.Invisible
import RecordFilter.Text.Mark

namespace RecordFilter
namespace Quoted

def codePoint (c : Char) : List Char :=
  ['\\', 'u', '\x7b'] ++ Nat.toDigits 16 c.toNat ++ ['\x7d']

def escape (c : Char) : List Char :=
  match c with
  | '\x00' => ['\\', '0']
  | '\t'   => ['\\', 't']
  | '\r'   => ['\\', 'r']
  | '\n'   => ['\\', 'n']
  | '"'    => ['\\', '"']
  | '\\'   => ['\\', '\\']
  | c      => if isMark c || isInvisible c then codePoint c else [c]

def between (cs : List Char) : List Char :=
  '"' :: cs ++ ['"']

def encode (cs : List Char) : List Char :=
  between (cs.flatMap escape)

def isOctalDigit (c : Char) : Bool :=
  '0' ≤ c && c ≤ '7'

-- A null in front of an octal digit is written in full, lest the two are taken for one escape.
def encodeLiteral (cs : List Char) : List Char :=
  between (go cs)
where
  go : List Char → List Char
    | []      => []
    | c :: cs =>
      if c = '\x00' ∧ cs.head?.any isOctalDigit then
        ['\\', 'x', '0', '0'] ++ go cs
      else
        escape c ++ go cs

end Quoted
end RecordFilter
