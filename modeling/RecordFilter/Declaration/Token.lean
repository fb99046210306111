import RecordFilter.Text.Quoted

namespace RecordFilter

inductive Delimiter
  | parentheses | brackets | braces
deriving DecidableEq, Repr

-- A symbol is joint if it forms a sign together with what follows it directly. A text has its value beside the way it
-- was written, quotes and escapes included.
inductive Token
  | word (name : String)
  | lifetime (name : String)
  | symbol (c : Char) (joint : Bool)
  | literal (written : String)
  | text (value written : String)
  | group (delimiter : Delimiter) (tokens : List Token)

namespace Token

def ofText (value : String) : Token :=
  text value (String.ofList (Quoted.encodeLiteral value.toList))

def alone (c : Char) : Token := symbol c false

-- All symbols of a sign but the last are joint.
def sign : List Char → List Token
  | []      => []
  | [c]     => [alone c]
  | c :: cs => symbol c true :: sign cs

-- What follows a sign at the front. Whether its last symbol is joint as well does not matter.
def afterSign? : List Char → List Token → Option (List Token)
  | [], tokens => some tokens
  | [c], symbol c' _ :: tokens => if c = c' then some tokens else none
  | c :: cs, symbol c' true :: tokens => if c = c' then afterSign? cs tokens else none
  | _, _ => none

end Token

namespace Delimiter

-- Only braces keep their content at a distance, and they do so even without content.
def enclose (content : List Char) : Delimiter → List Char
  | parentheses => '(' :: content ++ [')']
  | brackets    => '[' :: content ++ [']']
  | braces      => '\x7b' :: ' ' :: content ++ (if content.isEmpty then ['\x7d'] else [' ', '\x7d'])

end Delimiter

namespace Token

-- One space stands between tokens, but none within a sign.
mutual

def chars : Token → List Char
  | word name        => name.toList
  | lifetime name    => '\'' :: name.toList
  | symbol c _       => [c]
  | literal written  => written.toList
  | text _ written   => written.toList
  | group d tokens   => d.enclose (spaced tokens)

def spaced : List Token → List Char
  | []                      => []
  | [token]                 => token.chars
  | symbol c true :: tokens => c :: spaced tokens
  | token :: tokens         => token.chars ++ ' ' :: spaced tokens

end

def write (tokens : List Token) : String :=
  String.ofList (spaced tokens)

end Token
end RecordFilter
