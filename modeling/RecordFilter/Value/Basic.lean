import RecordFilter.Binary.Text

namespace RecordFilter

inductive Width
  | w16 | w32 | w64
deriving DecidableEq, Repr

namespace Width

def least : Width → Int
  | w16 => -32768
  | w32 => -2147483648
  | w64 => -9223372036854775808

def greatest : Width → Int
  | w16 => 32767
  | w32 => 2147483647
  | w64 => 9223372036854775807

def Fits (w : Width) (n : Int) : Prop :=
  w.least ≤ n ∧ n ≤ w.greatest

instance (w : Width) : DecidablePred w.Fits :=
  fun n => inferInstanceAs (Decidable (w.least ≤ n ∧ n ≤ w.greatest))

end Width

inductive Kind
  | integer (width : Width)
  | float
  | bool
  | text
deriving DecidableEq, Repr

namespace Kind

def all : List Kind :=
  [.integer .w16, .integer .w32, .integer .w64, .float, .bool, .text]

-- How messages write a kind.
def name : Kind → String
  | integer .w16 => "i16"
  | integer .w32 => "i32"
  | integer .w64 => "i64"
  | float        => "f64"
  | bool         => "bool"
  | text         => "string"

-- How documents and registrations write a kind.
def tag : Kind → String
  | integer .w16 => "I16"
  | integer .w32 => "I32"
  | integer .w64 => "I64"
  | float        => "F64"
  | bool         => "Bool"
  | text         => "String"

def ofTag? (tag : String) : Option Kind :=
  all.find? (·.tag = tag)

-- Whether conditions may ask which of two values of the kind is the lesser.
def IsOrdered (k : Kind) : Prop := k ≠ bool

def IsTextual (k : Kind) : Prop := k = text

instance : DecidablePred IsOrdered :=
  fun k => inferInstanceAs (Decidable (k ≠ bool))

instance : DecidablePred IsTextual :=
  fun k => inferInstanceAs (Decidable (k = text))

end Kind

inductive Value
  | integer (width : Width) (n : Int) (fits : width.Fits n)
  | float (x : Double)
  | bool (b : Bool)
  | text (s : String)
deriving DecidableEq

namespace Value

def kind : Value → Kind
  | integer w _ _ => .integer w
  | float _       => .float
  | bool _        => .bool
  | text _        => .text

def compareBool (a b : Bool) : Ordering :=
  if a = b then .eq else if b then .lt else .gt

-- Texts are in the order of their characters' code points.
def compare : Value → Value → Option Ordering
  | integer v m _, integer w n _ => if v = w then some (Ord.compare m n) else none
  | float x,       float y       => x.compare y
  | bool a,        bool b        => some (compareBool a b)
  | text s,        text t        => some (Ord.compare s t)
  | _,             _             => none

-- Not the equality of the type: a `nan` equals nothing, and the two zeros equal each other.
def equals (a b : Value) : Bool :=
  a.compare b == some .eq

def boolText (b : Bool) : String :=
  if b then "true" else "false"

-- A value as bare text, without quotes.
def toText : Value → String
  | integer _ n _ => String.ofList (Numeral.ofInt n)
  | float x       => String.ofList x.toText
  | bool b        => boolText b
  | text s        => s

end Value
end RecordFilter
