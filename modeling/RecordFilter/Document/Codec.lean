import RecordFilter.Condition
import RecordFilter.Document.Basic

namespace RecordFilter

-- Reading may take more forms than writing makes.
class Codec (α : Type) where
  encode  : α → Document
  decode? : Document → Option α

namespace Document

-- A name by itself, or as the one member of an object, without content.
def name? : Document → Option String
  | text s             => some s
  | object [(s, null)] => some s
  | _                  => none

def decodeInteger? (w : Width) : Document → Option Value
  | number (.integer n) => if h : w.Fits n then some (.integer w n h) else none
  | _                   => none

def decodeFloat? : Document → Option Value
  | number x => x.toDouble?.map .float
  | _        => none

def decodeBool? : Document → Option Value
  | bool b => some (.bool b)
  | _      => none

def decodeText? : Document → Option Value
  | text s => some (.text s)
  | _      => none

def decodeContent? : Kind → Document → Option Value
  | .integer w => decodeInteger? w
  | .float     => decodeFloat?
  | .bool      => decodeBool?
  | .text      => decodeText?

def encodeContent : Value → Document
  | .integer _ n _ => number (.integer n)
  | .float x       => ofDouble x
  | .bool b        => bool b
  | .text s        => text s

-- A value is an object whose one member is named for its kind.
def decodeValue? : Document → Option Value
  | object [(tag, content)] => do decodeContent? (← Kind.ofTag? tag) content
  | _                       => none

end Document

open Document

instance : Codec Kind where
  encode kind      := .text kind.tag
  decode? document := document.name?.bind Kind.ofTag?

instance : Codec Operator where
  encode operator  := .text operator.tag
  decode? document := document.name?.bind Operator.ofTag?

instance : Codec Connective where
  encode connective := .text connective.tag
  decode? document  := document.name?.bind Connective.ofTag?

instance : Codec Value where
  encode value := .object [(value.kind.tag, encodeContent value)]
  decode?      := decodeValue?

def Condition.ofDocuments? (operator value connective : Document) : Option Condition := do
  return ⟨← Codec.decode? operator, ← Codec.decode? value, ← Codec.decode? connective⟩

instance : Codec Condition where
  encode condition := .object [
    ("operator", Codec.encode condition.operator),
    ("value", Codec.encode condition.value),
    ("connective", Codec.encode condition.connective)]
  decode?
    | .object members => do
      Condition.ofDocuments? (← member? members "operator") (← member? members "value")
        (← member? members "connective")
    | .array [operator, value, connective] => Condition.ofDocuments? operator value connective
    | _ => none

end RecordFilter
