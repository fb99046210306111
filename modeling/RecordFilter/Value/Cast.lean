import RecordFilter.Condition
import RecordFilter.Text.Blank
import RecordFilter.Text.LowerCase

namespace RecordFilter

-- Each error carries the text at fault and the kind that was asked for.
inductive CastError
  | invalidFormat (text : String) (target : Kind)
  | numericOverflow (number : String) (target : Kind)
  | lossyConversion (number : String) (target : Kind)
deriving DecidableEq

def CastError.message : CastError → String
  | invalidFormat text target     => "invalid format '" ++ text ++ "' for type " ++ target.name
  | numericOverflow number target => "numeric overflow: '" ++ number ++ "' cannot fit in " ++ target.name
  | lossyConversion number target => "'" ++ number ++ "' cannot be represented exactly as " ++ target.name

namespace Width

theorem fits_bit (w : Width) (b : Bool) : w.Fits (if b then 1 else 0) := by
  cases w <;> cases b <;> decide

-- The ends of a range as floats. The greatest of the widest integers has none, and is rounded up to one beyond it.
def lowest (w : Width) : Double := Binary.ofInt w.least

def highest (w : Width) : Double := Binary.ofInt w.greatest

def clamp (w : Width) (x : Double) : Int := x.clamp w.least w.greatest

end Width

namespace Value

open CastError

def ofInt (n : Int) (target : Kind) : Except CastError Value :=
  match target with
  | .integer w =>
    if h : w.Fits n then .ok (integer w n h) else .error (numericOverflow (String.ofList (Numeral.ofInt n)) target)
  | .float =>
    let x := Binary.ofInt n
    -- The greatest integers are rounded up to a float beyond the range, and cutting that back would undo it.
    if Relation.greaterOrEqual.holds (x.compare Width.w64.highest) ∨ Width.w64.clamp x ≠ n then
      .error (lossyConversion (String.ofList (Numeral.ofInt n)) target)
    else
      .ok (float x)
  | .bool => .ok (bool (n ≠ 0))
  | .text => .ok (text (String.ofList (Numeral.ofInt n)))

-- A float beyond the widest integers is quoted as the float that it is, a lesser one as an integer.
def ofDouble (x : Double) (target : Kind) : Except CastError Value :=
  match target with
  | .integer _ =>
    if ¬ x.IsWhole then
      .error (lossyConversion (String.ofList x.toText) target)
    else if Relation.less.holds (x.compare Width.w64.lowest) ∨
        Relation.greaterOrEqual.holds (x.compare Width.w64.highest) then
      .error (numericOverflow (String.ofList x.toText) target)
    else
      ofInt (Width.w64.clamp x) target
  | .float => .ok (float x)
  | .bool  => .ok (bool (x.place ≠ some 0))
  | .text  => .ok (text (String.ofList x.toText))

def ofBool (b : Bool) (target : Kind) : Except CastError Value :=
  match target with
  | .integer w => .ok (integer w (if b then 1 else 0) (w.fits_bit b))
  | .float     => .ok (float (Binary.ofInt (if b then 1 else 0)))
  | .bool      => .ok (bool b)
  | .text      => .ok (text (boolText b))

def boolWord? (cs : List Char) : Option Bool :=
  let word := String.ofList (lowerCase cs)
  if word ∈ ["true", "1", "yes", "on"] then
    some true
  else if word ∈ ["false", "0", "no", "off"] then
    some false
  else
    none

-- Blanks at the ends do not matter to the reading, but an error quotes them.
def ofText (s : String) (target : Kind) : Except CastError Value :=
  let cs := trim s.toList
  let read? : Option Value :=
    match target with
    | .integer w => (Numeral.toInt? cs).bind fun n => if h : w.Fits n then some (integer w n h) else none
    | .float     => (Binary.ofText? cs).map float
    | .bool      => (boolWord? cs).map bool
    | .text      => some (text s)
  read?.elim (.error (invalidFormat s target)) .ok

def castTo : Value → Kind → Except CastError Value
  | integer _ n _ => ofInt n
  | float x       => ofDouble x
  | bool b        => ofBool b
  | text s        => ofText s

end Value
end RecordFilter
