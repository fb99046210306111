import RecordFilter.Decimal.Basic

namespace RecordFilter

-- Powers of naturals are those of the core library, whatever else is imported.
attribute [local instance (2000)] instPowNat

namespace Decimal

open Binary

variable {f : Format}

-- A finite magnitude in steps of `10 ^ exponent`, as a quotient.
def steps (m : Magnitude f) (exponent : Int) : Nat × Nat :=
  (m.units * 10 ^ (-exponent).toNat, 2 ^ f.scale * 10 ^ exponent.toNat)

def ReadsBack (m : Magnitude f) (d : Decimal) : Prop :=
  d.nearest f = m

instance (m : Magnitude f) : DecidablePred (ReadsBack m) :=
  fun d => inferInstanceAs (Decidable (d.nearest f = m))

-- The better of a magnitude's two neighbours among the multiples of `10 ^ exponent`. Where both
-- read back the nearer is taken, and the upper one if the magnitude lies midway.
def neighbour? (m : Magnitude f) (exponent : Int) : Option Decimal :=
  let (num, den) := steps m exponent
  let below : Decimal := ⟨num / den, exponent⟩
  let above : Decimal := ⟨num / den + 1, exponent⟩
  if ReadsBack m below ∧ (2 * (num % den) < den ∨ ¬ ReadsBack m above) then
    some below
  else if ReadsBack m above then
    some above
  else
    none

-- A power of ten that the magnitude does not exceed: it is below two to one more than its logarithm,
-- and `log₁₀ 2` is `0.30103`, rounded up by too little to reach the next integer.
def topExponent (m : Magnitude f) : Int :=
  ((m.units.log2 + 1 : Int) - f.scale) * 30103 / 100000 + 1

-- No double needs more than seventeen digits, and the two grids above the first digit are spare.
def gridCount : Nat := 20

def exact (m : Magnitude f) : Decimal :=
  ⟨m.units * 5 ^ f.scale, -f.scale⟩

-- The coarsest grid with a neighbour that reads back gives the fewest digits.
def shortest (m : Magnitude f) : Decimal :=
  if m.units = 0 then
    ⟨0, 0⟩
  else
    ((List.range gridCount).findSome? fun (i : Nat) => neighbour? m (topExponent m - i)).getD (exact m)

end Decimal
end RecordFilter
