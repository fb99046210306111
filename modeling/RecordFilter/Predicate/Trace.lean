import RecordFilter.Predicate.Basic

namespace RecordFilter

inductive Event
  | entered (collection : String)
  | skipped (collection field : String)
  | compiled (collection expression : String)
deriving DecidableEq

def Event.line : Event → String
  | entered collection => "SPAN DEBUG compile collection=" ++ String.ofList (Quoted.encode collection.toList)
  | skipped collection field => "DEBUG " ++ collection ++ " has no field " ++ field ++ ", skipping condition"
  | compiled collection expression => "TRACE compiled predicate for " ++ collection ++ ": " ++ expression

namespace Filter

variable {κ ρ : Type}

-- One more condition, which either joins those before it or is reported.
def resolveNext (R : Registration κ ρ) (seen : Option Selection × List Event) (entry : String × Condition) :
    Option Selection × List Event :=
  if R.Registers entry.1 then
    (some (seen.1.elim (.ofEntry entry) (·.extend entry)), seen.2)
  else
    (seen.1, seen.2 ++ [.skipped R.collection entry.1])

-- The selection, and what is reported while the conditions are gone through for it.
def resolve (f : Filter) (R : Registration κ ρ) : Selection × List Event :=
  let seen := f.entries.foldl (resolveNext R) (none, [])
  (seen.1.getD .everything, seen.2)

def selectionTrace (f : Filter) (R : Registration κ ρ) : List Event :=
  (f.resolve R).2

def renderTrace (f : Filter) (R : Registration κ ρ) : List Event :=
  f.selectionTrace R

def compileTrace (f : Filter) (R : Registration κ ρ) : List Event :=
  .entered R.collection :: f.selectionTrace R ++
    match f.compile R with
    | .ok p    => [.compiled R.collection p.toText]
    | .error _ => []

end Filter
end RecordFilter
