import RecordFilter.Selection.Text

namespace RecordFilter

-- Truth of a selection, given what each comparison comes to.
def Selection.eval (outcome : String → Operator → Value → Bool) : Selection → Bool
  | everything                      => true
  | comparison field operator value => outcome field operator value
  | and left right                  => left.eval outcome && right.eval outcome
  | or left right                   => left.eval outcome || right.eval outcome

inductive Literal
  | quoted (s : String)
  | bare (s : String)
deriving DecidableEq

def Literal.ofValue : Value → Literal
  | .text s => quoted (String.ofList (s.toList.filter (· ≠ '\x00')))
  | v       => bare v.toText

inductive Expression
  | everything
  | comparison (field : String) (operator : Operator) (literal : Literal)
  | join (c : Connective) (left right : Expression)
deriving DecidableEq

namespace Expression

def eval (outcome : String → Operator → Literal → Bool) : Expression → Bool
  | everything                        => true
  | comparison field operator literal => outcome field operator literal
  | join c left right                 => c.join (left.eval outcome) (right.eval outcome)

def ofSelection : Selection → Expression
  | .everything                      => everything
  | .comparison field operator value => comparison field operator (.ofValue value)
  | .and left right                  => join .and (ofSelection left) (ofSelection right)
  | .or left right                   => join .or (ofSelection left) (ofSelection right)

theorem eval_ofSelection (outcome : String → Operator → Literal → Bool) (s : Selection) :
    (ofSelection s).eval outcome = s.eval fun field operator value => outcome field operator (.ofValue value) := by
  induction s
  case everything              => rfl
  case comparison              => rfl
  case and left right ihl ihr => simp [ofSelection, eval, Selection.eval, Connective.join, ihl, ihr]
  case or left right ihl ihr  => simp [ofSelection, eval, Selection.eval, Connective.join, ihl, ihr]

-- The same but for how the operands of one connective are grouped.
inductive Regrouped : Expression → Expression → Prop
  | refl {e : Expression} : Regrouped e e
  | symm {e f : Expression} : Regrouped e f → Regrouped f e
  | trans {e f g : Expression} : Regrouped e f → Regrouped f g → Regrouped e g
  | join {c : Connective} {e e' f f' : Expression} :
    Regrouped e e' → Regrouped f f' → Regrouped (.join c e f) (.join c e' f')
  | assoc {c : Connective} {e f g : Expression} :
    Regrouped (.join c (.join c e f) g) (.join c e (.join c f g))

theorem Regrouped.eval_eq {e f : Expression} (outcome : String → Operator → Literal → Bool) (h : Regrouped e f) :
    e.eval outcome = f.eval outcome := by
  induction h
  case refl                => rfl
  case symm ih             => exact ih.symm
  case trans ih₁ ih₂       => exact ih₁.trans ih₂
  case join ih₁ ih₂        => simp only [eval, ih₁, ih₂]
  case assoc c _ _ _       => cases c <;> simp [eval, Connective.join, Bool.and_assoc, Bool.or_assoc]

-- Joins an expression from the right, and its operands one after the other if they are joined by the same connective.
def attach (c : Connective) (e : Expression) : Expression → Expression
  | join c' left right => if c' = c then join c (attach c e left) right else join c e (join c' left right)
  | f                  => join c e f

-- The operands of one connective grouped from the left, as a reader without lookahead meets them.
def leftmost : Expression → Expression
  | join c left right => attach c left.leftmost right.leftmost
  | e                 => e

def connective? : Expression → Option Connective
  | join c _ _ => some c
  | _          => none

theorem attach_of_ne {c : Connective} {f : Expression} (e : Expression) (h : f.connective? ≠ some c) :
    attach c e f = join c e f := by
  cases f
  case join c' left right => simp_all [attach, connective?]
  all_goals rfl

theorem connective?_attach (c : Connective) (e f : Expression) : (attach c e f).connective? = some c := by
  cases f
  case join c' left right => by_cases h : c' = c <;> simp [attach, connective?, h]
  all_goals rfl

theorem connective?_leftmost (e : Expression) : e.leftmost.connective? = e.connective? := by
  cases e
  case join => exact connective?_attach ..
  all_goals rfl

theorem attach_regrouped (c : Connective) (e f : Expression) : Regrouped (attach c e f) (join c e f) := by
  induction f
  case everything => exact .refl
  case comparison => exact .refl
  case join c' left right ihl _ =>
    rw [attach]
    split
    case isTrue h =>
      subst h
      exact .trans (.join ihl .refl) .assoc
    case isFalse => exact .refl

theorem attach_assoc (c : Connective) (e f g : Expression) :
    attach c (attach c e f) g = attach c e (attach c f g) := by
  induction g
  case everything => simp [attach]
  case comparison => simp [attach]
  case join c' left right ihl _ => by_cases h : c' = c <;> simp [attach, h, ihl]

theorem leftmost_regrouped (e : Expression) : Regrouped e.leftmost e := by
  induction e
  case everything => exact .refl
  case comparison => exact .refl
  case join c left right ihl ihr => exact .trans (attach_regrouped ..) (.join ihl ihr)

end Expression
end RecordFilter
