import RecordFilter.Proofs.Expression.Basic

namespace RecordFilter
namespace Expression

inductive Lexeme
  | opening
  | closing
  | word (cs : List Char)
  | sign (cs : List Char)
  | quoted (cs : List Char)
deriving DecidableEq

namespace Lexeme

def keyword (c : Connective) : Lexeme :=
  word c.symbol.toList

def true : Lexeme :=
  word ['T', 'R', 'U', 'E']

def IsKeyword (cs : List Char) : Prop :=
  word cs = true ∨ word cs = keyword .and ∨ word cs = keyword .or

instance : DecidablePred IsKeyword :=
  fun cs => inferInstanceAs (Decidable (word cs = true ∨ word cs = keyword .and ∨ word cs = keyword .or))

def isNameChar (c : Char) : Bool :=
  c.isAlphanum || c = '_'

-- Letters, digits and underscores, but no digit at the front, and not what means something else.
def IsName (cs : List Char) : Prop :=
  cs ≠ [] ∧ cs.all isNameChar ∧ ¬ cs.head?.any Char.isDigit ∧ ¬ IsKeyword cs

instance : DecidablePred IsName :=
  fun cs =>
    inferInstanceAs (Decidable (cs ≠ [] ∧ cs.all isNameChar ∧ ¬ cs.head?.any Char.isDigit ∧ ¬ IsKeyword cs))

def ofOperator : Operator → Lexeme
  | .contains => word Operator.contains.symbol.toList
  | operator  => sign operator.symbol.toList

def ofLiteral : Literal → Lexeme
  | .quoted s => quoted s.toList
  | .bare s   => word s.toList

def operator? (l : Lexeme) : Option Operator :=
  Operator.all.find? (ofOperator · = l)

def literal? : Lexeme → Option Literal
  | quoted cs => some (.quoted (String.ofList cs))
  | word cs   => if IsKeyword cs then none else some (.bare (String.ofList cs))
  | _         => none

end Lexeme

-- What was read from the front, and the lexemes that follow it. There is no reading nothing.
structure Reader where
  read     : List Lexeme → Option (Expression × List Lexeme)
  progress : ∀ {lexemes e rest}, read lexemes = some (e, rest) → rest.length < lexemes.length

namespace Reader

-- Further operands, each with the connective in front of it.
def more (operand : Reader) (c : Connective) (left : Expression) : List Lexeme → Option (Expression × List Lexeme)
  | []           => some (left, [])
  | l :: lexemes =>
    if l = .keyword c then
      match _h : operand.read lexemes with
      | none               => none
      | some (right, rest) => operand.more c (.join c left right) rest
    else
      some (left, l :: lexemes)
termination_by lexemes => lexemes.length
decreasing_by exact Nat.lt_succ_of_lt (operand.progress _h)

theorem more_length_le {operand : Reader} {c : Connective} {left e : Expression} {lexemes rest : List Lexeme}
    (h : operand.more c left lexemes = some (e, rest)) : rest.length ≤ lexemes.length := by
  fun_induction more operand c left lexemes
  case case1 => cases h; exact Nat.le_refl _
  case case2 => cases h
  case case3 hr ih =>
    have := ih h
    have := operand.progress hr
    simp only [List.length_cons]
    omega
  case case4 => cases h; exact Nat.le_refl _

-- One operand or more, with a connective between two.
def chain (operand : Reader) (c : Connective) : Reader where
  read lexemes := (operand.read lexemes).bind fun (first, rest) => operand.more c first rest
  progress     := by
    intro lexemes e rest h
    have ⟨⟨first, others⟩, hf, hm⟩ := Option.bind_eq_some_iff.mp h
    exact Nat.lt_of_le_of_lt (more_length_le hm) (operand.progress hf)

def comparison? (name : List Char) : List Lexeme → Option (Expression × List Lexeme)
  | o :: l :: rest =>
    if Lexeme.IsName name then do
      return (.comparison (String.ofList name) (← o.operator?) (← l.literal?), rest)
    else
      none
  | _ => none

theorem comparison?_length_le {name : List Char} {e : Expression} {lexemes rest : List Lexeme}
    (h : comparison? name lexemes = some (e, rest)) : rest.length ≤ lexemes.length := by
  unfold comparison? at h
  split at h
  case h_1 o l lexemes =>
    split at h
    case isTrue =>
      cases ho : o.operator? <;> cases hl : l.literal? <;> simp [ho, hl] at h
      rw [h.right]
      exact Nat.le_add_right rest.length 2
    case isFalse => cases h
  case h_2 => cases h

def factor (inner : Reader) : Reader where
  read
    | .opening :: lexemes =>
      match inner.read lexemes with
      | some (e, .closing :: rest) => some (e, rest)
      | _                          => none
    | .word cs :: lexemes =>
      if .word cs = Lexeme.true then some (.everything, lexemes) else comparison? cs lexemes
    | _ => none
  progress := by
    intro lexemes e rest h
    split at h
    case h_1 inner_lexemes =>
      split at h
      case h_1 hr =>
        cases h
        have := inner.progress hr
        simp only [List.length_cons] at this ⊢
        omega
      case h_2 => cases h
    case h_2 cs lexemes =>
      split at h
      case isTrue => cases h; exact Nat.lt_succ_self _
      case isFalse => exact Nat.lt_succ_of_le (comparison?_length_le h)
    case h_3 => cases h

-- Expressions with parentheses in each other up to some depth.
def expression : Nat → Reader
  | 0         => ⟨fun _ => none, nofun⟩
  | depth + 1 => ((factor (expression depth)).chain .and).chain .or

end Reader

-- Parentheses are no deeper than there are lexemes.
def ofLexemes? (lexemes : List Lexeme) : Option Expression :=
  match (Reader.expression (lexemes.length + 1)).read lexemes with
  | some (e, []) => some e
  | _            => none

-- How an expression is written below `AND`, given how it is written on its own.
def operand (e : Expression) (lexemes : List Lexeme) : List Lexeme :=
  if e.connective? = some .or then .opening :: lexemes ++ [.closing] else lexemes

def lexemes : Expression → List Lexeme
  | everything                        => [.true]
  | comparison field operator literal => [.word field.toList, .ofOperator operator, .ofLiteral literal]
  | join .and left right              => left.operand left.lexemes ++ .keyword .and :: right.operand right.lexemes
  | join .or left right               => left.lexemes ++ .keyword .or :: right.lexemes

-- Whether names and bare literals cannot be taken for anything else.
def Readable : Expression → Prop
  | everything                 => True
  | comparison field _ literal => Lexeme.IsName field.toList ∧ (Lexeme.ofLiteral literal).literal? = some literal
  | join _ left right          => left.Readable ∧ right.Readable

namespace Reader

section Chain

variable {o : Reader} {c : Connective} {rest : List Lexeme}

theorem more_of_ne {left : Expression} (h : rest.head? ≠ some (.keyword c)) :
    o.more c left rest = some (left, rest) := by
  cases rest
  case nil => rw [more]
  case cons l rest => rw [more, if_neg (h <| congrArg some ·)]

theorem more_of_read {left right : Expression} {lexemes : List Lexeme} (h : o.read lexemes = some (right, rest)) :
    o.more c left (.keyword c :: lexemes) = o.more c (.join c left right) rest := by
  rw [more, if_pos rfl]
  split
  case h_1 hr => cases h.symm.trans hr
  case h_2 hr => cases h.symm.trans hr; rfl

-- The lexemes in front of `rest` are operands that together make up the expression, both at the start of a chain and
-- in the middle of one.
structure Reads (o : Reader) (c : Connective) (lexemes : List Lexeme) (e : Expression) (rest : List Lexeme) : Prop where
  start : (o.chain c).read (lexemes ++ rest) = o.more c e rest
  after : ∀ left, o.more c left (.keyword c :: lexemes ++ rest) = o.more c (attach c left e) rest

theorem Reads.single {lexemes : List Lexeme} {e : Expression} (h : o.read (lexemes ++ rest) = some (e, rest))
    (hc : e.connective? ≠ some c) : Reads o c lexemes e rest where
  start      := by simp [chain, h]
  after left := by rw [attach_of_ne left hc, List.cons_append, more_of_read h]

theorem Reads.join {ls rs : List Lexeme} {e f : Expression} (hl : Reads o c ls e (.keyword c :: rs ++ rest))
    (hr : Reads o c rs f rest) : Reads o c (ls ++ .keyword c :: rs) (attach c e f) rest where
  start := by rw [List.append_assoc, hl.start, hr.after]
  after left := by
    have := hl.after left
    rw [List.cons_append, List.append_assoc, ← List.cons_append, this, hr.after, attach_assoc]

theorem Reads.read_eq {lexemes : List Lexeme} {e : Expression} (h : Reads o c lexemes e rest)
    (hr : rest.head? ≠ some (.keyword c)) : (o.chain c).read (lexemes ++ rest) = some (e, rest) :=
  h.start.trans (more_of_ne hr)

end Chain

section Factor

variable {inner : Reader} {rest : List Lexeme}

theorem factor_true : (factor inner).read (.true :: rest) = some (.everything, rest) := by
  simp [factor, Lexeme.true]

theorem operator?_ofOperator (operator : Operator) : (Lexeme.ofOperator operator).operator? = some operator := by
  cases operator
  case relation r => cases r <;> decide
  case contains => decide

theorem factor_comparison {field : String} {operator : Operator} {literal : Literal}
    (hn : Lexeme.IsName field.toList) (hl : (Lexeme.ofLiteral literal).literal? = some literal) :
    (factor inner).read (.word field.toList :: .ofOperator operator :: .ofLiteral literal :: rest) =
      some (.comparison field operator literal, rest) := by
  have ht : ¬ .word field.toList = Lexeme.true := fun h => hn.right.right.right (.inl h)
  simp only [factor, if_neg ht, comparison?, if_pos hn, operator?_ofOperator, hl]
  simp

theorem factor_parentheses {lexemes : List Lexeme} {e : Expression}
    (h : inner.read (lexemes ++ .closing :: rest) = some (e, .closing :: rest)) :
    (factor inner).read (.opening :: lexemes ++ [.closing] ++ rest) = some (e, rest) := by
  simp [factor, h]

end Factor

-- An expression that stands below `AND`, or by itself between operators.
def ReadsOperand (depth : Nat) (e : Expression) : Prop :=
  ∀ rest, Reads (factor (expression depth)) .and (e.operand e.lexemes) e.leftmost rest

-- An expression that stands where nothing around it binds tighter.
def ReadsWhole (depth : Nat) (e : Expression) : Prop :=
  ∀ rest, rest.head? ≠ some (.keyword .and) →
    Reads ((factor (expression depth)).chain .and) .or e.lexemes e.leftmost rest

theorem ReadsOperand.whole {depth : Nat} {e : Expression} (h : ReadsOperand depth e)
    (ho : e.connective? ≠ some .or) : ReadsWhole depth e := by
  intro rest hr
  have := h rest
  rw [operand, if_neg ho] at this
  exact .single (this.read_eq hr) (e.connective?_leftmost ▸ ho)

theorem ReadsWhole.operand {depth : Nat} {e : Expression} (h : ReadsWhole depth e)
    (ho : e.connective? = some .or) : ReadsOperand (depth + 1) e := by
  intro rest
  have hw := h (.closing :: rest) (by simp [Lexeme.keyword]) |>.read_eq (by simp [Lexeme.keyword])
  rw [Expression.operand, if_pos ho]
  exact .single (factor_parentheses hw) (by simp [e.connective?_leftmost, ho])

-- Below `AND` an `OR` uses up one level of parentheses, and two lexemes.
theorem reads_lexemes {e : Expression} (he : e.Readable) (depth : Nat) :
    ((e.operand e.lexemes).length ≤ depth → ReadsOperand depth e) ∧
    (e.lexemes.length ≤ depth → ReadsWhole depth e) := by
  induction e generalizing depth
  case everything =>
    have h : ReadsOperand depth everything := fun _ => .single factor_true nofun
    exact ⟨fun _ => h, fun _ => h.whole nofun⟩
  case comparison field operator literal =>
    have h : ReadsOperand depth (comparison field operator literal) := fun _ =>
      .single (factor_comparison he.left he.right) nofun
    exact ⟨fun _ => h, fun _ => h.whole nofun⟩
  case join c left right ihl ihr =>
    cases c
    case and =>
      have h (hd : (join .and left right).lexemes.length ≤ depth) : ReadsOperand depth (join .and left right) := by
        simp only [lexemes, List.length_append, List.length_cons] at hd
        have hl := (ihl he.left depth).left (by omega)
        have hr := (ihr he.right depth).left (by omega)
        exact fun rest => .join (hl _) (hr rest)
      exact ⟨h, fun hd => (h hd).whole nofun⟩
    case or =>
      have h (depth) (hd : (join .or left right).lexemes.length ≤ depth) : ReadsWhole depth (join .or left right) := by
        simp only [lexemes, List.length_append, List.length_cons] at hd
        have hl := (ihl he.left depth).right (by omega)
        have hr := (ihr he.right depth).right (by omega)
        exact fun rest hn => .join (hl _ (by simp [Lexeme.keyword]; decide)) (hr rest hn)
      refine ⟨fun hd => ?_, h depth⟩
      cases depth
      case zero => simp [operand, connective?] at hd
      case succ depth => exact (h depth (by simp [operand, connective?] at hd; omega)).operand rfl

end Reader

theorem ofLexemes?_lexemes {e : Expression} (he : e.Readable) : ofLexemes? e.lexemes = some e.leftmost := by
  have h := (Reader.reads_lexemes he e.lexemes.length).right (Nat.le_refl _) [] nofun |>.read_eq nofun
  rw [List.append_nil] at h
  rw [ofLexemes?, Reader.expression, h]

end Expression
end RecordFilter
