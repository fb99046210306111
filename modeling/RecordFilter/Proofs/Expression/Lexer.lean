import RecordFilter.Proofs.Expression.Reader

namespace RecordFilter
namespace Expression

def isWordChar (c : Char) : Bool :=
  Lexeme.isNameChar c || c = '.' || c = '-'

def isSignChar (c : Char) : Bool :=
  c = '=' || c = '<' || c = '>'

-- What stands before the closing quote, and what follows it. The opening quote was read already.
def closeQuote? : List Char → Option (List Char × List Char)
  | '\'' :: '\'' :: cs => (closeQuote? cs).map fun (s, rest) => ('\'' :: s, rest)
  | '\'' :: cs         => some ([], cs)
  | c :: cs            => (closeQuote? cs).map fun (s, rest) => (c :: s, rest)
  | []                 => none

theorem closeQuote?_length_lt {cs s rest : List Char} (h : closeQuote? cs = some (s, rest)) :
    rest.length < cs.length := by
  fun_induction closeQuote? cs generalizing s
  case case1 cs ih =>
    have ⟨_, hp, he⟩ := Option.map_eq_some_iff.mp h
    cases he
    exact Nat.lt_succ_of_lt (Nat.lt_succ_of_lt (ih hp))
  case case2 => cases h; exact Nat.lt_succ_self _
  case case3 ih =>
    have ⟨_, hp, he⟩ := Option.map_eq_some_iff.mp h
    cases he
    exact Nat.lt_succ_of_lt (ih hp)
  case case4 => cases h

theorem closeQuote?_of_ne {c : Char} (cs : List Char) (h : c ≠ '\'') :
    closeQuote? (c :: cs) = (closeQuote? cs).map fun (s, rest) => (c :: s, rest) := by
  rw [closeQuote?]
  all_goals simp_all

theorem closeQuote?_quote (s : List Char) {rest : List Char} (h : rest.head? ≠ some '\'') :
    closeQuote? (s.flatMap Value.quoteChar ++ '\'' :: rest) = some (s.filter (· ≠ '\x00'), rest) := by
  induction s
  case nil =>
    cases rest
    case nil => rfl
    case cons c rest => simp_all [closeQuote?]
  case cons c s ih =>
    by_cases hq : c = '\''
    case pos => simp [Value.quoteChar, closeQuote?, hq, ih]
    case neg =>
      by_cases hn : c = '\x00'
      case pos => simp [Value.quoteChar, hn, ih]
      case neg => simp [Value.quoteChar, closeQuote?_of_ne, hq, hn, ih]

-- One lexeme from the front of a text that does not begin with a blank.
def lexeme? : List Char → Option (Lexeme × List Char)
  | '(' :: cs  => some (.opening, cs)
  | ')' :: cs  => some (.closing, cs)
  | '\'' :: cs => (closeQuote? cs).map fun (s, rest) => (.quoted s, rest)
  | c :: cs    =>
    if isWordChar c then
      some (.word (c :: cs.takeWhile isWordChar), cs.dropWhile isWordChar)
    else if isSignChar c then
      some (.sign (c :: cs.takeWhile isSignChar), cs.dropWhile isSignChar)
    else
      none
  | []         => none

theorem lexeme?_of_isWordChar {c : Char} (cs : List Char) (h : isWordChar c) :
    lexeme? (c :: cs) = some (.word (c :: cs.takeWhile isWordChar), cs.dropWhile isWordChar) := by
  have (d : Char) (hd : ¬ isWordChar d) : c ≠ d := by rintro rfl; exact hd h
  rw [lexeme?, if_pos h]
  all_goals exact this _ (by decide)

theorem lexeme?_of_isSignChar {c : Char} (cs : List Char) (h : isSignChar c) :
    lexeme? (c :: cs) = some (.sign (c :: cs.takeWhile isSignChar), cs.dropWhile isSignChar) := by
  have (d : Char) (hd : ¬ isSignChar d) : c ≠ d := by rintro rfl; exact hd h
  have hw : ¬ isWordChar c := by
    simp only [isSignChar, Bool.or_eq_true, decide_eq_true_iff] at h
    rcases h with (rfl | rfl) | rfl <;> decide
  rw [lexeme?, if_neg hw, if_pos h]
  all_goals exact this _ (by decide)

theorem lexeme?_length_lt {cs rest : List Char} {l : Lexeme} (h : lexeme? cs = some (l, rest)) :
    rest.length < cs.length := by
  unfold lexeme? at h
  split at h
  case h_1 => cases h; exact Nat.lt_succ_self _
  case h_2 => cases h; exact Nat.lt_succ_self _
  case h_3 =>
    have ⟨_, hp, he⟩ := Option.map_eq_some_iff.mp h
    cases he
    exact Nat.lt_succ_of_lt (closeQuote?_length_lt hp)
  case h_4 =>
    split at h
    case isTrue => cases h; exact Nat.lt_succ_of_le (List.dropWhile_sublist _).length_le
    case isFalse =>
      split at h
      case isTrue => cases h; exact Nat.lt_succ_of_le (List.dropWhile_sublist _).length_le
      case isFalse => cases h
  case h_5 => cases h

def lexemes? : List Char → Option (List Lexeme)
  | []      => some []
  | c :: cs =>
    if c = ' ' then
      lexemes? cs
    else
      match _h : lexeme? (c :: cs) with
      | none           => none
      | some (l, rest) => (lexemes? rest).map (l :: ·)
termination_by cs => cs.length
decreasing_by
  · exact Nat.lt_succ_self _
  · exact lexeme?_length_lt _h

theorem lexemes?_blank (cs : List Char) : lexemes? (' ' :: cs) = lexemes? cs := by
  rw [lexemes?, if_pos rfl]

theorem lexemes?_of_lexeme? {cs rest : List Char} {l : Lexeme} (h : lexeme? cs = some (l, rest))
    (hb : cs.head? ≠ some ' ') : lexemes? cs = (lexemes? rest).map (l :: ·) := by
  cases cs
  case nil => cases h
  case cons c cs =>
    rw [lexemes?, if_neg (hb <| congrArg some ·)]
    split
    case h_1 hn => cases h.symm.trans hn
    case h_2 hs => cases h.symm.trans hs; rfl

end Expression
end RecordFilter
