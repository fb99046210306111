import RecordFilter.Proofs.Expression.Lexer
import RecordFilter.Proofs.Text.Run
import RecordFilter.Proofs.Value.Cast
import RecordFilter.Proofs.Value.Numeric

namespace RecordFilter
namespace Expression

-- The text is that of the lexemes, if `rest` follows it.
def Spells (cs : List Char) (ls : List Lexeme) (rest : List Char) : Prop :=
  lexemes? (cs ++ rest) = (lexemes? rest).map (ls ++ ·)

-- Whether a text ends what stands in front of it.
def Ends (cs : List Char) : Prop :=
  ∀ c ∈ cs.head?, c = ' ' ∨ c = ')'

namespace Spells

variable {cs ds rest : List Char} {ls ms : List Lexeme} {l : Lexeme}

theorem append (h : Spells cs ls (ds ++ rest)) (h' : Spells ds ms rest) : Spells (cs ++ ds) (ls ++ ms) rest := by
  rw [Spells, List.append_assoc, h, h', Option.map_map]
  congr 1
  funext ns
  simp

theorem of_lexeme? (h : lexeme? (cs ++ rest) = some (l, rest)) (hb : (cs ++ rest).head? ≠ some ' ') :
    Spells cs [l] rest :=
  lexemes?_of_lexeme? h hb

theorem blank : Spells [' '] [] rest := by
  rw [Spells, List.singleton_append, lexemes?_blank]
  cases lexemes? rest <;> rfl

theorem opening : Spells ['('] [.opening] rest :=
  of_lexeme? rfl nofun

theorem closing : Spells [')'] [.closing] rest :=
  of_lexeme? rfl nofun

end Spells

theorem Ends.not_of {cs : List Char} {p : Char → Bool} (h : Ends cs) (hb : ¬ p ' ') (hc : ¬ p ')') :
    ∀ c ∈ cs.head?, ¬ p c := by
  intro c hm
  cases h c hm
  case inl he => exact he ▸ hb
  case inr he => exact he ▸ hc

-- A lexeme that goes on as long as there are characters of one class.
theorem Spells.run {p : Char → Bool} {l : List Char → Lexeme} {cs rest : List Char}
    (hl : ∀ {c} cs, p c → lexeme? (c :: cs) = some (l (c :: cs.takeWhile p), cs.dropWhile p)) (hb : ¬ p ' ')
    (hc : ¬ p ')') (hn : cs ≠ []) (h : cs.all p) (hr : Ends rest) : Spells cs [l cs] rest := by
  cases cs
  case nil => exact absurd rfl hn
  case cons c cs =>
    have ⟨hp, h⟩ := Bool.and_eq_true_iff.mp (List.all_cons ▸ h)
    have ⟨ht, hd⟩ := takeWhile_append_of_stop h (hr.not_of hb hc)
    refine of_lexeme? ?_ ?_
    · rw [List.cons_append, hl _ hp, ht, hd]
    · rintro ⟨⟩
      exact hb hp

theorem Spells.word {cs rest : List Char} (hn : cs ≠ []) (h : cs.all isWordChar) (hr : Ends rest) :
    Spells cs [.word cs] rest :=
  .run lexeme?_of_isWordChar (by decide) (by decide) hn h hr

theorem Spells.sign {cs rest : List Char} (hn : cs ≠ []) (h : cs.all isSignChar) (hr : Ends rest) :
    Spells cs [.sign cs] rest :=
  .run lexeme?_of_isSignChar (by decide) (by decide) hn h hr

theorem Ends.head_ne_quote {cs : List Char} (h : Ends cs) : cs.head? ≠ some '\'' := by
  intro hq
  cases h _ hq <;> contradiction

theorem Spells.quote (s : String) {rest : List Char} (hr : Ends rest) :
    Spells (Value.quote s) [.quoted (s.toList.filter (· ≠ '\x00'))] rest := by
  refine of_lexeme? ?_ (by simp [Value.quote])
  simp [Value.quote, lexeme?, closeQuote?_quote _ hr.head_ne_quote]

theorem Ends.blank {cs : List Char} : Ends (' ' :: cs) := by
  rintro _ ⟨⟩
  exact .inl rfl

theorem Ends.closing {cs : List Char} : Ends (')' :: cs) := by
  rintro _ ⟨⟩
  exact .inr rfl

theorem Spells.operator (operator : Operator) {rest : List Char} (hr : Ends rest) :
    Spells operator.symbol.toList [.ofOperator operator] rest := by
  cases operator
  case relation r => cases r <;> exact .sign (by decide) (by decide) hr
  case contains   => exact .word (by decide) (by decide) hr

-- Whatever follows it, a connective with its blanks ends what stands in front of it.
theorem Spells.join (c : Connective) {cs ds rest : List Char} {ls ms : List Lexeme}
    (hl : ∀ {rest}, Ends rest → Spells cs ls rest) (hr : Spells ds ms rest) :
    Spells (cs ++ (' ' :: c.symbol.toList ++ [' ']) ++ ds) (ls ++ .keyword c :: ms) rest := by
  have hw : Spells c.symbol.toList [.keyword c] ([' '] ++ (ds ++ rest)) := by
    cases c <;> exact .word (by decide) (by decide) .blank
  have hb := Spells.blank.append (hw.append .blank)
  have := (hl .blank).append (hb.append hr)
  simpa using this

-- A word that stands for itself, as names and bare literals do.
structure IsPlain (cs : List Char) : Prop where
  ne_nil   : cs ≠ []
  wordChar : cs.all isWordChar
  keyword  : ¬ Lexeme.IsKeyword cs

namespace IsPlain

theorem of_isName {cs : List Char} (h : Lexeme.IsName cs) : IsPlain cs where
  ne_nil   := h.left
  wordChar := List.all_eq_true.mpr fun c hc => by simp [isWordChar, List.all_eq_true.mp h.right.left c hc]
  keyword  := h.right.right.right

theorem of_isNumeric {cs : List Char} (h : IsNumeric cs) : IsPlain cs where
  ne_nil   := h.left
  wordChar := by
    refine List.all_eq_true.mpr fun c hc => ?_
    have := h.right c hc
    simp only [isNumeric, isWordChar, Lexeme.isNameChar, Char.isAlphanum, Bool.or_eq_true] at this ⊢
    rcases this with (hd | hp) | hm
    case inl.inl => exact .inl (.inl (.inl (.inr hd)))
    case inl.inr => exact .inl (.inr hp)
    case inr     => exact .inr hm
  keyword := by
    rintro (hk | hk | hk) <;> cases hk
    case inl     => exact absurd (h.right 'T' (by decide)) (by decide)
    case inr.inl => exact absurd (h.right 'A' (by decide)) (by decide)
    case inr.inr => exact absurd (h.right 'O' (by decide)) (by decide)

theorem toText {v : Value} (h : v.kind ≠ .text) : IsPlain v.toText.toList := by
  have (cs) (hc : cs ∈ ["NaN".toList, "inf".toList, "-inf".toList]) : IsPlain cs := by
    simp only [List.mem_cons, List.not_mem_nil, or_false] at hc
    rcases hc with rfl | rfl | rfl <;> exact ⟨by decide, by decide, by decide⟩
  cases v
  case integer n _ => exact String.toList_ofList ▸ of_isNumeric (.ofInt n)
  case float x     => exact String.toList_ofList ▸ x.isNumeric_toText.elim of_isNumeric (this _)
  case bool b      => cases b <;> exact ⟨by decide, by decide, by decide⟩
  case text        => exact absurd rfl h

theorem spells {cs rest : List Char} (h : IsPlain cs) (hr : Ends rest) : Spells cs [.word cs] rest :=
  .word h.ne_nil h.wordChar hr

end IsPlain

theorem literal_of_kind {v : Value} (h : v.kind ≠ .text) :
    v.literal = v.toText.toList ∧ Literal.ofValue v = .bare v.toText := by
  cases v
  case text => exact absurd rfl h
  all_goals exact ⟨rfl, rfl⟩

theorem Spells.literal (v : Value) {rest : List Char} (hr : Ends rest) :
    Spells v.literal [.ofLiteral (.ofValue v)] rest := by
  by_cases hk : v.kind = .text
  case pos =>
    have ⟨s, hs⟩ := Value.exists_text_of_kind hk
    rw [hs, Literal.ofValue, Lexeme.ofLiteral, String.toList_ofList]
    exact .quote s hr
  case neg =>
    have ⟨hl, ho⟩ := literal_of_kind hk
    rw [hl, ho]
    exact (IsPlain.toText hk).spells hr

theorem literal?_ofLiteral (v : Value) : (Lexeme.ofLiteral (.ofValue v)).literal? = some (.ofValue v) := by
  by_cases hk : v.kind = .text
  case pos =>
    have ⟨s, hs⟩ := Value.exists_text_of_kind hk
    simp [hs, Lexeme.ofLiteral, Lexeme.literal?, Literal.ofValue]
  case neg => simp [(literal_of_kind hk).right, Lexeme.ofLiteral, Lexeme.literal?, (IsPlain.toText hk).keyword]

section Selection

variable {s : Selection}

theorem connective?_ofSelection (s : Selection) : (ofSelection s).connective? = some .or ↔ s.IsOr := by
  cases s <;> simp [ofSelection, connective?, Selection.IsOr]

theorem readable_ofSelection (h : ∀ name ∈ s.fields, Lexeme.IsName name.toList) : (ofSelection s).Readable := by
  induction s
  case everything => trivial
  case comparison name operator v => exact ⟨h name (List.mem_singleton_self _), literal?_ofLiteral v⟩
  case and left right ihl ihr =>
    obtain ⟨hl, hr⟩ := List.forall_mem_append.mp h
    exact ⟨ihl hl, ihr hr⟩
  case or left right ihl ihr =>
    obtain ⟨hl, hr⟩ := List.forall_mem_append.mp h
    exact ⟨ihl hl, ihr hr⟩

-- Parentheses enclose an operand as soon as the text in them is spelled out.
theorem Spells.operand {rest : List Char} (h : ∀ rest, Ends rest → Spells s.chars (ofSelection s).lexemes rest)
    (hr : Ends rest) :
    Spells (s.operand s.chars) ((ofSelection s).operand (ofSelection s).lexemes) rest := by
  simp only [Selection.operand, Expression.operand, connective?_ofSelection]
  split
  case isTrue =>
    have := h ([')'] ++ rest) .closing |>.append .closing
    exact Spells.opening.append this
  case isFalse => exact h rest hr

theorem Spells.selection (h : ∀ name ∈ s.fields, Lexeme.IsName name.toList) {rest : List Char} (hr : Ends rest) :
    Spells s.chars (ofSelection s).lexemes rest := by
  induction s generalizing rest
  case everything => exact .word (by decide) (by decide) hr
  case comparison name operator v =>
    have hn := IsPlain.of_isName (h name (List.mem_singleton_self _))
    have hv := Spells.blank.append (.literal v hr)
    have ho := Spells.blank.append <| (Spells.operator operator .blank).append hv
    have := (hn.spells .blank).append ho
    simpa [Selection.chars, ofSelection, lexemes] using this
  case and left right ihl ihr =>
    obtain ⟨hl, hr'⟩ := List.forall_mem_append.mp h
    exact .join .and (.operand fun _ => ihl hl) (.operand (fun _ => ihr hr') hr)
  case or left right ihl ihr =>
    obtain ⟨hl, hr'⟩ := List.forall_mem_append.mp h
    exact .join .or (ihl hl) (ihr hr' hr)

end Selection

def parse (text : String) : Option Expression :=
  (lexemes? text.toList).bind ofLexemes?

theorem parse_eq_leftmost {s : Selection} (h : ∀ name ∈ s.fields, Lexeme.IsName name.toList) :
    parse s.toText = some (ofSelection s).leftmost := by
  have hs : Spells s.chars _ [] := .selection h nofun
  have hl : lexemes? s.chars = some (ofSelection s).lexemes := by simpa [Spells, lexemes?] using hs
  rw [parse, Selection.toText, String.toList_ofList, hl, Option.bind_some, ofLexemes?_lexemes (readable_ofSelection h)]

theorem parse_toText {s : Selection} (h : ∀ name ∈ s.fields, Lexeme.IsName name.toList) :
    ∃ e, parse s.toText = some e ∧ Regrouped e (ofSelection s) ∧
      ∀ outcome, e.eval outcome = s.eval fun field operator value => outcome field operator (.ofValue value) := by
  have hr := (ofSelection s).leftmost_regrouped
  refine ⟨_, parse_eq_leftmost h, hr, fun outcome => ?_⟩
  rw [hr.eval_eq, eval_ofSelection]

-- Either operand below `AND` an `OR`, operands of each connective grouped from the right, and a text that looks like
-- more of the expression.
theorem parse_toText_nested :
    let a : Selection := .comparison "description" .contains (.text "x' OR (id = 1) AND '\x00")
    let b : Selection := .comparison "id" (.relation .lessOrEqual) (.integer .w64 (-3) (by decide))
    let c : Selection := .comparison "active" (.relation .notEqual) (.bool true)
    let s : Selection := .and (.or a (.or b c)) (.and (.or c .everything) (.and b a))
    s.toText = "(description CONTAINS 'x'' OR (id = 1) AND ''' OR id <= -3 OR active <> true)" ++
      " AND (active <> true OR TRUE) AND id <= -3 AND description CONTAINS 'x'' OR (id = 1) AND '''" ∧
    ∃ e, parse s.toText = some e ∧ Regrouped e (ofSelection s) ∧
      ∀ outcome, e.eval outcome = s.eval fun field operator value => outcome field operator (.ofValue value) :=
  ⟨by decide +kernel, parse_toText (by decide +kernel)⟩

end Expression
end RecordFilter
