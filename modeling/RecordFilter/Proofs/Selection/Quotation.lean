import RecordFilter.Proofs.Expression.RoundTrip
import RecordFilter.Proofs.Predicate.Compile
import RecordFilter.Proofs.Selection.Linear
import Mathlib.Data.List.Chain

namespace RecordFilter

open Expression (closeQuote? closeQuote?_length_lt closeQuote?_quote Ends)

def withoutNulls (s : String) : List Char :=
  s.toList.filter (· ≠ '\x00')

-- What stands between the quotes at the front, and what follows them.
def quotation? : List Char → Option (List Char × List Char)
  | '\'' :: cs => closeQuote? cs
  | _          => none

-- What stands between quotes anywhere, from left to right. There is nothing to be found if quotes are left open.
def quotations? : List Char → Option (List (List Char))
  | []      => some []
  | c :: cs =>
    if c = '\'' then
      match _h : closeQuote? cs with
      | none           => none
      | some (s, rest) => (quotations? rest).map (s :: ·)
    else
      quotations? cs
termination_by cs => cs.length
decreasing_by
  · exact Nat.lt_succ_of_lt (closeQuote?_length_lt _h)
  · exact Nat.lt_succ_self _

theorem quotations?_append_of_not_mem {cs : List Char} (h : '\'' ∉ cs) (rest : List Char) :
    quotations? (cs ++ rest) = quotations? rest := by
  induction cs
  case nil => rfl
  case cons c cs ih =>
    have ⟨hc, hcs⟩ := not_or.mp (mt List.mem_cons.mpr h)
    rw [List.cons_append, quotations?, if_neg (Ne.symm hc), ih hcs]

theorem quotations?_of_quotation? {cs s rest : List Char} (h : quotation? cs = some (s, rest)) :
    quotations? cs = (quotations? rest).map (s :: ·) := by
  unfold quotation? at h
  split at h
  case h_1 cs =>
    rw [quotations?, if_pos rfl]
    split
    case h_1 hn => cases h.symm.trans hn
    case h_2 hs => cases h.symm.trans hs; rfl
  case h_2 => cases h

namespace Value

def text? : Value → Option String
  | text s => some s
  | _      => none

theorem quotation?_quote (s : String) {rest : List Char} (h : rest.head? ≠ some '\'') :
    quotation? (quote s ++ rest) = some (withoutNulls s, rest) := by
  simp [quote, quotation?, withoutNulls, closeQuote?_quote s.toList h]

theorem flatMap_quoteChar_filter (cs : List Char) :
    (cs.filter (· ≠ '\x00')).flatMap quoteChar = cs.flatMap quoteChar := by
  induction cs
  case nil => rfl
  case cons c cs ih =>
    by_cases h : c = '\x00'
    case pos => rw [List.filter_cons_of_neg (by simpa using h), ih, List.flatMap_cons, h]; rfl
    case neg => rw [List.filter_cons_of_pos (by simpa using h), List.flatMap_cons, ih, List.flatMap_cons]

theorem quote_eq_iff {s t : String} : quote s = quote t ↔ withoutNulls s = withoutNulls t where
  mp h := by
    have hq (s : String) : quotation? (quote s ++ []) = some (withoutNulls s, []) := quotation?_quote s nofun
    have hs := hq s
    rw [h, hq t, Option.some_inj, Prod.mk.injEq] at hs
    exact hs.left.symm
  mpr h := by
    rw [quote, quote, ← flatMap_quoteChar_filter s.toList, ← flatMap_quoteChar_filter t.toList]
    exact congrArg (fun cs => '\'' :: cs.flatMap quoteChar ++ ['\'']) h

theorem text?_eq_none_iff {v : Value} : v.text? = none ↔ v.kind ≠ .text := by
  cases v <;> simp [text?, kind]

theorem quote_not_mem_literal {v : Value} (h : v.text? = none) : '\'' ∉ v.literal := by
  have hk := text?_eq_none_iff.mp h
  rw [(Expression.literal_of_kind hk).left]
  intro hm
  exact absurd (List.all_eq_true.mp (Expression.IsPlain.toText hk).wordChar _ hm) (by decide)

end Value

namespace Selection

def texts (s : Selection) : List String :=
  s.comparisons.filterMap (·.2.2.text?)

theorem fields_eq_map_comparisons (s : Selection) : s.fields = s.comparisons.map Prod.fst := by
  induction s
  case everything => rfl
  case comparison => rfl
  case and left right ihl ihr => simp [fields, comparisons, ihl, ihr]
  case or left right ihl ihr  => simp [fields, comparisons, ihl, ihr]

namespace Piece

def comparison? : Piece → Option (String × Operator × Value)
  | comparison field operator value => some (field, operator, value)
  | _                               => none

def text? (p : Piece) : Option String :=
  p.comparison?.bind (·.2.2.text?)

def IsOperand : Piece → Prop
  | everything | comparison .. => True
  | _                          => False

-- Whether an operand that stands in front of the piece ends there.
def EndsOperand : Piece → Prop
  | closing | connective _ => True
  | _                      => False

theorem EndsOperand.ends {p : Piece} (h : p.EndsOperand) (rest : List Char) : Ends (p.chars ++ rest) := by
  cases p
  case closing    => exact .closing
  case connective => exact .blank
  all_goals exact nomatch h

theorem chars_comparison (field : String) (operator : Operator) (value : Value) :
    (comparison field operator value).chars =
      field.toList ++ (' ' :: operator.symbol.toList ++ [' ']) ++ value.literal := by
  simp [chars]

theorem quote_not_mem_front {field : String} (h : '\'' ∉ field.toList) (operator : Operator) :
    '\'' ∉ field.toList ++ (' ' :: operator.symbol.toList ++ [' ']) := by
  refine List.not_mem_append h ?_
  cases operator
  case relation r => cases r <;> decide
  case contains   => decide

variable {p : Piece} {rest : List Char}

theorem exists_of_text? {s : String} (h : p.text? = some s) :
    ∃ field operator, p = comparison field operator (.text s) := by
  cases p
  case comparison field operator value =>
    cases value
    case text => cases h; exact ⟨field, operator, rfl⟩
    all_goals cases h
  all_goals cases h

theorem quote_not_mem_chars (hn : ∀ c ∈ p.comparison?, '\'' ∉ c.1.toList) (ht : p.text? = none) :
    '\'' ∉ p.chars := by
  cases p
  case comparison field operator value =>
    rw [chars_comparison]
    exact List.not_mem_append (quote_not_mem_front (hn _ rfl) operator) (Value.quote_not_mem_literal ht)
  case connective c => cases c <;> decide
  all_goals decide

-- A text is found if its field's name has no quotes, and if what follows does not go on with the text.
theorem quotations?_chars (hn : ∀ c ∈ p.comparison?, '\'' ∉ c.1.toList) (hr : p.IsOperand → Ends rest) :
    quotations? (p.chars ++ rest) = (quotations? rest).map (p.text?.toList.map withoutNulls ++ ·) := by
  cases ht : p.text?
  case none =>
    rw [quotations?_append_of_not_mem (quote_not_mem_chars hn ht)]
    exact Option.map_id'.symm
  case some s =>
    obtain ⟨field, operator, rfl⟩ := exists_of_text? ht
    have hq := Value.quotation?_quote s (hr trivial).head_ne_quote
    rw [chars_comparison, List.append_assoc, quotations?_append_of_not_mem (quote_not_mem_front (hn _ rfl) operator)]
    exact quotations?_of_quotation? hq

end Piece

theorem comparison?_grouped (s : Selection) (ps : List Piece) :
    (s.grouped ps).filterMap Piece.comparison? = ps.filterMap Piece.comparison? := by
  rw [grouped]
  split <;> simp [List.filterMap_cons, Piece.comparison?]

theorem comparison?_pieces (s : Selection) : s.pieces.filterMap Piece.comparison? = s.comparisons := by
  induction s
  case everything => rfl
  case comparison => rfl
  case and left right ihl ihr =>
    simp [pieces, comparisons, comparison?_grouped, List.filterMap_cons, Piece.comparison?, ihl, ihr]
  case or left right ihl ihr =>
    simp [pieces, comparisons, List.filterMap_cons, Piece.comparison?, ihl, ihr]

theorem text?_pieces (s : Selection) : s.pieces.filterMap Piece.text? = s.texts := by
  rw [texts, ← comparison?_pieces, List.filterMap_filterMap]
  rfl

-- Between two operands there is always something that ends the first of them.
def Parted (ps : List Piece) : Prop :=
  ps.IsChain fun p q => p.IsOperand → q.EndsOperand

namespace Parted

variable {p : Piece} {ps qs : List Piece}

theorem grouped (h : Parted ps) (s : Selection) : Parted (s.grouped ps) := by
  rw [Selection.grouped]
  split
  case isTrue =>
    have hc : Parted (ps ++ [.closing]) :=
      List.IsChain.append h (List.isChain_singleton _) (by simp [Piece.EndsOperand])
    exact List.IsChain.cons hc fun _ _ => False.elim
  case isFalse => exact h

theorem join (hp : Parted ps) (c : Connective) (hq : Parted qs) : Parted (ps ++ .connective c :: qs) := by
  have hc : Parted (.connective c :: qs) := List.IsChain.cons hq fun _ _ => False.elim
  exact List.IsChain.append hp hc (by simp [Piece.EndsOperand])

theorem pieces (s : Selection) : Parted s.pieces := by
  induction s
  case everything => exact List.isChain_singleton _
  case comparison => exact List.isChain_singleton _
  case and left right ihl ihr => exact (ihl.grouped left).join .and (ihr.grouped right)
  case or left right ihl ihr  => exact ihl.join .or ihr

theorem ends (h : Parted (p :: ps)) (hp : p.IsOperand) : Ends (ps.flatMap Piece.chars) := by
  cases ps
  case nil       => exact nofun
  case cons q ps => exact (List.isChain_cons_cons.mp h |>.left hp).ends _

theorem quotations?_flatMap (h : Parted ps) (hn : ∀ p ∈ ps, ∀ c ∈ p.comparison?, '\'' ∉ c.1.toList) :
    quotations? (ps.flatMap Piece.chars) = some ((ps.filterMap Piece.text?).map withoutNulls) := by
  induction ps
  case nil => rw [List.flatMap_nil, quotations?]; rfl
  case cons p ps ih =>
    have ⟨hp, hps⟩ := List.forall_mem_cons.mp hn
    rw [List.flatMap_cons, Piece.quotations?_chars hp h.ends, ih (List.IsChain.tail h) hps, Option.map_some,
      List.filterMap_cons]
    cases p.text? <;> rfl

end Parted

theorem quotations?_chars {s : Selection} (h : ∀ name ∈ s.fields, '\'' ∉ name.toList) :
    quotations? s.chars = some (s.texts.map withoutNulls) := by
  rw [chars_eq_flatMap, ← text?_pieces]
  refine (Parted.pieces s).quotations?_flatMap fun p hp c hc => h _ ?_
  rw [fields_eq_map_comparisons, ← comparison?_pieces]
  exact List.mem_map_of_mem (List.mem_filterMap.mpr ⟨p, hp, hc⟩)

variable {before after : List Piece} {field : String} {operator : Operator} {value : Value}

theorem chars_of_pieces {s : Selection} (h : s.pieces = before ++ .comparison field operator value :: after) :
    s.chars = before.flatMap Piece.chars ++ (field.toList ++ (' ' :: operator.symbol.toList ++ [' '])) ++
      value.literal ++ after.flatMap Piece.chars := by
  rw [chars_eq_flatMap, h, List.flatMap_append, List.flatMap_cons, Piece.chars_comparison]
  simp only [List.append_assoc]

theorem ends_of_pieces {s : Selection} (h : s.pieces = before ++ .comparison field operator value :: after) :
    Ends (after.flatMap Piece.chars) := by
  have hp : Parted (before ++ .comparison field operator value :: after) := h ▸ Parted.pieces s
  exact Parted.ends (List.IsChain.right_of_append hp) trivial

-- A name may hold quotes of its own, so without a word on names it is only told what happens from the place on at which
-- a literal was written.
theorem texts_end_where_written :
    (∀ (s : String) (rest : List Char), rest.head? ≠ some '\'' →
      quotation? ((Value.text s).literal ++ rest) = some (withoutNulls s, rest)) ∧
    (∀ s t : String, (Value.text s).literal = (Value.text t).literal ↔ withoutNulls s = withoutNulls t) ∧
    ∀ selection : Selection,
      selection.pieces.filterMap Piece.comparison? = selection.comparisons ∧
      (∀ before field operator s after, selection.pieces = before ++ .comparison field operator (.text s) :: after →
        let front := before.flatMap Piece.chars ++ (field.toList ++ (' ' :: operator.symbol.toList ++ [' ']))
        let back := after.flatMap Piece.chars
        selection.toText = String.ofList (front ++ (Value.text s).literal ++ back) ∧
          quotation? ((Value.text s).literal ++ back) = some (withoutNulls s, back)) ∧
      ((∀ name ∈ selection.fields, '\'' ∉ name.toList) →
        quotations? selection.toText.toList = some (selection.texts.map withoutNulls)) := by
  refine ⟨fun s rest => Value.quotation?_quote s, fun s t => Value.quote_eq_iff, fun selection => ?_⟩
  refine ⟨comparison?_pieces selection, fun before field operator s after h => ⟨?_, ?_⟩, fun h => ?_⟩
  · exact congrArg String.ofList (chars_of_pieces h)
  · exact Value.quotation?_quote s (ends_of_pieces h).head_ne_quote
  · rw [toText, String.toList_ofList]
    exact quotations?_chars h

-- Two quotes that only a null keeps apart, and a text that looks like more of the expression.
theorem texts_end_where_written_pet :
    let s := "'\x00' OR (id = 1) AND '"
    let a : Selection := .comparison "name" .contains (.text s)
    let b : Selection := .comparison "tame" (.relation .equal) (.bool true)
    let selection : Selection := .and (.or a b) (.comparison "kind" (.relation .equal) (.text ""))
    let kept := "'' OR (id = 1) AND '".toList
    let back := " OR tame = true) AND kind = ''".toList
    quotation? ((Value.text s).literal ++ "\x00'".toList) = some (kept, "\x00'".toList) ∧
    selection.toText = String.ofList ("(name CONTAINS ".toList ++ (Value.text s).literal ++ back) ∧
    quotation? ((Value.text s).literal ++ back) = some (kept, back) ∧
    quotations? selection.toText.toList = some [kept, []] := by
  intro s a b selection kept back
  have ⟨hq, _, hs⟩ := texts_end_where_written
  have ⟨_, hp, hn⟩ := hs selection
  have hk : withoutNulls s = kept := by decide +kernel
  have ⟨ht, he⟩ := hp [.opening] "name" .contains s _ rfl
  refine ⟨hk ▸ hq s _ (by decide), ht.trans ?_, hk ▸ he, (hn (by decide +kernel)).trans ?_⟩
  · decide +kernel
  · decide +kernel

end Selection
end RecordFilter
