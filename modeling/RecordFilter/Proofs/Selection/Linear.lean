import RecordFilter.Selection.Text

namespace RecordFilter
namespace Selection

inductive Piece
  | opening
  | closing
  | connective (c : Connective)
  | everything
  | comparison (field : String) (operator : Operator) (value : Value)
deriving DecidableEq

namespace Piece

def chars : Piece → List Char
  | opening                         => ['(']
  | closing                         => [')']
  | connective c                    => ' ' :: c.symbol.toList ++ [' ']
  | everything                      => "TRUE".toList
  | comparison field operator value => field.toList ++ ' ' :: operator.symbol.toList ++ ' ' :: value.literal

def ofEntry (entry : String × Condition) : Piece :=
  comparison entry.1 entry.2.operator entry.2.value

end Piece

-- The pieces of an operand below an `AND`, given those of the operand on its own.
def grouped (selection : Selection) (ps : List Piece) : List Piece :=
  if selection.IsOr then .opening :: ps ++ [.closing] else ps

def pieces : Selection → List Piece
  | everything                      => [.everything]
  | comparison field operator value => [.comparison field operator value]
  | and left right                  => left.grouped left.pieces ++ .connective .and :: right.grouped right.pieces
  | or left right                   => left.pieces ++ .connective .or :: right.pieces

theorem operand_flatMap (s : Selection) (ps : List Piece) :
    s.operand (ps.flatMap Piece.chars) = (s.grouped ps).flatMap Piece.chars := by
  rw [operand, grouped]
  split
  case isTrue  => simp [parenthesised, Piece.chars]
  case isFalse => rfl

theorem chars_eq_flatMap (s : Selection) : s.chars = s.pieces.flatMap Piece.chars := by
  induction s
  case everything => simp [chars, pieces, Piece.chars]
  case comparison => simp [chars, pieces, Piece.chars]
  case and left right ihl ihr =>
    have hc : " AND ".toList = (Piece.connective .and).chars := by decide
    rw [chars, ihl, ihr, operand_flatMap, operand_flatMap, hc]
    simp [pieces]
  case or left right ihl ihr =>
    have hc : " OR ".toList = (Piece.connective .or).chars := by decide
    rw [chars, ihl, ihr, hc]
    simp [pieces]

-- A condition after the first one, with the connective of the condition before it unless that is the first.
structure Link where
  previous : Option Connective
  entry    : String × Condition

namespace Link

def Closes (link : Link) : Prop :=
  link.previous = some .or ∧ link.entry.2.connective = .and

instance : DecidablePred Closes :=
  fun link => inferInstanceAs (Decidable (link.previous = some .or ∧ link.entry.2.connective = .and))

def pieces (link : Link) : List Piece :=
  (if link.Closes then [.closing] else []) ++ [.connective link.entry.2.connective, .ofEntry link.entry]

theorem opening_not_mem_pieces (link : Link) : .opening ∉ link.pieces := by
  rw [pieces]
  split <;> simp [Piece.ofEntry]

theorem count_closing_pieces (link : Link) : link.pieces.count .closing = if link.Closes then 1 else 0 := by
  rw [pieces]
  split <;> simp [Piece.ofEntry]

theorem flatMap_chars_pieces (link : Link) :
    link.pieces.flatMap Piece.chars =
      (if link.Closes then [')'] else []) ++ (' ' :: link.entry.2.connective.symbol.toList ++ [' ']) ++
        (Piece.ofEntry link.entry).chars := by
  rw [pieces]
  split <;> simp [Piece.chars]

end Link

theorem flatMap_chars_replicate (n : Nat) :
    (List.replicate n Piece.opening).flatMap Piece.chars = List.replicate n '(' := by
  rw [List.flatMap_replicate]
  exact List.flatten_replicate_singleton

theorem count_closing_flatMap (links : List Link) :
    (links.flatMap Link.pieces).count .closing = links.countP (·.Closes) := by
  induction links
  case nil => rfl
  case cons link links ih =>
    rw [List.flatMap_cons, List.count_append, ih, link.count_closing_pieces, List.countP_cons, Nat.add_comm]
    simp only [decide_eq_true_eq]

-- The conditions after the first one, the first of which follows the given connective.
def links (previous : Option Connective) : List (String × Condition) → List Link
  | []               => []
  | entry :: entries => ⟨previous, entry⟩ :: links (some entry.2.connective) entries

def connective? : Selection → Option Connective
  | and _ _ => some .and
  | or _ _  => some .or
  | _       => none

theorem connective?_extend (s : Selection) (entry : String × Condition) :
    (s.extend entry).connective? = some entry.2.connective := by
  rw [extend]
  cases entry.2.connective <;> rfl

theorem pieces_extend (s : Selection) (entry : String × Condition) :
    let link : Link := ⟨s.connective?, entry⟩
    (s.extend entry).pieces = (if link.Closes then [.opening] else []) ++ s.pieces ++ link.pieces := by
  cases hc : entry.2.connective
  case and =>
    cases s <;> simp [extend, join, ofEntry, pieces, grouped, IsOr, connective?, Link.pieces, Link.Closes,
      Piece.ofEntry, hc]
  case or => simp [extend, join, ofEntry, pieces, Link.pieces, Link.Closes, Piece.ofEntry, hc]

-- The induction goes on from any selection, of which it is only remembered what was joined last.
theorem pieces_foldl_extend (s : Selection) (entries : List (String × Condition)) :
    let links := links s.connective? entries
    (entries.foldl extend s).pieces =
      List.replicate (links.countP (·.Closes)) .opening ++ s.pieces ++ links.flatMap Link.pieces := by
  induction entries generalizing s
  case nil => simp [links]
  case cons entry entries ih =>
    simp only [List.foldl_cons, ih, connective?_extend, pieces_extend, links, List.countP_cons, List.flatMap_cons]
    split
    case isTrue h => simp [List.replicate_succ', h]
    case isFalse h => simp [h]

section Front

variable {depth : Nat} {others before after : List Piece}

-- What is written so far is either part of the front or goes beyond all of it.
theorem count_closing_le (hc : others.count .closing ≤ depth)
    (h : before <+: List.replicate depth .opening ++ others) : before.count .closing ≤ before.count .opening := by
  obtain ⟨after, h⟩ := h
  obtain ⟨front, hf, -⟩ | ⟨back, rfl, rfl⟩ := List.append_eq_append_iff.mp h
  case inl =>
    have hn : .closing ∉ before := by
      intro hm
      have hm : .closing ∈ List.replicate depth Piece.opening := hf ▸ List.mem_append_left _ hm
      exact nomatch List.eq_of_mem_replicate hm
    rw [List.count_eq_zero_of_not_mem hn]
    exact Nat.zero_le _
  case inr =>
    rw [List.count_append] at hc
    simp only [List.count_append, List.count_replicate_self, List.count_replicate, beq_iff_eq, reduceCtorEq, if_false]
    omega

theorem opening_not_mem_of_connective {c : Connective} (ho : .opening ∉ others)
    (h : List.replicate depth .opening ++ others = before ++ .connective c :: after) : .opening ∉ after := by
  obtain ⟨back, -, rfl⟩ | ⟨front, hf, ha⟩ := List.append_eq_append_iff.mp h
  case inl =>
    intro hm
    exact ho (List.mem_append_right _ (List.mem_cons_of_mem _ hm))
  case inr =>
    cases front
    case nil =>
      intro hm
      exact ho (List.nil_append others ▸ ha ▸ List.mem_cons_of_mem _ hm)
    case cons piece front =>
      have hm : piece ∈ List.replicate depth Piece.opening := hf ▸ List.mem_append_right _ List.mem_cons_self
      rw [List.eq_of_mem_replicate hm] at ha
      exact nomatch (List.cons.inj ha).left

end Front

end Selection

namespace Filter

open Selection

-- How many parentheses are opened depends on connectives that come later. Which pieces the text has is told beside it,
-- as a name or a literal may look like any of them.
theorem render_linear {κ ρ : Type} {R : Registration κ ρ} {f : Filter} {first : String × Condition}
    {rest : List (String × Condition)} (h : f.registered R = first :: rest) :
    let condition (entry : String × Condition) : List Char :=
      entry.1.toList ++ ' ' :: entry.2.operator.symbol.toList ++ ' ' :: entry.2.value.literal
    let links := links none rest
    let depth := links.countP (·.Closes)
    let pieces := (f.selection R).pieces
    f.render R = String.ofList (List.replicate depth '(' ++ condition first ++ links.flatMap fun link =>
      (if link.Closes then [')'] else []) ++ (' ' :: link.entry.2.connective.symbol.toList ++ [' ']) ++
        condition link.entry) ∧
    f.render R = String.ofList (pieces.flatMap Piece.chars) ∧
    (∃ others, pieces = List.replicate depth .opening ++ others ∧ .opening ∉ others ∧
      others.count .closing = depth) ∧
    (∀ before, before <+: pieces → before.count .closing ≤ before.count .opening) ∧
    (∀ before c after, pieces = before ++ .connective c :: after → .opening ∉ after) := by
  intro condition links depth pieces
  have hp : pieces = List.replicate depth .opening ++ (.ofEntry first :: links.flatMap Link.pieces) := by
    have hs : pieces = (rest.foldl extend (.ofEntry first)).pieces := by rw [← ofEntries, ← h]; rfl
    rw [hs, pieces_foldl_extend]
    simp [Selection.ofEntry, connective?, Selection.pieces, Piece.ofEntry, depth, links]
  have ho : .opening ∉ .ofEntry first :: links.flatMap Link.pieces := by
    rw [List.mem_cons, List.mem_flatMap]
    rintro (he | ⟨link, _, hl⟩)
    · cases he
    · exact link.opening_not_mem_pieces hl
  have hc : (.ofEntry first :: links.flatMap Link.pieces).count .closing = depth :=
    List.count_cons_of_ne (by simp [Piece.ofEntry]) |>.trans (count_closing_flatMap links)
  have ht : f.render R = String.ofList (pieces.flatMap Piece.chars) := by
    rw [render, toText, chars_eq_flatMap]
  refine ⟨?text, ht, ⟨_, hp, ho, hc⟩, fun before hb => ?balance, fun before c after ha => ?right⟩
  case text =>
    rw [ht, hp, List.flatMap_append, flatMap_chars_replicate, List.flatMap_cons, List.flatMap_assoc, List.append_assoc]
    simp only [Link.flatMap_chars_pieces]
    rfl
  case balance => exact count_closing_le (Nat.le_of_eq hc) (hp ▸ hb)
  case right   => exact opening_not_mem_of_connective ho (hp ▸ ha)

-- Two of the parentheses group, and those of the name within the literal do not.
theorem render_linear_pet :
    let R : Registration Nat (Nat → Value) :=
      ⟨"Pet", [⟨"age", .integer .w32, 0⟩, ⟨"name", .text, 1⟩, ⟨"tame", .bool, 2⟩, ⟨"fed", .bool, 3⟩,
        ⟨"weight", .float, 4⟩], fun slot pet => pet slot⟩
    let f := Filter.empty
      |>.or "owner" .contains (.text "Kim")
      |>.or "age" (.relation .less) (.integer .w16 3 (by decide))
      |>.or "name" .contains (.text "(rex) OR '")
      |>.add "tame" (.relation .equal) (.bool true)
      |>.or "fed" (.relation .notEqual) (.bool false)
      |>.add "weight" (.relation .greater) (.integer .w64 2 (by decide))
    f.render R =
      "((age < 3 OR name CONTAINS '(rex) OR ''') AND tame = true OR fed <> false) AND weight > 2" ∧
    ∃ others, (f.selection R).pieces = List.replicate 2 .opening ++ others ∧ .opening ∉ others ∧
      others.count .closing = 2 := by
  intro R f
  have ⟨ht, _, hp, _⟩ := render_linear (f := f) (R := R) rfl
  exact ⟨ht.trans (by decide +kernel), hp⟩

end Filter
end RecordFilter
