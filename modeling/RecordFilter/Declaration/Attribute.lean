import RecordFilter.Declaration.Token

namespace RecordFilter

inductive Attribute.Content
  | bare
  | list (delimiter : Delimiter) (tokens : List Token)
  | value (tokens : List Token)

structure Attribute where
  path    : List Token
  content : Attribute.Content

inductive Setting
  | skip
  | rename (name : String)
deriving DecidableEq

-- What is wrong with an attribute. `atEnd` tells that the tokens ended where more were expected.
inductive AttributeError
  | noArguments
  | noParentheses
  | noSetting
  | literalSetting
  | strangeSetting
  | noSegment (atEnd : Bool)
  | unknownSetting
  | noEquals
  | noText (atEnd : Bool)
  | noComma
deriving DecidableEq

namespace AttributeError

def ending (atEnd : Bool) (s : String) : String :=
  if atEnd then "unexpected end of input, " ++ s else s

def message : AttributeError → String
  | noArguments     => "expected attribute arguments in parentheses: #[filterable(...)]"
  | noParentheses   => "expected parentheses: #[filterable(...)]"
  | noSetting       => ending true "expected nested attribute"
  | literalSetting  => "unexpected literal in nested attribute, expected ident"
  | strangeSetting  => "unexpected token in nested attribute, expected ident"
  | noSegment atEnd => ending atEnd "expected ident"
  | unknownSetting  => "expected `rename = \"...\"` or `skip`"
  | noEquals        => "expected `=`"
  | noText atEnd    => ending atEnd "expected string literal"
  | noComma         => "expected `,`"

end AttributeError

namespace Setting

open AttributeError

-- What follows the further words of a path, each of them behind a `::`, and whether there are any.
def segments : List Token → Except AttributeError (Bool × List Token)
  | .symbol ':' true :: .symbol ':' _ :: .word _ :: tokens => (segments tokens).map fun r => (true, r.2)
  | .symbol ':' true :: .symbol ':' _ :: tokens            => .error (noSegment tokens.isEmpty)
  | tokens                                                 => .ok (false, tokens)

-- A minus belongs to the number behind it.
def isLiteral : List Token → Bool
  | .literal _ :: _ | .text _ _ :: _      => true
  | .symbol '-' _ :: .literal written :: _ => written.toList.head?.any Char.isDigit
  | _                                      => false

def noName (tokens : List Token) : AttributeError :=
  if tokens.isEmpty then noSetting else if isLiteral tokens then literalSetting else strangeSetting

-- The name at the front, unless it is only the beginning of a longer path, and what follows it.
def name : List Token → Except AttributeError (Option String × List Token)
  | .word name :: tokens => (segments tokens).map fun r => (if r.1 then none else some name, r.2)
  | .symbol ':' true :: .symbol ':' _ :: .word _ :: tokens => (segments tokens).map fun r => (none, r.2)
  | .symbol ':' true :: .symbol ':' _ :: tokens            => .error (noName tokens)
  | tokens                                                 => .error (noName tokens)

def first (tokens : List Token) : Except AttributeError (Setting × List Token) :=
  match name tokens with
  | .error e                 => .error e
  | .ok (some "skip", rest)  => .ok (skip, rest)
  | .ok (some "rename", rest) =>
    match rest with
    | .symbol '=' _ :: .text name _ :: rest => .ok (rename name, rest)
    | .symbol '=' _ :: rest                 => .error (noText rest.isEmpty)
    | _                                     => .error noEquals
  | .ok _ => .error unknownSetting

theorem segments_of_map {α : Type} {f : Bool × List Token → α} {tokens rest : List Token} {a : α}
    (h : (segments tokens).map (fun r => (f r, r.2)) = .ok (a, rest)) :
    ∃ more, segments tokens = .ok (more, rest) := by
  cases hs : segments tokens with
  | error e => simp [hs, Except.map] at h
  | ok r =>
    simp only [hs, Except.map, Except.ok.injEq, Prod.mk.injEq] at h
    exact ⟨r.1, by rw [← h.2]⟩

theorem length_le_of_segments {tokens rest : List Token} {more : Bool} (h : segments tokens = .ok (more, rest)) :
    rest.length ≤ tokens.length := by
  fun_induction segments tokens generalizing more
  case case1 ih =>
    have ⟨_, hs⟩ := segments_of_map h
    have := ih hs
    simp only [List.length_cons]
    omega
  case case2 => cases h
  case case3 => cases h; exact Nat.le_refl _

theorem length_lt_of_name {tokens rest : List Token} {n : Option String} (h : name tokens = .ok (n, rest)) :
    rest.length < tokens.length := by
  unfold name at h
  split at h <;> try cases h
  all_goals
    have ⟨_, hs⟩ := segments_of_map h
    have := length_le_of_segments hs
    simp only [List.length_cons]
    omega

theorem length_lt_of_first {tokens rest : List Token} {setting : Setting}
    (h : first tokens = .ok (setting, rest)) : rest.length < tokens.length := by
  unfold first at h
  split at h
  case h_1 => cases h
  case h_2 hn => cases h; exact length_lt_of_name hn
  case h_3 hn =>
    have := length_lt_of_name hn
    split at h <;> cases h
    simp only [List.length_cons] at this
    omega
  case h_4 => cases h

-- A comma stands between settings, and may stand after the last one.
def all (tokens : List Token) : Except AttributeError (List Setting) :=
  if tokens.isEmpty then
    .ok []
  else
    match _h : first tokens with
    | .error e                               => .error e
    | .ok (setting, [])                      => .ok [setting]
    | .ok (setting, .symbol ',' _ :: tokens) => (all tokens).map (setting :: ·)
    | .ok _                                  => .error noComma
termination_by tokens.length
decreasing_by
  have := length_lt_of_first ‹_›
  simp at this
  omega

end Setting

namespace Attribute

-- Whether an attribute is meant for filters. All others are passed over, whatever they contain.
def IsFilterable (a : Attribute) : Prop :=
  match a.path with
  | [.word name] => name = "filterable"
  | _            => False

instance : DecidablePred IsFilterable := fun a =>
  match h : a.path with
  | [.word name] => decidable_of_iff (name = "filterable") (by simp [IsFilterable, h])
  | [] | .lifetime _ :: _ | .symbol _ _ :: _ | .literal _ :: _ | .text _ _ :: _ | .group _ _ :: _
  | .word _ :: _ :: _ => isFalse (by simp [IsFilterable, h])

-- The messages ask for parentheses, but a list in brackets or braces is read as well.
def settings (a : Attribute) : Except AttributeError (List Setting) :=
  match a.content with
  | .bare          => .error .noArguments
  | .value _       => .error .noParentheses
  | .list _ tokens => Setting.all tokens

end Attribute

-- What the attributes of a field say about it.
structure FieldOptions where
  skip   : Bool
  rename : Option String
deriving DecidableEq

namespace FieldOptions

def default : FieldOptions := ⟨false, none⟩

-- Of several names the last one is taken.
def apply (options : FieldOptions) : Setting → FieldOptions
  | .skip        => { options with skip := true }
  | .rename name => { options with rename := some name }

def ofSettings (settings : List Setting) : FieldOptions :=
  settings.foldl apply default

def ofAttributes (attributes : List Attribute) : Except AttributeError FieldOptions := do
  let settings ← (attributes.filter fun a => a.IsFilterable).mapM (·.settings)
  return ofSettings settings.flatten

end FieldOptions
end RecordFilter
