import RecordFilter.Declaration.Reader

namespace RecordFilter

inductive IsVisibility : List Token → Prop
  | inherited : IsVisibility []
  | everywhere : IsVisibility [.word "pub"]
  | within (path : List Token) : IsVisibility [.word "pub", .group .parentheses path]

namespace Rule

variable {rules : Phrase → Rule} {n : Nat} {rule first second : Rule} {names : List String} {d : Delimiter}
  {tokens written rest : List Token}

-- What a rule has read is taken apart along the rule, however much fuel is left for its parts.
theorem exists_of_read_word (h : read rules n (word names) tokens = some (written, rest)) :
    ∃ name ∈ names, written = [.word name] := by
  cases n
  case zero => cases h
  case succ n =>
    match tokens with
    | .word w :: tokens =>
      change (if w ∈ names then some ([Token.word w], tokens) else none) = _ at h
      split at h <;> cases h
      case isTrue hw => exact ⟨w, hw, rfl⟩

theorem exists_of_read_group (h : read rules n (group d rule) tokens = some (written, rest)) :
    ∃ content, written = [.group d content] := by
  cases n
  case zero => cases h
  case succ n =>
    match tokens with
    | .group d' content :: tokens =>
      rw [read] at h
      split at h <;> try cases h
      split at h <;> cases h
      exact ⟨_, rfl⟩

theorem exists_of_read_append (h : read rules n (first ++ second) tokens = some (written, rest)) :
    ∃ m a middle b, read rules m first tokens = some (a, middle) ∧ read rules m second middle = some (b, rest) ∧
      written = a ++ b := by
  cases n
  case zero => cases h
  case succ n =>
    change ((read rules n first tokens).bind fun r =>
      (read rules n second r.2).bind fun r' => some (r.1 ++ r'.1, r'.2)) = _ at h
    obtain ⟨⟨a, middle⟩, ha, h⟩ := Option.bind_eq_some_iff.mp h
    obtain ⟨⟨b, _⟩, hb, h⟩ := Option.bind_eq_some_iff.mp h
    cases h
    exact ⟨n, a, middle, b, ha, hb, rfl⟩

theorem eq_nil_or_of_read_optional (h : read rules n (optional rule) tokens = some (written, rest)) :
    written = [] ∨ ∃ m, read rules m rule tokens = some (written, rest) := by
  cases n
  case zero => cases h
  case succ n =>
    change (read rules n rule tokens <|> read rules n nothing tokens) = _ at h
    cases hr : read rules n rule tokens
    case some r =>
      rw [hr] at h
      exact .inr ⟨n, hr.trans h⟩
    case none =>
      rw [hr] at h
      cases n <;> cases h
      exact .inl rfl

theorem isVisibility_of_read (h : read rules n visibility tokens = some (written, rest)) : IsVisibility written := by
  obtain rfl | ⟨m, h⟩ := eq_nil_or_of_read_optional h
  case inl => exact .inherited
  case inr =>
    obtain ⟨m, a, middle, b, ha, hb, rfl⟩ := exists_of_read_append h
    obtain ⟨name, hn, rfl⟩ := exists_of_read_word ha
    cases List.mem_singleton.mp hn
    obtain rfl | ⟨m, hb⟩ := eq_nil_or_of_read_optional hb
    case inl => exact .everywhere
    case inr =>
      obtain ⟨content, rfl⟩ := exists_of_read_group hb
      exact .within content

end Rule

namespace Member

variable {m : Member} {members : List Member} {tokens rest : List Token} {n : Nat}

theorem isVisibility_of_front? (h : front? tokens = some (m, rest)) : IsVisibility m.visibility := by
  rw [front?, Option.bind_eq_bind, Option.bind_eq_some_iff] at h
  obtain ⟨⟨attributes, tokens⟩, -, h⟩ := h
  obtain ⟨⟨visibility, tokens⟩, hv, h⟩ := Option.bind_eq_some_iff.mp h
  split at h <;> try cases h
  case h_1 hr =>
    obtain ⟨⟨type, rest⟩, -, h⟩ := Option.bind_eq_some_iff.mp h
    cases h
    cases hr
    exact Rule.isVisibility_of_read hv

theorem isVisibility_of_all? (h : all? n tokens = some members) : ∀ m ∈ members, IsVisibility m.visibility := by
  induction n generalizing tokens members
  case zero => cases h
  case succ n ih =>
    cases tokens
    case nil => cases h; exact nofun
    case cons token tokens =>
      obtain ⟨⟨m, rest⟩, hm, h⟩ := Option.bind_eq_some_iff.mp h
      split at h <;> try cases h
      case h_1 hr =>
        cases hr
        simpa using isVisibility_of_front? hm
      case h_2 hr =>
        cases hr
        obtain ⟨members, hn, h⟩ := Option.bind_eq_some_iff.mp h
        cases h
        exact List.forall_mem_cons.mpr ⟨isVisibility_of_front? hm, ih hn⟩

end Member

namespace Declaration

variable {d : Declaration} {members : List Member} {tokens : List Token}

theorem isVisibility_of_record? (h : record? tokens = some (.named members)) :
    ∀ m ∈ members, IsVisibility m.visibility := by
  unfold record? at h
  split at h <;> try cases h
  case h_2 =>
    obtain ⟨⟨_, rest⟩, -, h⟩ := Option.bind_eq_some_iff.mp h
    split at h <;> try cases h
    case h_1 =>
      obtain ⟨members, hm, h⟩ := Option.bind_eq_some_iff.mp h
      cases h
      exact Member.isVisibility_of_all? hm

theorem isVisibility_of_ofTokens? (h : ofTokens? tokens = some d) :
    IsVisibility d.visibility ∧ ∀ members, d.body = .named members → ∀ m ∈ members, IsVisibility m.visibility := by
  rw [ofTokens?, Option.bind_eq_bind, Option.bind_eq_some_iff] at h
  obtain ⟨⟨attributes, tokens⟩, -, h⟩ := h
  obtain ⟨⟨visibility, tokens⟩, hv, h⟩ := Option.bind_eq_some_iff.mp h
  split at h <;> try cases h
  case h_1 hr =>
    cases hr
    obtain ⟨⟨parameters, tokens⟩, -, h⟩ := Option.bind_eq_some_iff.mp h
    dsimp only at h
    split at h <;> try cases h
    case h_1 =>
      obtain ⟨body, hb, h⟩ := Option.bind_eq_some_iff.mp h
      cases h
      exact ⟨Rule.isVisibility_of_read hv, fun _ hm => isVisibility_of_record? (hb.trans (congrArg some hm))⟩
    -- Neither of the other bodies has members.
    all_goals exact ⟨Rule.isVisibility_of_read hv, nofun⟩

end Declaration
end RecordFilter
