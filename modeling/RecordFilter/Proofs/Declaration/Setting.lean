import RecordFilter.Declaration.Attribute

namespace RecordFilter

namespace Setting

variable {s : Setting} {settings : List Setting} {tokens path written rest : List Token} {e : AttributeError}

-- How a setting is written.
inductive Written : Setting → List Token → Prop
  | skip : Written skip [.word "skip"]
  | rename {name written : String} {joint : Bool} :
      Written (rename name) [.word "rename", .symbol '=' joint, .text name written]

-- Settings with commas between them, and possibly one at the end.
inductive Listed : List Setting → List Token → Prop
  | nil : Listed [] []
  | last {s : Setting} {tokens : List Token} (h : Written s tokens) : Listed [s] tokens
  | cons {s : Setting} {settings : List Setting} {tokens rest : List Token} {joint : Bool} (h : Written s tokens)
      (hr : Listed settings rest) : Listed (s :: settings) (tokens ++ .symbol ',' joint :: rest)

section Path

-- Whether a path goes on there.
def Scoped (tokens : List Token) : Prop :=
  ∃ joint rest, tokens = .symbol ':' true :: .symbol ':' joint :: rest

def Worded (tokens : List Token) : Prop :=
  ∃ name rest, tokens = .word name :: rest

inductive Segments : List Token → Prop
  | nil : Segments []
  | cons {joint : Bool} {name : String} {tokens : List Token} (h : Segments tokens) :
      Segments (.symbol ':' true :: .symbol ':' joint :: .word name :: tokens)

inductive IsPath : List Token → Prop
  | plain {name : String} {tokens : List Token} (h : Segments tokens) : IsPath (.word name :: tokens)
  | rooted {joint : Bool} {name : String} {tokens : List Token} (h : Segments tokens) :
      IsPath (.symbol ':' true :: .symbol ':' joint :: .word name :: tokens)

def word? : List Token → Option String
  | [.word name] => some name
  | _            => none

theorem segments_of_not_scoped (h : ¬ Scoped tokens) : segments tokens = .ok (false, tokens) := by
  unfold segments
  split
  case h_1 => exact absurd ⟨_, _, rfl⟩ h
  case h_2 => exact absurd ⟨_, _, rfl⟩ h
  case h_3 => rfl

theorem segments_append (hp : Segments path) (hr : ¬ Scoped rest) :
    segments (path ++ rest) = .ok (!path.isEmpty, rest) := by
  induction hp
  case nil => exact segments_of_not_scoped hr
  case cons ih => simp [segments, ih, Except.map]

theorem segments_broken (hp : Segments path) (hw : ¬ Worded rest) (joint : Bool) :
    segments (path ++ .symbol ':' true :: .symbol ':' joint :: rest) = .error (.noSegment rest.isEmpty) := by
  induction hp
  case nil =>
    rw [List.nil_append, segments]
    rintro name tokens rfl
    exact hw ⟨_, _, rfl⟩
  case cons ih => simp [segments, ih, Except.map]

-- Either a path ends there, or it goes on with something that is no word.
theorem exists_segments (tokens : List Token) : ∃ path rest, tokens = path ++ rest ∧ Segments path ∧
    (¬ Scoped rest ∨ ∃ joint more, rest = .symbol ':' true :: .symbol ':' joint :: more ∧ ¬ Worded more) := by
  fun_induction segments tokens
  case case1 ih =>
    obtain ⟨path, rest, rfl, hp, hr⟩ := ih
    exact ⟨_, rest, rfl, hp.cons, hr⟩
  case case2 joint tokens h =>
    refine ⟨[], _, rfl, .nil, .inr ⟨joint, tokens, rfl, ?_⟩⟩
    rintro ⟨name, rest, rfl⟩
    exact h name rest rfl
  case case3 tokens h h' =>
    refine ⟨[], _, rfl, .nil, .inl ?_⟩
    rintro ⟨joint, rest, rfl⟩
    exact h' joint rest rfl

theorem name_of_isPath (hp : IsPath path) (hr : ¬ Scoped rest) : name (path ++ rest) = .ok (word? path, rest) := by
  cases hp
  case plain h =>
    rw [List.cons_append, name, segments_append h hr]
    cases h <;> rfl
  case rooted h => simp [name, segments_append h hr, Except.map, word?]

theorem name_broken (hp : IsPath path) (hw : ¬ Worded rest) (joint : Bool) :
    name (path ++ .symbol ':' true :: .symbol ':' joint :: rest) = .error (.noSegment rest.isEmpty) := by
  cases hp
  case plain h => simp [name, segments_broken h hw, Except.map]
  case rooted h => simp [name, segments_broken h hw, Except.map]

end Path

section First

-- What is wrong with the setting at the front. That something follows it is not.
inductive Fault : List Token → AttributeError → Prop
  | unnamed {tokens : List Token} (hw : ¬ Worded tokens) (hs : ¬ Scoped tokens) : Fault tokens (noName tokens)
  | rooted {joint : Bool} {tokens : List Token} (hw : ¬ Worded tokens) :
      Fault (.symbol ':' true :: .symbol ':' joint :: tokens) (noName tokens)
  | broken {path rest : List Token} {joint : Bool} (hp : IsPath path) (hw : ¬ Worded rest) :
      Fault (path ++ .symbol ':' true :: .symbol ':' joint :: rest) (.noSegment rest.isEmpty)
  | unknown {path rest : List Token} (hp : IsPath path) (hr : ¬ Scoped rest) (hs : path ≠ [.word "skip"])
      (hn : path ≠ [.word "rename"]) : Fault (path ++ rest) .unknownSetting
  | noEquals {rest : List Token} (hr : ¬ Scoped rest) (he : ∀ joint more, rest ≠ .symbol '=' joint :: more) :
      Fault (.word "rename" :: rest) .noEquals
  | noText {joint : Bool} {rest : List Token} (ht : ∀ name written more, rest ≠ .text name written :: more) :
      Fault (.word "rename" :: .symbol '=' joint :: rest) (.noText rest.isEmpty)

-- Whether there is a setting at the front. A path may begin like one and go on.
def Readable (tokens : List Token) : Prop :=
  ∃ s written rest, Written s written ∧ tokens = written ++ rest ∧ (s = .skip → ¬ Scoped rest)

theorem eq_of_word?_eq_some {name : String} (h : word? path = some name) : path = [.word name] := by
  unfold word? at h
  split at h <;> cases h
  rfl

theorem name_word {n : String} (hr : ¬ Scoped rest) : name (.word n :: rest) = .ok (some n, rest) :=
  name_of_isPath (.plain .nil) hr

theorem name_unnamed (hw : ¬ Worded tokens) (hs : ¬ Scoped tokens) : name tokens = .error (noName tokens) := by
  unfold name
  split
  case h_1 => exact absurd ⟨_, _, rfl⟩ hw
  case h_2 => exact absurd ⟨_, _, rfl⟩ hs
  case h_3 => exact absurd ⟨_, _, rfl⟩ hs
  case h_4 => rfl

theorem name_rooted (hw : ¬ Worded tokens) (joint : Bool) :
    name (.symbol ':' true :: .symbol ':' joint :: tokens) = .error (noName tokens) := by
  rw [name]
  rintro n rest rfl
  exact hw ⟨n, rest, rfl⟩

theorem not_scoped_symbol {c : Char} {joint : Bool} (h : c ≠ ':') : ¬ Scoped (.symbol c joint :: rest) := by
  rintro ⟨_, _, h'⟩
  cases h'
  exact h rfl

theorem first_of_name_error (h : name tokens = .error e) : first tokens = .error e := by
  rw [first, h]

theorem first_of_written (h : Written s written) (hr : s = .skip → ¬ Scoped rest) :
    first (written ++ rest) = .ok (s, rest) := by
  cases h
  case skip => rw [List.cons_append, List.nil_append, first, name_word (hr rfl)]; rfl
  case rename => rw [List.cons_append, List.cons_append, first, name_word (not_scoped_symbol (by decide))]; rfl

theorem first_of_unknown (hp : IsPath path) (hr : ¬ Scoped rest) (hs : path ≠ [.word "skip"])
    (hn : path ≠ [.word "rename"]) : first (path ++ rest) = .error .unknownSetting := by
  rw [first, name_of_isPath hp hr]
  split
  case h_1 h => cases h
  case h_2 h => exact absurd (eq_of_word?_eq_some (Prod.mk.inj (Except.ok.inj h)).left) hs
  case h_3 h => exact absurd (eq_of_word?_eq_some (Prod.mk.inj (Except.ok.inj h)).left) hn
  case h_4 => rfl

theorem first_of_fault (h : Fault tokens e) : first tokens = .error e := by
  cases h
  case unnamed hw hs => exact first_of_name_error (name_unnamed hw hs)
  case rooted hw => exact first_of_name_error (name_rooted hw _)
  case broken hp hw => exact first_of_name_error (name_broken hp hw _)
  case unknown hp hr hs hn => exact first_of_unknown hp hr hs hn
  case noEquals rest hr he =>
    rw [first, name_word hr]
    simp only
    split
    case h_1 => exact absurd rfl (he _ _)
    case h_2 => exact absurd rfl (he _ _)
    case h_3 => rfl
  case noText joint rest ht =>
    rw [first, name_word (not_scoped_symbol (by decide))]
    simp only

theorem readable_or_fault_of_rename (hr : ¬ Scoped rest) :
    Readable (.word "rename" :: rest) ∨ ∃ e, Fault (.word "rename" :: rest) e := by
  by_cases he : ∃ joint more, rest = .symbol '=' joint :: more
  case pos =>
    obtain ⟨joint, more, rfl⟩ := he
    by_cases ht : ∃ name written more', more = .text name written :: more'
    case pos =>
      obtain ⟨name, written, more, rfl⟩ := ht
      exact .inl ⟨_, _, more, .rename, rfl, nofun⟩
    case neg => exact .inr ⟨_, .noText fun name written more' h => ht ⟨name, written, more', h⟩⟩
  case neg => exact .inr ⟨_, .noEquals hr fun joint more h => he ⟨joint, more, h⟩⟩

theorem readable_or_fault_of_path (path : List Token) (hp : ∀ further, Segments further → IsPath (path ++ further))
    (tokens : List Token) : Readable (path ++ tokens) ∨ ∃ e, Fault (path ++ tokens) e := by
  obtain ⟨further, rest, rfl, hf, hr⟩ := exists_segments tokens
  rw [← List.append_assoc]
  obtain hr | ⟨joint, more, rfl, hw⟩ := hr
  case inl =>
    by_cases hs : path ++ further = [.word "skip"]
    case pos => exact .inl ⟨_, _, rest, .skip, by rw [hs], fun _ => hr⟩
    case neg =>
      by_cases hn : path ++ further = [.word "rename"]
      case pos => rw [hn]; exact readable_or_fault_of_rename hr
      case neg => exact .inr ⟨_, .unknown (hp _ hf) hr hs hn⟩
  case inr => exact .inr ⟨_, .broken (hp _ hf) hw⟩

theorem readable_or_fault (tokens : List Token) : Readable tokens ∨ ∃ e, Fault tokens e := by
  by_cases hw : Worded tokens
  case pos =>
    obtain ⟨name, rest, rfl⟩ := hw
    exact readable_or_fault_of_path [.word name] (fun _ => .plain) rest
  case neg =>
    by_cases hs : Scoped tokens
    case neg => exact .inr ⟨_, .unnamed hw hs⟩
    case pos =>
      obtain ⟨joint, rest, rfl⟩ := hs
      by_cases hw : Worded rest
      case neg => exact .inr ⟨_, .rooted hw⟩
      case pos =>
        obtain ⟨name, rest, rfl⟩ := hw
        exact readable_or_fault_of_path [.symbol ':' true, .symbol ':' joint, .word name] (fun _ => .rooted) rest

end First

section All

-- The error of the first setting at fault. Those before it are as they should be, and so are the commas.
inductive FirstFault : List Token → AttributeError → Prop
  | here {tokens : List Token} {e : AttributeError} (hn : tokens ≠ []) (h : Fault tokens e) : FirstFault tokens e
  | leftover {s : Setting} {written rest : List Token} (h : Written s written) (hn : rest ≠ [])
      (hr : s = .skip → ¬ Scoped rest) (hc : ∀ joint more, rest ≠ .symbol ',' joint :: more) :
      FirstFault (written ++ rest) .noComma
  | later {s : Setting} {written rest : List Token} {joint : Bool} {e : AttributeError} (h : Written s written)
      (hr : FirstFault rest e) : FirstFault (written ++ .symbol ',' joint :: rest) e

theorem ne_nil_of_first (h : first tokens = .ok (s, rest)) : tokens ≠ [] :=
  List.ne_nil_of_length_pos (Nat.zero_lt_of_lt (length_lt_of_first h))

theorem all_of_ne_nil (hn : tokens ≠ []) : all tokens =
    match first tokens with
    | .error e                         => .error e
    | .ok (s, [])                      => .ok [s]
    | .ok (s, .symbol ',' _ :: tokens) => (all tokens).map (s :: ·)
    | .ok _                            => .error .noComma := by
  rw [all, if_neg (by simpa using hn)]
  split <;> simp_all

theorem all_of_first_error (hn : tokens ≠ []) (h : first tokens = .error e) : all tokens = .error e := by
  rw [all_of_ne_nil hn, h]

theorem all_of_first_last (h : first tokens = .ok (s, [])) : all tokens = .ok [s] := by
  rw [all_of_ne_nil (ne_nil_of_first h), h]

theorem all_of_first_comma {joint : Bool} (h : first tokens = .ok (s, .symbol ',' joint :: rest)) :
    all tokens = (all rest).map (s :: ·) := by
  rw [all_of_ne_nil (ne_nil_of_first h), h]
  rfl

theorem all_of_first_leftover (h : first tokens = .ok (s, rest)) (hn : rest ≠ [])
    (hc : ∀ joint more, rest ≠ .symbol ',' joint :: more) : all tokens = .error .noComma := by
  rw [all_of_ne_nil (ne_nil_of_first h), h]
  split
  case h_1 h' => cases h'
  case h_2 h' => cases h'; exact absurd rfl hn
  case h_3 h' => cases h'; exact absurd rfl (hc _ _)
  case h_4 => rfl

theorem all_of_written {joint : Bool} (h : Written s written) :
    all (written ++ .symbol ',' joint :: rest) = (all rest).map (s :: ·) :=
  all_of_first_comma (first_of_written h fun _ => not_scoped_symbol (by decide))

theorem all_of_listed (h : Listed settings tokens) : all tokens = .ok settings := by
  induction h
  case nil => rw [all]; rfl
  case last s written h =>
    have hf : first (written ++ []) = .ok (s, []) := first_of_written h fun _ ⟨_, _, h⟩ => nomatch h
    exact all_of_first_last (List.append_nil written ▸ hf)
  case cons h _ ih => rw [all_of_written h, ih]; rfl

theorem all_of_firstFault (h : FirstFault tokens e) : all tokens = .error e := by
  induction h
  case here hn h => exact all_of_first_error hn (first_of_fault h)
  case leftover h hn hr hc => exact all_of_first_leftover (first_of_written h hr) hn hc
  case later h _ ih => rw [all_of_written h, ih]; rfl

-- Either all settings can be read, or there is a first one at fault.
theorem listed_or_firstFault (tokens : List Token) :
    (∃ settings, Listed settings tokens) ∨ ∃ e, FirstFault tokens e := by
  induction h : tokens.length using Nat.strongRecOn generalizing tokens
  case ind ih =>
    obtain ⟨s, written, rest, hw, rfl, hr⟩ | ⟨e, hf⟩ := readable_or_fault tokens
    case inr =>
      by_cases hn : tokens = []
      case pos => exact .inl ⟨[], hn ▸ .nil⟩
      case neg => exact .inr ⟨e, .here hn hf⟩
    case inl =>
      by_cases hc : ∃ joint more, rest = .symbol ',' joint :: more
      case pos =>
        obtain ⟨joint, more, rfl⟩ := hc
        have hl : more.length < (written ++ .symbol ',' joint :: more).length := by simp; omega
        obtain ⟨settings, hs⟩ | ⟨e, hf⟩ := ih _ (h ▸ hl) more rfl
        case inl => exact .inl ⟨s :: settings, .cons hw hs⟩
        case inr => exact .inr ⟨e, .later hw hf⟩
      case neg =>
        by_cases hn : rest = []
        case pos => exact .inl ⟨[s], by rw [hn, List.append_nil]; exact .last hw⟩
        case neg => exact .inr ⟨_, .leftover hw hn hr fun joint more h => hc ⟨joint, more, h⟩⟩

theorem all_eq_ok_iff : all tokens = .ok settings ↔ Listed settings tokens := by
  constructor
  case mp =>
    intro h
    obtain ⟨settings', h'⟩ | ⟨e, h'⟩ := listed_or_firstFault tokens
    case inl => cases h.symm.trans (all_of_listed h'); exact h'
    case inr => exact nomatch h.symm.trans (all_of_firstFault h')
  case mpr => exact all_of_listed

theorem all_eq_error_iff : all tokens = .error e ↔ FirstFault tokens e := by
  constructor
  case mp =>
    intro h
    obtain ⟨settings, h'⟩ | ⟨e', h'⟩ := listed_or_firstFault tokens
    case inl => exact nomatch h.symm.trans (all_of_listed h')
    case inr => cases h.symm.trans (all_of_firstFault h'); exact h'
  case mpr => exact all_of_firstFault

end All

-- The name that a setting gives.
def newName? : Setting → Option String
  | skip        => none
  | rename name => some name

end Setting

end RecordFilter
