import RecordFilter.Declaration.Expansion
import RecordFilter.Proofs.Declaration.Acceptance
import RecordFilter.Proofs.Declaration.Visibility

namespace RecordFilter

namespace Lexeme

mutual

def ofToken : Token → List Lexeme
  | .group d tokens => opening d :: ofTokens tokens ++ [closing d]
  | t               => [token t]

def ofTokens : List Token → List Lexeme
  | []          => []
  | t :: tokens => ofToken t ++ ofTokens tokens

end

@[simp]
theorem ofTokens_append {a b : List Token} : ofTokens (a ++ b) = ofTokens a ++ ofTokens b := by
  induction a
  case nil => rfl
  case cons t a ih => rw [List.cons_append, ofTokens, ih, ofTokens, List.append_assoc]

mutual

theorem nest?_ofToken (t : Token) (outer : List (Delimiter × List Token)) (before : List Token) (rest : List Lexeme) :
    nest? outer before (ofToken t ++ rest) = nest? outer (t :: before) rest := by
  cases t
  case group d tokens =>
    rw [ofToken, List.append_assoc, List.cons_append, nest?, nest?_append tokens]
    simp [nest?]
  all_goals rfl

theorem nest?_append (tokens : List Token) (outer : List (Delimiter × List Token)) (before : List Token)
    (rest : List Lexeme) :
    nest? outer before (ofTokens tokens ++ rest) = nest? outer (tokens.reverse ++ before) rest := by
  cases tokens
  case nil => rfl
  case cons t tokens =>
    rw [ofTokens, List.append_assoc, nest?_ofToken t, nest?_append tokens]
    simp

end

-- Nothing is lost where groups are taken apart.
theorem nest?_ofTokens (tokens : List Token) : nest? [] [] (ofTokens tokens) = some tokens := by
  have h := nest?_append tokens [] [] []
  simpa [nest?] using h

end Lexeme

open Token

-- A function that takes a record as `item`.
structure Getter where
  visibility : List Token
  name       : String
  record     : String
  field      : String

structure Entry where
  name      : String
  type      : List Token
  accessors : String
  getter    : String

-- A getter and the entry of its field are read apart from each other, so nothing holds them together here.
structure Code where
  doc        : String
  visibility : List Token
  accessors  : String
  owner      : String
  getters    : List Getter
  record     : String
  collection : String
  listed     : String
  entries    : List Entry

def Getter.tokens (g : Getter) : List Token :=
  g.visibility ++ [word "fn", word g.name, parenthesised [word "item", alone ':', alone '&', word g.record]] ++
  arrow ++ core ["ValueRef"] ++ angled [lifetime "_"] ++
  [braced (core ["FieldValue", "value_ref"] ++ [parenthesised [alone '&', word "item", alone '.', word g.field]])]

def Entry.tokens (e : Entry) : List Token :=
  core ["Field", "new"] ++
  [parenthesised (
    [ofText e.name, alone ','] ++
    angled (e.type ++ [word "as"] ++ core ["FieldValue"]) ++ scope ++ [word "VALUE_TYPE", alone ','] ++
    [word e.accessors] ++ scope ++ [word e.getter, alone ',']),
  alone ',']

namespace Code

-- The type that the getters are functions of, up to these.
def accessorType (c : Code) : List Token :=
  attributed [word "doc", alone '=', ofText c.doc] ++ c.visibility ++ [word "struct", word c.accessors, alone ';'] ++
  attributed [word "automatically_derived"] ++ attributed [word "allow", parenthesised [word "non_snake_case"]] ++
  [word "impl", word c.owner]

def heading (c : Code) : List Token :=
  attributed [word "automatically_derived"] ++ [word "impl"] ++ core ["Filterable"] ++ [word "for", word c.record]

-- Both functions of a registration, but without what the second one does.
def functions (c : Code) : List Token :=
  [word "fn", word "collection", parenthesised []] ++ arrow ++ [alone '&', lifetime "static", word "str",
    braced [ofText c.collection]] ++
  [word "fn", word "fields", parenthesised []] ++ arrow ++ [alone '&', lifetime "static",
    bracketed (Description.fieldType "Self")]

def constant (c : Code) : List Token :=
  [word "const", word "FIELDS", alone ':', alone '&', bracketed (Description.fieldType c.listed), alone '=', alone '&']

def tokens (c : Code) : List Token :=
  c.accessorType ++ [braced (c.getters.flatMap Getter.tokens)] ++ c.heading ++
  [braced (c.functions ++
    [braced (c.constant ++ [bracketed (c.entries.flatMap Entry.tokens)] ++ [alone ';', word "FIELDS"])])]

-- Without this, other tokens in front of a function could pass for a visibility.
structure Proper (c : Code) : Prop where
  visibility : IsVisibility c.visibility
  getters    : ∀ g ∈ c.getters, IsVisibility g.visibility

end Code

section Reading

variable {g g' : Getter} {e e' : Entry} {c c' : Code} {a b v v' : List Token}

-- A visibility ends where any other word stands.
theorem IsVisibility.append_inj {keyword : String} (h : IsVisibility v) (h' : IsVisibility v') (hk : keyword ≠ "pub")
    (he : v ++ word keyword :: a = v' ++ word keyword :: b) : v = v' ∧ a = b := by
  cases h <;> cases h' <;> simp_all

theorem Getter.append_inj (h : IsVisibility g.visibility) (h' : IsVisibility g'.visibility)
    (he : g.tokens ++ a = g'.tokens ++ b) : g = g' ∧ a = b := by
  simp only [Getter.tokens, List.append_assoc, List.cons_append, List.nil_append] at he
  obtain ⟨hv, he⟩ := h.append_inj h' (by decide) he
  cases g
  cases g'
  simp_all [arrow, core, path, angled, sign, alone, scope, parenthesised, braced]

theorem Entry.append_inj (he : e.tokens ++ a = e'.tokens ++ b) : e = e' ∧ a = b := by
  cases e
  cases e'
  simp only [Entry.tokens, core, path, angled, sign, alone, scope, parenthesised, ofText, List.flatMap_cons,
    List.flatMap_nil, List.cons_append, List.nil_append, List.append_assoc, List.cons.injEq, group.injEq, text.injEq,
    true_and] at he
  obtain ⟨⟨⟨rfl, -⟩, he⟩, rfl⟩ := he
  -- Nothing can tell where a type ends, but as much follows any of them.
  obtain ⟨rfl, he⟩ := List.append_inj' he rfl
  simp_all

theorem eq_of_flatMap_eq {α β : Type} {P : α → Prop} {f : α → List β} (hn : ∀ x, f x ≠ [])
    (hf : ∀ x y a b, P x → P y → f x ++ a = f y ++ b → x = y ∧ a = b) {xs ys : List α} (hx : ∀ x ∈ xs, P x)
    (hy : ∀ y ∈ ys, P y) (h : xs.flatMap f = ys.flatMap f) : xs = ys := by
  induction xs generalizing ys
  case nil =>
    cases ys
    case nil => rfl
    case cons y ys => exact absurd (List.append_eq_nil_iff.mp h.symm).left (hn y)
  case cons x xs ih =>
    cases ys
    case nil => exact absurd (List.append_eq_nil_iff.mp h).left (hn x)
    case cons y ys =>
      rw [List.forall_mem_cons] at hx hy
      obtain ⟨rfl, hs⟩ := hf x y _ _ hx.left hy.left h
      rw [ih hx.right hy.right hs]

-- There is only one way to read code.
theorem Code.eq_of_tokens_eq (h : c.Proper) (h' : c'.Proper) (he : c.tokens = c'.tokens) : c = c' := by
  simp only [tokens, accessorType, attributed, List.append_assoc, List.cons_append, List.nil_append, List.cons.injEq,
    true_and] at he
  obtain ⟨hd, he⟩ := he
  obtain ⟨hv, he⟩ := h.visibility.append_inj h'.visibility (by decide) he
  simp only [heading, functions, constant, attributed, bracketed, braced, parenthesised, Description.fieldType, core,
    path, scope, arrow, sign, angled, alone, ofText, List.flatMap_cons, List.flatMap_nil, List.cons_append,
    List.nil_append, List.append_nil, List.cons.injEq, group.injEq, text.injEq, word.injEq, true_and, and_true] at hd he
  obtain ⟨ha, ho, hg, hr, ⟨hc, -⟩, hl, he⟩ := he
  have hg : c.getters = c'.getters :=
    eq_of_flatMap_eq (by simp [Getter.tokens]) (fun _ _ _ _ => Getter.append_inj) h.getters h'.getters hg
  have he : c.entries = c'.entries :=
    eq_of_flatMap_eq (P := fun _ => True) (by simp [Entry.tokens]) (fun _ _ _ _ _ _ => Entry.append_inj) (by simp)
      (by simp) he
  cases c
  cases c'
  simp_all

end Reading

namespace MemberDescription

def getter (record : String) (field : MemberDescription) : Getter :=
  ⟨field.visibility, field.ident, record, field.ident⟩

def entry (record : String) (field : MemberDescription) : Entry :=
  ⟨field.name, field.type, plainName record ++ "Fields", field.ident⟩

end MemberDescription

namespace Description

variable {d : Description}

def code (d : Description) : Code where
  doc        := d.doc
  visibility := d.visibility
  accessors  := d.accessors
  owner      := d.accessors
  getters    := d.fields.map (·.getter d.name)
  record     := d.name
  collection := d.collection
  listed     := d.name
  entries    := d.fields.map (·.entry d.name)

-- All the lists that are followed side by side are lists of the same fields.
theorem repeatedGetters_eq (d : Description) : d.repeatedGetters = d.code.getters.flatMap Getter.tokens := by
  rw [repeatedGetters, visibilities, idents, List.zip_map', List.flatMap_map, code, List.flatMap_map]
  rfl

theorem repeatedEntries_eq (d : Description) : d.repeatedEntries = d.code.entries.flatMap Entry.tokens := by
  rw [repeatedEntries, names, types, idents, List.zip_map', List.zip_map', List.flatMap_map, code, List.flatMap_map]
  rfl

theorem tokens_code (d : Description) : d.code.tokens = d.expansion := by
  rw [Code.tokens, ← repeatedGetters_eq, ← repeatedEntries_eq]
  simp [expansion, accessorType, getters, registration, fieldList, Code.accessorType, Code.heading, Code.functions,
    Code.constant, code]

theorem proper_code (hv : IsVisibility d.visibility) (hf : ∀ field ∈ d.fields, IsVisibility field.visibility) :
    d.code.Proper where
  visibility := hv
  getters := List.forall_mem_map.mpr hf

end Description

section Frame

open Lexeme

-- What stands around the getters and around the entries is the same whatever they are.
theorem Code.exists_frame (c : Code) :
    ∃ p q r, ∀ getters entries, ofTokens { c with getters, entries }.tokens =
      p ++ ofTokens (getters.flatMap Getter.tokens) ++ q ++ ofTokens (entries.flatMap Entry.tokens) ++ r := by
  refine ⟨ofTokens c.accessorType ++ [opening .braces],
    closing .braces :: ofTokens c.heading ++ opening .braces :: ofTokens c.functions ++ opening .braces ::
      ofTokens c.constant ++ [opening .brackets],
    closing .brackets :: ofTokens [alone ';', word "FIELDS"] ++ [closing .braces, closing .braces], ?_⟩
  intro getters entries
  simp [tokens, accessorType, heading, functions, constant, braced, bracketed, ofTokens, ofToken]

def Lexeme.ofGetters (record : String) (fields : List MemberDescription) : List Lexeme :=
  ofTokens (fields.flatMap fun field => (field.getter record).tokens)

def Lexeme.ofEntries (record : String) (fields : List MemberDescription) : List Lexeme :=
  ofTokens (fields.flatMap fun field => (field.entry record).tokens)

theorem Description.exists_frame (name : String) (visibility : List Token) :
    ∃ p q r, ∀ fields, ofTokens (expansion ⟨name, visibility, fields⟩) =
      p ++ ofGetters name fields ++ q ++ ofEntries name fields ++ r := by
  obtain ⟨p, q, r, h⟩ := (code ⟨name, visibility, []⟩).exists_frame
  refine ⟨p, q, r, fun fields => ?_⟩
  have hf := h (fields.map (·.getter name)) (fields.map (·.entry name))
  rw [List.flatMap_map, List.flatMap_map] at hf
  rw [← tokens_code]
  exact hf

end Frame

namespace Declaration

open Lexeme

variable {d : Declaration} {description : Description}

theorem expansion_eq (h : d.describe = .ok description) : d.expansion = description.expansion := by
  rw [expansion, h]

theorem proper_of_ofTokens? (h : d.describe = .ok description) {tokens : List Token}
    (hd : ofTokens? tokens = some d) : description.code.Proper := by
  obtain ⟨-, members, hb, -, rfl⟩ := describe_eq_ok_iff.mp h
  obtain ⟨hv, hm⟩ := isVisibility_of_ofTokens? hd
  refine Description.proper_code hv fun field hf => ?_
  obtain ⟨m, hmem, hf⟩ := List.mem_filterMap.mp hf
  obtain ⟨name, -, rfl⟩ := Option.map_eq_some_iff.mp hf
  exact hm members hb m hmem

-- Neither a getter nor an entry is missing, added or out of place, and only these two change with a field.
theorem expands_field_by_field (h : d.describe = .ok description) :
    (∃ members, d.body = .named members ∧ description.fields = members.filterMap Member.description?) ∧
    (∃ code : Code, code.tokens = d.expansion ∧
      code.getters.length = description.fields.length ∧ code.entries.length = description.fields.length ∧
      (∀ (i : Nat) (field : MemberDescription), description.fields[i]? = some field →
        code.getters[i]? = some ⟨field.visibility, field.ident, d.name, field.ident⟩ ∧
        code.entries[i]? = some ⟨field.name, field.type, plainName d.name ++ "Fields", field.ident⟩) ∧
      ∀ tokens, ofTokens? tokens = some d →
        code.Proper ∧ ∀ c : Code, c.Proper → c.tokens = d.expansion → c = code) ∧
    nest? [] [] (ofTokens d.expansion) = some d.expansion ∧
    ∀ (d' : Declaration) (description' : Description), d'.describe = .ok description' →
      d'.visibility = d.visibility → d'.name = d.name → ∀ before field field' after,
      description.fields = before ++ field :: after → description'.fields = before ++ field' :: after →
      ∃ p q r,
        ofTokens d.expansion =
          (p ++ ofGetters d.name before) ++ ofTokens (field.getter d.name).tokens ++
          (ofGetters d.name after ++ q ++ ofEntries d.name before) ++ ofTokens (field.entry d.name).tokens ++
          (ofEntries d.name after ++ r) ∧
        ofTokens d'.expansion =
          (p ++ ofGetters d.name before) ++ ofTokens (field'.getter d.name).tokens ++
          (ofGetters d.name after ++ q ++ ofEntries d.name before) ++ ofTokens (field'.entry d.name).tokens ++
          (ofEntries d.name after ++ r) := by
  have he := expansion_eq h
  obtain ⟨-, members, hb, -, rfl⟩ := describe_eq_ok_iff.mp h
  refine ⟨⟨members, hb, rfl⟩, ⟨Description.code _, (Description.tokens_code _).trans he.symm, ?getters, ?entries,
    ?aligned, ?unique⟩, nest?_ofTokens _, ?frame⟩
  case getters => simp [Description.code]
  case entries => simp [Description.code]
  case aligned =>
    intro i field hi
    dsimp only at hi
    simp only [Description.code, List.getElem?_map, hi, Option.map_some]
    exact ⟨rfl, rfl⟩
  case unique =>
    intro tokens hd
    have hp := proper_of_ofTokens? h hd
    refine ⟨hp, fun c hc ht => Code.eq_of_tokens_eq hc hp ?_⟩
    rw [ht, he, Description.tokens_code]
  case frame =>
    intro d' description' h' hv hn before field field' after hf hf'
    have he' := expansion_eq h'
    obtain ⟨-, members', -, -, rfl⟩ := describe_eq_ok_iff.mp h'
    dsimp only at hf hf'
    rw [hn, hv] at he'
    obtain ⟨p, q, r, hp⟩ := Description.exists_frame d.name d.visibility
    refine ⟨p, q, r, ?left, ?right⟩
    case left => rw [he, hf, hp]; simp [ofGetters, ofEntries]
    case right => rw [he', hf', hp]; simp [ofGetters, ofEntries]

-- Of three members one is named by a keyword, one is skipped, and one has a name of its own for filters.
theorem expands_field_by_field_of_sample :
    let type : Member := ⟨[], [.word "pub"], "r#type", [.word "u8"]⟩
    let cache : Member := ⟨[⟨[.word "filterable"], .list .parentheses [.word "skip"]⟩], [], "cache", [.word "u8"]⟩
    let settings : List Token := [.word "rename", .alone '=', .ofText "label"]
    let name : Member := ⟨[⟨[.word "filterable"], .list .parentheses settings⟩], [], "name", [.word "String"]⟩
    let d : Declaration := ⟨[.word "pub"], "Sample", [], .named [type, cache, name]⟩
    let tokens : List Token := [.word "pub", .word "struct", .word "Sample", braced (
      [.word "pub", .word "r#type", .alone ':', .word "u8", .alone ','] ++
      attributed [.word "filterable", parenthesised [.word "skip"]] ++
      [.word "cache", .alone ':', .word "u8", .alone ','] ++
      attributed [.word "filterable", parenthesised settings] ++ [.word "name", .alone ':', .word "String"])]
    ofTokens? tokens = some d ∧ ∃ code : Code, code.Proper ∧ code.tokens = d.expansion ∧
      code.getters = [⟨[.word "pub"], "r#type", "Sample", "r#type"⟩, ⟨[], "name", "Sample", "name"⟩] ∧
      code.entries = [⟨"type", [.word "u8"], "SampleFields", "r#type"⟩,
        ⟨"label", [.word "String"], "SampleFields", "name"⟩] ∧
      ∀ c : Code, c.Proper → c.tokens = d.expansion → c = code := by
  intro type cache settings name d tokens
  have ht : type.registeredName? = some "type" := by decide +kernel
  have hc : cache.registeredName? = none := by decide +kernel
  have hn : name.registeredName? = some "label" := by decide +kernel
  have hr : Registrable [type, cache, name] := by
    refine ⟨?readable, by decide +kernel⟩
    case readable =>
      simp only [List.forall_mem_cons]
      exact ⟨⟨⟨false, none⟩, by decide +kernel⟩, ⟨⟨true, none⟩, by decide +kernel⟩,
        ⟨⟨false, some "label"⟩, by decide +kernel⟩, nofun⟩
  have hd : d.describe = .ok ⟨"Sample", [.word "pub"],
      [⟨"r#type", [.word "pub"], [.word "u8"], "type"⟩, ⟨"name", [], [.word "String"], "label"⟩]⟩ := by
    refine describe_eq_ok_iff.mpr ⟨rfl, _, rfl, hr, ?_⟩
    simp [Member.description?, ht, hc, hn, d, type, name]
  have hs : ofTokens? tokens = some d := rfl
  have ha : plainName d.name ++ "Fields" = "SampleFields" := by decide +kernel
  obtain ⟨-, ⟨code, hcode, hg, he, hf, hu⟩, -, -⟩ := expands_field_by_field hd
  obtain ⟨hp, hu⟩ := hu tokens hs
  obtain ⟨g, g', hg⟩ := List.length_eq_two.mp hg
  obtain ⟨e, e', he⟩ := List.length_eq_two.mp he
  obtain ⟨hg₀, he₀⟩ := hf 0 _ rfl
  obtain ⟨hg₁, he₁⟩ := hf 1 _ rfl
  rw [hg] at hg₀ hg₁
  rw [he, ha] at he₀ he₁
  cases hg₀
  cases hg₁
  cases he₀
  cases he₁
  exact ⟨hs, code, hp, hcode, hg, he, hu⟩

end Declaration
end RecordFilter
