import RecordFilter.Declaration.Expansion
import RecordFilter.Declaration.Reader
import RecordFilter.Proofs.Declaration.Acceptance
import RecordFilter.Proofs.Declaration.Attribute

namespace RecordFilter

-- The elements of a list, of which some that are idle were left out and the others changed into like ones.
inductive Thinned {α : Type} (Idle : α → Prop) (Like : α → α → Prop) : List α → List α → Prop
  | nil : Thinned Idle Like [] []
  | drop {x : α} {xs ys : List α} (hx : Idle x) (h : Thinned Idle Like xs ys) : Thinned Idle Like (x :: xs) ys
  | keep {x y : α} {xs ys : List α} (hl : Like x y) (h : Thinned Idle Like xs ys) :
      Thinned Idle Like (x :: xs) (y :: ys)

namespace Thinned

variable {α β : Type} {Idle : α → Prop} {Like : α → α → Prop} {xs ys : List α}

theorem filterMap (h : Thinned Idle Like xs ys) {f : α → Option β} (hi : ∀ x, Idle x → f x = none)
    (hl : ∀ x y, Like x y → f y = f x) : ys.filterMap f = xs.filterMap f := by
  induction h
  case nil => rfl
  case drop hx _ ih => rw [List.filterMap_cons_none (hi _ hx), ih]
  case keep hxy _ ih => rw [List.filterMap_cons, List.filterMap_cons, hl _ _ hxy, ih]

theorem exists_like (h : Thinned Idle Like xs ys) {y : α} (hy : y ∈ ys) : ∃ x ∈ xs, Like x y := by
  induction h
  case nil => cases hy
  case drop ih =>
    obtain ⟨x, hx, hl⟩ := ih hy
    exact ⟨x, List.mem_cons_of_mem _ hx, hl⟩
  case keep x _ _ _ hxy _ ih =>
    cases hy
    case head => exact ⟨x, List.mem_cons_self, hxy⟩
    case tail hy =>
      obtain ⟨x', hx, hl⟩ := ih hy
      exact ⟨x', List.mem_cons_of_mem _ hx, hl⟩

end Thinned

namespace FieldOptions

variable {attributes : List Attribute} {options : FieldOptions}

-- Once any setting says so, the member is skipped.
theorem skip_of_mem (h : ofAttributes attributes = .ok options) {a : Attribute} (ha : a ∈ attributes)
    (hf : a.IsFilterable) {settings : List Setting} (hs : a.settings = .ok settings) (hm : .skip ∈ settings) :
    options.skip := by
  rw [ofAttributes_eq] at h
  cases hr : (attributes.filter (·.IsFilterable)).mapM Attribute.settings <;> rw [hr] at h <;> cases h
  case ok groups =>
    have hg : settings ∈ groups := mem_of_mapM hr (by simp [ha, hf]) hs
    simp only [ofSettings_eq]
    exact decide_eq_true (List.mem_flatten_of_mem hg hm)

end FieldOptions

-- Some attributes that are not meant for filters are taken out.
def Attribute.Pruned : List Attribute → List Attribute → Prop :=
  Thinned (¬ ·.IsFilterable) Eq

namespace Member

-- Whether an attribute that is meant for filters says that the member is to be skipped.
def IsSkipped (m : Member) : Prop :=
  ∃ a ∈ m.attributes, a.IsFilterable ∧ ∃ settings, a.settings = .ok settings ∧ .skip ∈ settings

-- The members are the same but for attributes.
structure Pruned (m m' : Member) : Prop where
  attributes : Attribute.Pruned m.attributes m'.attributes
  visibility : m'.visibility = m.visibility
  ident      : m'.ident = m.ident
  type       : m'.type = m.type

variable {m m' : Member}

theorem registeredName?_of_isSkipped (h : m.IsSkipped) : m.registeredName? = none := by
  obtain ⟨a, ha, hf, settings, hs, hm⟩ := h
  rw [registeredName?]
  cases ho : FieldOptions.ofAttributes m.attributes
  case error => rfl
  case ok options =>
    have hk : options.skip := FieldOptions.skip_of_mem ho ha hf hs hm
    simp [hk]

namespace Pruned

theorem ofAttributes (h : m.Pruned m') :
    FieldOptions.ofAttributes m'.attributes = FieldOptions.ofAttributes m.attributes := by
  have hf : (m'.attributes.filter fun a => a.IsFilterable) = m.attributes.filter fun a => a.IsFilterable := by
    simp only [← List.filterMap_eq_filter]
    refine h.attributes.filterMap (fun a ha => by simp [ha]) ?_
    rintro a _ rfl
    rfl
  rw [FieldOptions.ofAttributes, FieldOptions.ofAttributes, hf]

theorem registeredName? (h : m.Pruned m') : m'.registeredName? = m.registeredName? := by
  rw [Member.registeredName?, Member.registeredName?, h.ofAttributes, h.ident]

theorem description? (h : m.Pruned m') : m'.description? = m.description? := by
  rw [Member.description?, Member.description?, h.registeredName?, h.visibility, h.ident, h.type]

end Pruned
end Member

-- Some members that are skipped are taken out, with their attributes. From the other members, attributes are.
inductive Declaration.Body.Pruned : Body → Body → Prop
  | named {members members' : List Member} (h : Thinned Member.IsSkipped Member.Pruned members members') :
      Pruned (.named members) (.named members')
  | same (body : Body) : Pruned body body

structure Declaration.Pruned (d d' : Declaration) : Prop where
  visibility : d'.visibility = d.visibility
  name       : d'.name = d.name
  parameters : d'.parameters = d.parameters
  body       : d.body.Pruned d'.body

namespace Registrable

variable {members members' : List Member}

theorem of_thinned (h : Registrable members) (ht : Thinned Member.IsSkipped Member.Pruned members members') :
    Registrable members' where
  readable m' hm := by
    obtain ⟨m, hm, hp⟩ := ht.exists_like hm
    exact hp.ofAttributes ▸ h.readable m hm
  nodup := by
    have hn : members'.filterMap Member.registeredName? = members.filterMap Member.registeredName? :=
      ht.filterMap (fun _ => Member.registeredName?_of_isSkipped) fun _ _ => Member.Pruned.registeredName?
    exact hn ▸ h.nodup

end Registrable

namespace Declaration

variable {d d' : Declaration} {description : Description}

theorem describe_of_pruned (h : d.Pruned d') (hd : d.describe = .ok description) : d'.describe = .ok description := by
  obtain ⟨hp, members, hb, hr, rfl⟩ := describe_eq_ok_iff.mp hd
  rw [describe_eq_ok_iff, h.parameters, h.name, h.visibility]
  have hb' := h.body
  rw [hb] at hb'
  generalize hm : d'.body = body at hb'
  cases hb'
  case same => exact ⟨hp, members, rfl, hr, rfl⟩
  case named members' ht =>
    refine ⟨hp, members', rfl, hr.of_thinned ht, ?_⟩
    have hf : members'.filterMap Member.description? = members.filterMap Member.description? := by
      refine ht.filterMap (fun m hm => ?_) fun _ _ => Member.Pruned.description?
      rw [Member.description?, Member.registeredName?_of_isSkipped hm]
      rfl
    rw [hf]

end Declaration

section Front

open Token

theorem Attribute.front?_attributed (content tokens : List Token) :
    front? (attributed content ++ tokens) =
      (ofTokens? content).bind fun first => (front? tokens).map fun r => (first :: r.1, r.2) := by
  simp only [attributed, alone, bracketed, List.cons_append, List.nil_append, front?]
  cases ofTokens? content
  case none => rfl
  case some first => cases front? tokens <;> rfl

-- Attributes can be taken out of those at the front, and what they belong to is still found.
theorem Attribute.front?_of_sublist {marks kept : List (List Token)} (h : kept.Sublist marks) {tokens rest : List Token}
    {attributes : List Attribute} (hf : front? (marks.flatMap attributed ++ tokens) = some (attributes, rest)) :
    ∃ attributes', front? (kept.flatMap attributed ++ tokens) = some (attributes', rest) := by
  induction h generalizing attributes
  case slnil => exact ⟨attributes, hf⟩
  all_goals
    rw [List.flatMap_cons, List.append_assoc, front?_attributed, Option.bind_eq_some_iff] at hf
    obtain ⟨first, hc, hf⟩ := hf
    obtain ⟨⟨others, _⟩, hr, hf⟩ := Option.map_eq_some_iff.mp hf
    cases hf
  case cons ih => exact ih hr
  case cons_cons ih =>
    obtain ⟨others', ho⟩ := ih hr
    exact ⟨first :: others', by rw [List.flatMap_cons, List.append_assoc, front?_attributed, hc, ho]; rfl⟩

theorem Declaration.ofTokens?_of_sublist {marks kept : List (List Token)} (h : kept.Sublist marks) {tokens : List Token}
    {d : Declaration} (hd : ofTokens? (marks.flatMap attributed ++ tokens) = some d) :
    ofTokens? (kept.flatMap attributed ++ tokens) = some d := by
  rw [ofTokens?, Option.bind_eq_bind, Option.bind_eq_some_iff] at hd ⊢
  obtain ⟨⟨attributes, rest⟩, hf, hd⟩ := hd
  obtain ⟨attributes', hf'⟩ := Attribute.front?_of_sublist h hf
  exact ⟨⟨attributes', rest⟩, hf', hd⟩

end Front

namespace Declaration

variable {d d' : Declaration} {description : Description}

-- The attributes in front of a declaration are not even part of it.
theorem leaves_no_trace (hd : d.describe = .ok description) (h : d.Pruned d') :
    d'.describe = .ok description ∧ d'.expansion = d.expansion ∧
    ∀ (marks kept : List (List Token)) (tokens : List Token), kept.Sublist marks →
      ofTokens? (marks.flatMap Token.attributed ++ tokens) = some d →
      ofTokens? (kept.flatMap Token.attributed ++ tokens) = some d := by
  have hd' := describe_of_pruned h hd
  refine ⟨hd', ?expansion, fun _ _ _ hs => ofTokens?_of_sublist hs⟩
  case expansion => rw [expansion, expansion, hd, hd']

-- A member that is skipped under the name of another one, and what documents that other one, are taken out.
theorem leaves_no_trace_of_cache :
    let id : Member := ⟨[⟨[.word "doc"], .value [.ofText "The key."]⟩], [], "id", [.word "i32"]⟩
    let settings : List Token := [.word "skip", .alone ',', .word "rename", .alone '=', .ofText "id"]
    let cache : Member := ⟨[⟨[.word "filterable"], .list .parentheses settings⟩], [], "cache", [.word "u8"]⟩
    let d : List Member → Declaration := fun members => ⟨[], "Sample", [], .named members⟩
    let description : Description := ⟨"Sample", [], [⟨"id", [], [.word "i32"], "id"⟩]⟩
    (d [id, cache]).describe = .ok description ∧
      (d [{ id with attributes := [] }]).describe = .ok description ∧
      (d [{ id with attributes := [] }]).expansion = (d [id, cache]).expansion := by
  intro id settings cache d description
  have hi : id.registeredName? = some "id" := by decide +kernel
  have ho : FieldOptions.ofAttributes cache.attributes = .ok ⟨true, some "id"⟩ := by decide +kernel
  have hs : cache.IsSkipped :=
    ⟨_, List.mem_cons_self, rfl, [.skip, .rename "id"], by decide +kernel, List.mem_cons_self⟩
  have hc : cache.describe? = .ok none := by rw [Member.describe?, ho]; rfl
  have hf : [id, cache].foldlM extend [] = .ok description.fields := by
    rw [List.foldlM_cons, extend_of_described (Member.describe?_eq_some hi)]
    change [cache].foldlM extend description.fields = _
    rw [List.foldlM_cons, extend_of_skipped hc]
    rfl
  have hd : (d [id, cache]).describe = .ok description := by rw [describe_of_named rfl rfl, hf]; rfl
  have hp : (d [id, cache]).Pruned (d [{ id with attributes := [] }]) :=
    ⟨rfl, rfl, rfl, .named (.keep ⟨.drop (by decide) .nil, rfl, rfl, rfl⟩ (.drop hs .nil))⟩
  obtain ⟨hd', he, -⟩ := leaves_no_trace hd hp
  exact ⟨hd, hd', he⟩

end Declaration
end RecordFilter
