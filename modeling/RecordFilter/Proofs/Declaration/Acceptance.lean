import Mathlib.Data.List.Induction
import RecordFilter.Declaration.Grammar.Phrase
import RecordFilter.Proofs.Declaration.Description

namespace RecordFilter

variable {m : Member} {members before after : List Member} {name : String} {e : DeclarationError}

-- What is wrong with a member that follows others.
inductive Member.Fault (before : List Member) (m : Member) : DeclarationError → Prop
  | unreadable {cause : AttributeError} (h : FieldOptions.ofAttributes m.attributes = .error cause) :
      Fault before m (.badAttribute cause)
  | registered {name : String} {earlier : Member} (hn : m.registeredName? = some name) (he : earlier ∈ before)
      (hr : earlier.registeredName? = some name) : Fault before m (.registered name earlier.ident)

open Member

-- Members that can be registered together.
structure Registrable (members : List Member) : Prop where
  readable : ∀ m ∈ members, ∃ options, FieldOptions.ofAttributes m.attributes = .ok options
  nodup    : (members.filterMap registeredName?).Nodup

namespace Registrable

theorem nil : Registrable [] :=
  ⟨nofun, List.nodup_nil⟩

theorem of_append (h : Registrable (before ++ after)) : Registrable before where
  readable m hm := h.readable m (List.mem_append_left _ hm)
  nodup := (List.filterMap_append ▸ h.nodup).of_append_left

theorem concat (h : Registrable before) (hf : ∀ e, ¬ Fault before m e) : Registrable (before ++ [m]) where
  readable m' hm := by
    obtain hm | hm := List.mem_append.mp hm
    case inl => exact h.readable m' hm
    case inr =>
      cases List.mem_singleton.mp hm
      cases ha : FieldOptions.ofAttributes m.attributes
      case error => exact absurd (.unreadable ha) (hf _)
      case ok options => exact ⟨options, rfl⟩
  nodup := by
    rw [List.filterMap_append, List.nodup_append]
    refine ⟨h.nodup, ?singleton, ?disjoint⟩
    case singleton => cases hn : m.registeredName? <;> simp [hn]
    case disjoint =>
      rintro name hb _ hm rfl
      obtain ⟨earlier, he, hr⟩ := List.mem_filterMap.mp hb
      have hn : m.registeredName? = some name := by simpa using hm
      exact hf _ (.registered hn he hr)

theorem not_fault (h : Registrable (before ++ m :: after)) : ¬ Fault before m e := by
  intro hf
  cases hf
  case unreadable ha =>
    obtain ⟨options, ho⟩ := h.readable m (by simp)
    exact nomatch ha.symm.trans ho
  case registered hn he hr =>
    have hd := h.nodup
    rw [List.filterMap_append, List.filterMap_cons_some hn, List.nodup_append] at hd
    exact hd.right.right _ (List.mem_filterMap.mpr ⟨_, he, hr⟩) _ List.mem_cons_self rfl

theorem find?_description? (h : Registrable members) {earlier : Member} (he : earlier ∈ members)
    (hr : earlier.registeredName? = some name) :
    (members.filterMap description?).find? (·.name = name) =
      some ⟨earlier.ident, earlier.visibility, earlier.type, name⟩ :=
  find?_of_nodup (map_name_description? members ▸ h.nodup)
    (List.mem_filterMap.mpr ⟨earlier, he, description?_eq_some hr⟩)

end Registrable

-- Either a member at fault is the first one, or there is none.
theorem registrable_or_fault (members : List Member) :
    Registrable members ∨
    ∃ before m after e, members = before ++ m :: after ∧ Registrable before ∧ Fault before m e := by
  induction members using List.reverseRecOn
  case nil => exact .inl .nil
  case append_singleton members m ih =>
    obtain h | ⟨before, m', after, e, rfl, hb, hf⟩ := ih
    case inl =>
      by_cases hf : ∃ e, Fault members m e
      case pos => exact .inr ⟨members, m, [], hf.choose, rfl, h, hf.choose_spec⟩
      case neg => exact .inl (h.concat (not_exists.mp hf))
    case inr => exact .inr ⟨before, m', after ++ [m], e, by simp, hb, hf⟩

-- Members can be registered together exactly if none of them is at fault.
theorem registrable_iff :
    Registrable members ↔ ∀ before m after, members = before ++ m :: after → ∀ e, ¬ Fault before m e := by
  constructor
  case mp => rintro h before m after rfl e; exact h.not_fault
  case mpr =>
    intro h
    obtain h' | ⟨before, m, after, e, rfl, -, hf⟩ := registrable_or_fault members
    case inl => exact h'
    case inr => exact absurd hf (h before m after rfl e)

namespace Declaration

theorem extend_of_fault (h : Registrable before) (hf : Fault before m e) :
    extend (before.filterMap description?) m = .error e := by
  cases hf
  case unreadable cause ha => exact extend_of_error (by rw [describe?_eq, ha]; rfl)
  case registered name earlier hn he hr =>
    rw [extend_of_described (describe?_eq_some hn), h.find?_description? he hr]
    rfl

theorem extend_of_registrable (h : Registrable (before ++ [m])) :
    extend (before.filterMap description?) m = .ok ((before ++ [m]).filterMap description?) := by
  obtain ⟨options, ho⟩ := h.readable m (by simp)
  rw [List.filterMap_append]
  cases hd : m.description?
  case none => rw [extend_of_skipped (by rw [describe?_eq, ho, hd]; rfl)]; simp [hd]
  case some field =>
    have hf : (before.filterMap description?).find? (·.name = field.name) = none := by
      have hn := h.nodup
      rw [← map_name_description?, List.filterMap_append, List.filterMap_cons_some hd, List.map_append,
        List.nodup_append] at hn
      rw [List.find?_eq_none]
      intro other ho
      simpa using hn.right.right _ (List.mem_map_of_mem ho) _ List.mem_cons_self
    rw [extend_of_described (by rw [describe?_eq, ho, hd]; rfl), hf]
    simp [hd]

theorem foldlM_of_registrable (h : Registrable members) :
    members.foldlM extend [] = .ok (members.filterMap description?) := by
  induction members using List.reverseRecOn
  case nil => rfl
  case append_singleton members m ih =>
    rw [List.foldlM_append, ih h.of_append]
    change [m].foldlM extend _ = _
    rw [List.foldlM_cons, extend_of_registrable h]
    rfl

theorem foldlM_of_fault (h : Registrable before) (hf : Fault before m e) :
    (before ++ m :: after).foldlM extend [] = .error e := by
  rw [List.foldlM_append, foldlM_of_registrable h]
  change (m :: after).foldlM extend _ = _
  rw [List.foldlM_cons, extend_of_fault h hf]
  rfl

theorem foldlM_eq_ok_iff {fields : List MemberDescription} :
    members.foldlM extend [] = .ok fields ↔ Registrable members ∧ fields = members.filterMap description? := by
  constructor
  case mp =>
    intro h
    obtain hr | ⟨before, m, after, e, rfl, hb, hf⟩ := registrable_or_fault members
    case inl =>
      rw [foldlM_of_registrable hr] at h
      cases h
      exact ⟨hr, rfl⟩
    case inr => exact nomatch h.symm.trans (foldlM_of_fault hb hf)
  case mpr => rintro ⟨h, rfl⟩; exact foldlM_of_registrable h

theorem foldlM_eq_error_iff :
    members.foldlM extend [] = .error e ↔
      ∃ before m after, members = before ++ m :: after ∧ Registrable before ∧ Fault before m e := by
  constructor
  case mp =>
    intro h
    obtain hr | ⟨before, m, after, e', rfl, hb, hf⟩ := registrable_or_fault members
    case inl => exact nomatch h.symm.trans (foldlM_of_registrable hr)
    case inr =>
      cases h.symm.trans (foldlM_of_fault hb hf)
      exact ⟨before, m, after, rfl, hb, hf⟩
  case mpr => rintro ⟨before, m, after, rfl, hb, hf⟩; exact foldlM_of_fault hb hf

-- What is wrong with a declaration. Its members are only looked at if there is nothing wrong with it as a whole.
inductive Fault (d : Declaration) : DeclarationError → Prop
  | generic (h : d.parameters ≠ []) : Fault d .generic
  | notNamed (h : d.parameters = []) (hb : d.body = .tuple ∨ d.body = .unit) : Fault d .notNamed
  | notStruct (h : d.parameters = []) (hb : d.body = .enumeration ∨ d.body = .union) : Fault d .notStruct
  | member {before after : List Member} {m : Member} {e : DeclarationError} (h : d.parameters = [])
      (hb : d.body = .named (before ++ m :: after))
      (hr : ∀ b m' a, before = b ++ m' :: a → ∀ e', ¬ Member.Fault b m' e') (hf : Member.Fault before m e) : Fault d e

variable {d : Declaration}

theorem describe_of_generic (h : d.parameters ≠ []) : d.describe = .error .generic := by
  rw [describe, if_pos (by simpa [IsGeneric] using h)]
  rfl

theorem describe_of_body (h : d.parameters = []) :
    d.describe = (Declaration.members d.body).bind fun members =>
      (members.foldlM extend []).map fun fields => ⟨d.name, d.visibility, fields⟩ := by
  rw [describe, if_neg (by simp [IsGeneric, h])]
  cases Declaration.members d.body
  case error => rfl
  case ok members =>
    simp only [bind, Except.bind]
    cases members.foldlM extend [] <;> rfl

theorem describe_of_named (h : d.parameters = []) (hb : d.body = .named members) :
    d.describe = (members.foldlM extend []).map fun fields => ⟨d.name, d.visibility, fields⟩ := by
  rw [describe_of_body h, hb]
  rfl

theorem describe_eq_ok_iff {description : Description} :
    d.describe = .ok description ↔
      d.parameters = [] ∧ ∃ members, d.body = .named members ∧ Registrable members ∧
        description = ⟨d.name, d.visibility, members.filterMap description?⟩ := by
  constructor
  case mp =>
    intro hd
    have h : d.parameters = [] := by
      by_contra h
      exact nomatch hd.symm.trans (describe_of_generic h)
    cases hb : d.body
    case named members =>
      rw [describe_of_named h hb] at hd
      cases hf : members.foldlM extend [] <;> rw [hf] at hd <;> cases hd
      obtain ⟨hr, rfl⟩ := foldlM_eq_ok_iff.mp hf
      exact ⟨h, members, rfl, hr, rfl⟩
    all_goals rw [describe_of_body h, hb] at hd; cases hd
  case mpr =>
    rintro ⟨h, members, hb, hr, rfl⟩
    rw [describe_of_named h hb, foldlM_of_registrable hr]
    rfl

-- No two fields are registered under one name.
theorem nodup_of_describe {description : Description} (h : d.describe = .ok description) :
    (description.fields.map (·.name)).Nodup := by
  obtain ⟨-, members, -, hr, rfl⟩ := describe_eq_ok_iff.mp h
  exact map_name_description? members ▸ hr.nodup

theorem describe_of_fault (h : d.Fault e) : d.describe = .error e := by
  cases h
  case generic h => exact describe_of_generic h
  case notNamed h hb => obtain hb | hb := hb <;> rw [describe_of_body h, hb] <;> rfl
  case notStruct h hb => obtain hb | hb := hb <;> rw [describe_of_body h, hb] <;> rfl
  case member h hb hr hf =>
    rw [describe_of_named h hb, foldlM_of_fault (registrable_iff.mpr hr) hf]
    rfl

theorem fault_of_describe (hd : d.describe = .error e) : d.Fault e := by
  by_cases h : d.parameters = []
  case neg =>
    cases hd.symm.trans (describe_of_generic h)
    exact .generic h
  case pos =>
    cases hb : d.body
    case named members =>
      rw [describe_of_named h hb] at hd
      cases hf : members.foldlM extend [] <;> rw [hf] at hd <;> cases hd
      obtain ⟨before, m, after, rfl, hr, hf⟩ := foldlM_eq_error_iff.mp hf
      exact .member h hb (registrable_iff.mp hr) hf
    all_goals rw [describe_of_body h, hb] at hd; cases hd
    case tuple => exact .notNamed h (.inl hb)
    case unit => exact .notNamed h (.inr hb)
    case enumeration => exact .notStruct h (.inl hb)
    case union => exact .notStruct h (.inr hb)

theorem read?_parameters (b b' : Bool) (rest : List Token) :
    Rule.parameters.read? (.symbol '<' b :: .symbol '>' b' :: rest) = some ([], rest) := by
  obtain ⟨n, hn⟩ : ∃ n, 2000 * (Token.sizes (.symbol '<' b :: .symbol '>' b' :: rest) + 1) = n + 4 :=
    ⟨2000 * Token.sizes rest + 5996, by simp [Token.sizes, Token.size]; omega⟩
  rw [Rule.read?, hn]
  rfl

end Declaration
end RecordFilter
