import Mathlib.Data.List.Forall2
import Mathlib.Data.List.Induction
import RecordFilter.Declaration.Reader
import RecordFilter.Proofs.Declaration.Setting

namespace RecordFilter

section Traversal

variable {α β ε : Type} {f : α → Except ε β} {xs : List α} {ys : List β} {e : ε}

theorem mapM_eq_ok_iff : xs.mapM f = .ok ys ↔ List.Forall₂ (fun x y => f x = .ok y) xs ys := by
  induction xs generalizing ys
  case nil => cases ys <;> simp [pure, Except.pure]
  case cons x xs ih =>
    rw [List.mapM_cons]
    cases hx : f x
    case error => cases ys <;> simp [bind, Except.bind, hx]
    case ok y =>
      cases hxs : xs.mapM f <;> cases ys <;> simp [bind, Except.bind, pure, Except.pure, hx, hxs, ← ih]

theorem mem_of_mapM (h : xs.mapM f = .ok ys) {x : α} {y : β} (hx : x ∈ xs) (hy : f x = .ok y) : y ∈ ys := by
  rw [mapM_eq_ok_iff] at h
  induction h
  case nil => cases hx
  case cons hy' _ ih =>
    cases hx
    case head =>
      cases hy'.symm.trans hy
      exact List.mem_cons_self
    case tail hx => exact List.mem_cons_of_mem _ (ih hx)

theorem mapM_eq_error_iff : xs.mapM f = .error e ↔
    ∃ before x after, xs = before ++ x :: after ∧ (∀ earlier ∈ before, ∃ y, f earlier = .ok y) ∧ f x = .error e := by
  constructor
  case mp =>
    induction xs
    case nil => exact nofun
    case cons x xs ih =>
      intro h
      rw [List.mapM_cons] at h
      cases hx : f x <;> rw [hx] at h
      case error => cases h; exact ⟨[], x, xs, rfl, nofun, hx⟩
      case ok y =>
        cases hxs : xs.mapM f <;> rw [hxs] at h <;> cases h
        obtain ⟨before, x', after, rfl, hb, hx'⟩ := ih hxs
        exact ⟨x :: before, x', after, rfl, List.forall_mem_cons.mpr ⟨⟨y, hx⟩, hb⟩, hx'⟩
  case mpr =>
    rintro ⟨before, x, after, rfl, hb, hx⟩
    induction before
    case nil => rw [List.nil_append, List.mapM_cons, hx]; rfl
    case cons earlier before ih =>
      obtain ⟨⟨y, hy⟩, hb⟩ := List.forall_mem_cons.mp hb
      rw [List.cons_append, List.mapM_cons, hy]
      simp only [ih hb, bind, Except.bind]

theorem exists_forall₂_iff {r : α → β → Prop} : (∃ ys, List.Forall₂ r xs ys) ↔ ∀ x ∈ xs, ∃ y, r x y := by
  induction xs
  case nil => simp
  case cons x xs ih =>
    rw [List.forall_mem_cons, ← ih]
    constructor
    case mp =>
      rintro ⟨_, h⟩
      obtain ⟨y, ys, hy, hys, rfl⟩ := List.forall₂_cons_left_iff.mp h
      exact ⟨⟨y, hy⟩, ys, hys⟩
    case mpr =>
      rintro ⟨⟨y, hy⟩, ys, hys⟩
      exact ⟨y :: ys, .cons hy hys⟩

end Traversal

namespace Attribute

open Setting

-- Whether an attribute is a list of settings between certain delimiters, whatever it is meant for.
def ListsIn (d : Delimiter) (a : Attribute) (settings : List Setting) : Prop :=
  ∃ tokens, a.content = .list d tokens ∧ Listed settings tokens

def Lists (a : Attribute) (settings : List Setting) : Prop :=
  ∃ d, a.ListsIn d settings

-- What is wrong with an attribute that is meant for filters.
inductive Fault (a : Attribute) : AttributeError → Prop
  | bare (h : a.content = .bare) : Fault a .noArguments
  | value {tokens : List Token} (h : a.content = .value tokens) : Fault a .noParentheses
  | setting {d : Delimiter} {tokens : List Token} {e : AttributeError} (h : a.content = .list d tokens)
      (hf : FirstFault tokens e) : Fault a e

-- All settings in the attributes that are meant for filters, in the order in which they are written.
def Specify (attributes : List Attribute) (settings : List Setting) : Prop :=
  ∃ groups, List.Forall₂ Lists (attributes.filter (·.IsFilterable)) groups ∧ groups.flatten = settings

variable {a : Attribute} {settings : List Setting} {e : AttributeError}

theorem settings_eq_ok_iff : a.settings = .ok settings ↔ a.Lists settings := by
  unfold Attribute.settings Lists ListsIn
  cases a.content <;> simp [all_eq_ok_iff]

theorem settings_eq_error_iff : a.settings = .error e ↔ a.Fault e := by
  unfold Attribute.settings
  constructor
  case mp =>
    intro h
    cases hc : a.content <;> rw [hc] at h
    case bare => cases h; exact .bare hc
    case value => cases h; exact .value hc
    case list => exact .setting hc (all_eq_error_iff.mp h)
  case mpr =>
    intro h
    cases h
    case bare hc => rw [hc]
    case value hc => rw [hc]
    case setting hc hf => rw [hc]; exact all_eq_error_iff.mpr hf

end Attribute

namespace FieldOptions

open Setting Attribute

variable {attributes others : List Attribute} {settings : List Setting} {options : FieldOptions} {e : AttributeError}

theorem foldl_apply (settings : List Setting) (options : FieldOptions) :
    settings.foldl apply options =
      ⟨options.skip || decide (.skip ∈ settings), (settings.filterMap newName?).getLast?.or options.rename⟩ := by
  induction settings using List.reverseRecOn
  case nil => simp
  case append_singleton settings s ih => cases s <;> simp [ih, apply, newName?, List.getLast?_append]

theorem ofSettings_eq (settings : List Setting) :
    ofSettings settings = ⟨decide (.skip ∈ settings), (settings.filterMap newName?).getLast?⟩ := by
  simp [ofSettings, foldl_apply, default]

theorem ofAttributes_eq (attributes : List Attribute) : ofAttributes attributes =
    ((attributes.filter (·.IsFilterable)).mapM Attribute.settings).map fun groups => ofSettings groups.flatten := by
  unfold ofAttributes
  cases (attributes.filter (·.IsFilterable)).mapM Attribute.settings <;> rfl

theorem ofAttributes_eq_ok_iff :
    ofAttributes attributes = .ok options ↔ ∃ settings, Specify attributes settings ∧ options = ofSettings settings := by
  have hm (groups : List (List Setting)) : (attributes.filter (·.IsFilterable)).mapM Attribute.settings = .ok groups ↔
      List.Forall₂ Lists (attributes.filter (·.IsFilterable)) groups := by
    simp only [mapM_eq_ok_iff, settings_eq_ok_iff]
  rw [ofAttributes_eq]
  constructor
  case mp =>
    intro h
    cases hg : (attributes.filter (·.IsFilterable)).mapM Attribute.settings <;> rw [hg] at h <;> cases h
    exact ⟨_, ⟨_, (hm _).mp hg, rfl⟩, rfl⟩
  case mpr =>
    rintro ⟨_, ⟨groups, hg, rfl⟩, rfl⟩
    rw [(hm groups).mpr hg]
    rfl

theorem ofAttributes_of_specify (h : Specify attributes settings) : ofAttributes attributes = .ok (ofSettings settings) :=
  ofAttributes_eq_ok_iff.mpr ⟨settings, h, rfl⟩

theorem exists_specify_iff :
    (∃ settings, Specify attributes settings) ↔ ∀ a ∈ attributes, a.IsFilterable → ∃ settings, a.Lists settings := by
  have hs : (∃ settings, Specify attributes settings) ↔
      ∃ groups, List.Forall₂ Lists (attributes.filter (·.IsFilterable)) groups :=
    ⟨fun ⟨_, groups, h, _⟩ => ⟨groups, h⟩, fun ⟨groups, h⟩ => ⟨_, groups, h, rfl⟩⟩
  simp [hs, exists_forall₂_iff]

-- Attributes that are not meant for filters may stand anywhere between the others.
theorem ofAttributes_eq_error_iff : ofAttributes attributes = .error e ↔
    ∃ before a after, attributes = before ++ a :: after ∧ a.IsFilterable ∧ a.Fault e ∧
      ∀ earlier ∈ before, earlier.IsFilterable → ∃ settings, earlier.Lists settings := by
  have he : ofAttributes attributes = .error e ↔
      (attributes.filter (·.IsFilterable)).mapM Attribute.settings = .error e := by
    rw [ofAttributes_eq]
    cases (attributes.filter (·.IsFilterable)).mapM Attribute.settings <;> simp [Except.map]
  simp only [he, mapM_eq_error_iff, settings_eq_ok_iff, settings_eq_error_iff]
  constructor
  case mp =>
    rintro ⟨before, a, after, hf, hb, ha⟩
    obtain ⟨left, right, rfl, rfl, hr⟩ := List.filter_eq_append_iff.mp hf
    obtain ⟨passed, rest, rfl, hp, hi, -⟩ := List.filter_eq_cons_iff.mp hr
    refine ⟨left ++ passed, a, rest, by simp, of_decide_eq_true hi, ha, fun earlier hm hi => ?_⟩
    obtain hm | hm := List.mem_append.mp hm
    case inl => exact hb earlier (List.mem_filter.mpr ⟨hm, decide_eq_true hi⟩)
    case inr => exact absurd (decide_eq_true hi) (hp earlier hm)
  case mpr =>
    rintro ⟨before, a, after, rfl, hi, ha, hb⟩
    refine ⟨before.filter (·.IsFilterable), a, after.filter (·.IsFilterable), by simp [hi], fun earlier hm => ?_, ha⟩
    obtain ⟨hm, hi⟩ := List.mem_filter.mp hm
    exact hb earlier hm (of_decide_eq_true hi)

theorem ofAttributes_congr {settings' : List Setting} (h : Specify attributes settings) (h' : Specify others settings')
    (hn : settings'.filterMap newName? = settings.filterMap newName?) (hs : .skip ∈ settings' ↔ .skip ∈ settings) :
    ofAttributes others = ofAttributes attributes := by
  rw [ofAttributes_of_specify h, ofAttributes_of_specify h', ofSettings_eq, ofSettings_eq, hn]
  simp only [hs]

-- The settings alone matter, whatever encloses them, and of these the names in their order, and whether there is one to
-- skip the field.
theorem settled_or_first_fault (attributes : List Attribute) :
    ((∃ options, ofAttributes attributes = .ok options) ↔
      ∀ a ∈ attributes, a.IsFilterable → ∃ settings, a.Lists settings) ∧
    (∀ options, ofAttributes attributes = .ok options ↔ ∃ settings, Specify attributes settings ∧
      options = ⟨decide (.skip ∈ settings), (settings.filterMap newName?).getLast?⟩) ∧
    (∀ e, ofAttributes attributes = .error e ↔
      ∃ before a after, attributes = before ++ a :: after ∧ a.IsFilterable ∧ a.Fault e ∧
        ∀ earlier ∈ before, earlier.IsFilterable → ∃ settings, earlier.Lists settings) ∧
    (∀ others, others.filter (·.IsFilterable) = attributes.filter (·.IsFilterable) →
      ofAttributes others = ofAttributes attributes) ∧
    (∀ others settings settings', Specify attributes settings → Specify others settings' →
      settings'.filterMap newName? = settings.filterMap newName? → (.skip ∈ settings' ↔ .skip ∈ settings) →
      ofAttributes others = ofAttributes attributes) ∧
    (∀ others before between after, Specify attributes (before ++ .skip :: between ++ after) →
      Specify others (before ++ between ++ .skip :: after) → ofAttributes others = ofAttributes attributes) ∧
    (∀ others before after, Specify attributes (before ++ after) → .skip ∈ before ++ after →
      Specify others (before ++ .skip :: after) → ofAttributes others = ofAttributes attributes) := by
  refine ⟨?accepted, fun options => ?options, fun e => ofAttributes_eq_error_iff, fun others h => ?foreign,
    fun others settings settings' h h' hn hs => ofAttributes_congr h h' hn hs,
    fun others before between after h h' => ?moved, fun others before after h hs h' => ?repeated⟩
  case accepted => simp [← exists_specify_iff, ofAttributes_eq_ok_iff]
  case options => simp only [ofAttributes_eq_ok_iff, ofSettings_eq]
  case foreign => rw [ofAttributes_eq, ofAttributes_eq, h]
  case moved => exact ofAttributes_congr h h' (by simp [newName?, List.filterMap_cons]) (by simp)
  case repeated => exact ofAttributes_congr h h' (by simp [newName?, List.filterMap_cons]) (by simpa using hs)

-- Settings do not have to stand in parentheses.
theorem settled_in_brackets :
    let a : Attribute := ⟨[.word "filterable"], .list .brackets [.word "skip"]⟩
    Attribute.ofTokens? [.word "filterable", .group .brackets [.word "skip"]] = some a ∧
    ofAttributes [a] = .ok ⟨true, none⟩ ∧
    ¬ ((∃ options, ofAttributes [a] = .ok options) ↔
      ∀ b ∈ [a], b.IsFilterable → ∃ settings, b.ListsIn .parentheses settings) := by
  intro a
  have ho : ofAttributes [a] = .ok ⟨true, none⟩ := by decide +kernel
  refine ⟨rfl, ho, fun h => ?_⟩
  obtain ⟨settings, tokens, ht, -⟩ := h.mp ⟨_, ho⟩ a List.mem_cons_self rfl
  cases ht

end FieldOptions

end RecordFilter
