import RecordFilter.Proofs.Text.LowerCase
import RecordFilter.Proofs.Value.Cast

namespace RecordFilter
namespace Word

def words : Bool → List String
  | true  => ["true", "1", "yes", "on"]
  | false => ["false", "0", "no", "off"]

-- Whether a text is a word for the truth value, in any case of its ASCII letters and with blanks around it.
def Spells (s : String) (b : Bool) : Prop :=
  ∃ word ∈ words b, ∃ cs, Padded cs s.toList ∧ cs.map Char.toLower = word.toList

variable {cs ds : List Char} {b : Bool} {word : String}

theorem all_of_mem_words : ∀ b, ∀ word ∈ words b, word.toList.all fun c => c.toNat < 128 ∧ c ≠ 'k' ∧ ¬ isBlank c := by
  decide +kernel

theorem plain_of_mem_words (h : word ∈ words b) : ∀ c ∈ word.toList, c.toNat < 128 ∧ c ≠ 'k' ∧ ¬ isBlank c :=
  fun c hc => of_decide_eq_true (List.all_eq_true.mp (all_of_mem_words b word h) c hc)

theorem not_mem_words_false : ∀ word ∈ words true, word ∉ words false := by
  decide

theorem lowerCase_eq_iff_of_mem_words (h : word ∈ words b) :
    lowerCase cs = word.toList ↔ cs.map Char.toLower = word.toList :=
  lowerCase_eq_iff fun c hc =>
    have ⟨ha, hk, _⟩ := plain_of_mem_words h c hc
    ⟨ha, hk⟩

-- The words for the two values are looked up one after the other, but have no word in common.
theorem boolWord?_eq_some_iff_mem : Value.boolWord? cs = some b ↔ String.ofList (lowerCase cs) ∈ words b := by
  have hl : Value.boolWord? cs =
      if String.ofList (lowerCase cs) ∈ words true then some true
      else if String.ofList (lowerCase cs) ∈ words false then some false else none := rfl
  rw [hl]
  split
  case isTrue h =>
    have hf := not_mem_words_false _ h
    cases b <;> simp [h, hf]
  case isFalse h => cases b <;> simp [h]

theorem boolWord?_eq_some_iff : Value.boolWord? cs = some b ↔ ∃ word ∈ words b, cs.map Char.toLower = word.toList := by
  rw [boolWord?_eq_some_iff_mem]
  constructor
  case mp =>
    intro h
    refine ⟨_, h, (lowerCase_eq_iff_of_mem_words h).mp ?_⟩
    rw [String.toList_ofList]
  case mpr =>
    rintro ⟨word, h, hc⟩
    rwa [(lowerCase_eq_iff_of_mem_words h).mpr hc, String.ofList_toList]

theorem trim_map_toLower_eq_iff (h : word ∈ words b) :
    (trim ds).map Char.toLower = word.toList ↔ ∃ cs, Padded cs ds ∧ cs.map Char.toLower = word.toList := by
  constructor
  case mp => exact fun he => ⟨_, padded_trim ds, he⟩
  case mpr =>
    rintro ⟨cs, hp, hc⟩
    have hb : ∀ c ∈ cs, ¬ isBlank c := by
      intro c hm
      rw [← isBlank_toLower]
      exact (plain_of_mem_words h _ (hc ▸ List.mem_map_of_mem hm)).right.right
    rwa [(trim_eq_iff_padded hb).mpr hp]

theorem boolWord?_trim_eq_some_iff {s : String} : Value.boolWord? (trim s.toList) = some b ↔ Spells s b := by
  rw [boolWord?_eq_some_iff]
  exact exists_congr fun word => and_congr_right trim_map_toLower_eq_iff

theorem boolWord?_congr (h : cs.map Char.toLower = ds.map Char.toLower) : Value.boolWord? cs = Value.boolWord? ds := by
  ext b
  rw [boolWord?_eq_some_iff, boolWord?_eq_some_iff, h]

end Word

namespace Value

variable {s t : String} {v : Value} {e : CastError}

theorem castTo_bool_eq_ok_iff : (text s).castTo .bool = .ok v ↔ ∃ b, v = bool b ∧ Word.Spells s b := by
  simp only [← Word.boolWord?_trim_eq_some_iff, castTo, ofText]
  cases boolWord? (trim s.toList)
  case none   => simp
  case some b => simp [eq_comm]

theorem castTo_bool_eq_error_iff :
    (text s).castTo .bool = .error e ↔ e = .invalidFormat s .bool ∧ ∀ b, ¬ Word.Spells s b := by
  rw [castTo_text_eq_error_iff]
  refine and_congr_right fun _ => ⟨fun h b hs => ?_, fun h v hv => ?_⟩
  · exact h _ (castTo_bool_eq_ok_iff.mpr ⟨b, rfl, hs⟩)
  · obtain ⟨b, -, hs⟩ := castTo_bool_eq_ok_iff.mp hv
    exact h b hs

theorem toOption_castTo_bool_of_padded (h : Padded s.toList t.toList) :
    ((text t).castTo .bool).toOption = ((text s).castTo .bool).toOption := by
  simp only [castTo, ofText, toOption_elim, trim_of_padded h]

theorem toOption_castTo_bool_of_case (h : t.toList.map Char.toLower = s.toList.map Char.toLower) :
    ((text t).castTo .bool).toOption = ((text s).castTo .bool).toOption := by
  have ht : (trim t.toList).map Char.toLower = (trim s.toList).map Char.toLower := by
    rw [← trim_map_toLower, ← trim_map_toLower, h]
  simp only [castTo, ofText, toOption_elim, Word.boolWord?_congr ht]

-- A text is cast to a truth value by its words alone. The letters beyond ASCII have no part in it.
theorem castTo_word (s : String) :
    (∀ v, (text s).castTo .bool = .ok v ↔ ∃ b, v = bool b ∧ Word.Spells s b) ∧
    (∀ e, (text s).castTo .bool = .error e ↔ e = .invalidFormat s .bool ∧ ∀ b, ¬ Word.Spells s b) ∧
    (∀ b, ∀ word ∈ Word.words b, ∀ cs, lowerCase cs = word.toList ↔ cs.map Char.toLower = word.toList) ∧
    (∀ t : String, Padded s.toList t.toList →
      ((text t).castTo .bool).toOption = ((text s).castTo .bool).toOption) ∧
    ∀ t : String, t.toList.map Char.toLower = s.toList.map Char.toLower →
      ((text t).castTo .bool).toOption = ((text s).castTo .bool).toOption :=
  ⟨fun _ => castTo_bool_eq_ok_iff, fun _ => castTo_bool_eq_error_iff,
    fun _ _ h _ => Word.lowerCase_eq_iff_of_mem_words h, fun _ => toOption_castTo_bool_of_padded,
    fun _ => toOption_castTo_bool_of_case⟩

end Value
end RecordFilter
