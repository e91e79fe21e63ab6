import Faultline.Console
import Faultline.Proofs.Text.Trimming

/-!
# What decides about colours

`Detects` says what the environment and the stream decide about colours: a word for yes or no in the
one variable, else anything at all in the other, else whether the stream is a terminal. A word may be
in letters of either case and have blanks around it.

Results:
* `lowered_trim_mem_iff`: which values are a word once they are trimmed and in lower case.
* `settingOf?_eq_some_iff`: which values are words for yes and for no.
* `detects_iff`: the console detects what is decided.
-/

namespace Faultline.Console

/-! ## Words -/

/-- A value spells one of the words, in letters of either case and with blanks around it or not. -/
def SpellsWord (words : List Text) (value : Text) : Prop :=
  ∃ before core after, value = before ++ core ++ after ∧ (∀ c ∈ before, Text.isBlank c = true) ∧
    (∀ c ∈ after, Text.isBlank c = true) ∧ core.map CodePoint.asciiLower ∈ words

/-- A code point that is not a blank in lower case is none. -/
theorem not_isBlank_of_asciiLower {c : CodePoint} (h : Text.isBlank c.asciiLower = false) :
    Text.isBlank c = false := by
  by_cases hcapital : 0x41 ≤ c.val ∧ c.val ≤ 0x5A
  · exact Text.not_isBlank_of_ascii (by omega) (by omega)
  · rwa [CodePoint.asciiLower, dif_neg hcapital] at h

/-- A value is a word once it is trimmed and in lower case exactly if it spells the word, for words
    without blanks. -/
theorem lowered_trim_mem_iff {words : List Text}
    (hwords : ∀ w ∈ words, w ≠ [] ∧ ∀ c ∈ w, Text.isBlank c = false) {value : Text} :
    (Text.trim value).map CodePoint.asciiLower ∈ words ↔ SpellsWord words value := by
  constructor
  · intro hword
    obtain ⟨before, after, hvalue, hbefore, hafter⟩ := Text.exists_trim value
    exact ⟨before, Text.trim value, after, hvalue, hbefore, hafter, hword⟩
  · rintro ⟨before, core, after, rfl, hbefore, hafter, hword⟩
    obtain ⟨hne, hvisible⟩ := hwords _ hword
    have hcore : ∀ c ∈ core, Text.isBlank c = false := fun c hc =>
      not_isBlank_of_asciiLower (hvisible _ (List.mem_map_of_mem hc))
    rwa [Text.trim_eq hbefore hcore hafter (by rintro rfl; exact hne rfl)]

theorem visible_words : ∀ w ∈ yesWords ++ noWords, w ≠ [] ∧ ∀ c ∈ w, Text.isBlank c = false := by
  decide

/-- The words of a setting. -/
def wordsFor (setting : Bool) : List Text := if setting then yesWords else noWords

/-- A setting says yes or no exactly if it spells a word for it. -/
theorem settingOf?_eq_some_iff {value : Text} {setting : Bool} :
    settingOf? value = some setting ↔ SpellsWord (wordsFor setting) value := by
  have hvisible : ∀ w ∈ wordsFor setting, w ≠ [] ∧ ∀ c ∈ w, Text.isBlank c = false := by
    intro w hw
    refine visible_words w (List.mem_append.mpr ?_)
    cases setting with
    | true => exact .inl hw
    | false => exact .inr hw
  -- no word says both yes and no, so the order of the two questions does not matter
  have hapart : ∀ w ∈ noWords, w ∉ yesWords := by decide
  rw [← lowered_trim_mem_iff hvisible, settingOf?]
  simp only [List.contains_iff_mem]
  generalize (Text.trim value).map CodePoint.asciiLower = word
  by_cases hyes : word ∈ yesWords
  · rw [if_pos hyes]
    cases setting with
    | true => exact iff_of_true rfl hyes
    | false => exact iff_of_false nofun fun hno => hapart word hno hyes
  · rw [if_neg hyes]
    by_cases hno : word ∈ noWords
    · rw [if_pos hno]
      cases setting with
      | true => exact iff_of_false nofun hyes
      | false => exact iff_of_true rfl hno
    · rw [if_neg hno]
      cases setting with
      | true => exact iff_of_false nofun hyes
      | false => exact iff_of_false nofun hno

/-! ## Decisions -/

/-- What variables and a stream decide about colours. -/
inductive Detects (environment : Text → Option Text) (stream : Stream) : Bool → Prop where
  /-- The variable for colours holds a word for yes or no. -/
  | word {value : Text} {setting : Bool} (hvalue : environment colorVariable = some value)
    (hword : SpellsWord (wordsFor setting) value) : Detects environment stream setting
  /-- It holds none, and the variable against colours is not empty. -/
  | against {value : Text}
    (hnone : ∀ v, environment colorVariable = some v → ∀ b, ¬ SpellsWord (wordsFor b) v)
    (hvalue : environment noColorVariable = some value) (hne : value ≠ []) :
    Detects environment stream false
  /-- Neither variable decides, but the stream. -/
  | stream (hnone : ∀ v, environment colorVariable = some v → ∀ b, ¬ SpellsWord (wordsFor b) v)
    (hempty : ∀ v, environment noColorVariable = some v → v = []) :
    Detects environment stream (decide (stream = .terminal))

/-- What the variable for colours says, if it holds a word. -/
theorem setting_eq_none_iff {c : Console} :
    (c.environment colorVariable).bind settingOf? = none ↔
      ∀ v, c.environment colorVariable = some v → ∀ b, ¬ SpellsWord (wordsFor b) v := by
  rw [Option.bind_eq_none_iff]
  refine forall₂_congr fun v _ => ?_
  rw [Option.eq_none_iff_forall_ne_some]
  exact forall_congr' fun b => not_congr settingOf?_eq_some_iff

/-- The console detects what is decided, and something always is. -/
theorem detects_iff {c : Console} {b : Bool} :
    Detects c.environment c.stream b ↔ c.detect = b := by
  constructor
  · intro h
    unfold detect
    cases h with
    | word hvalue hword =>
      have hsetting := settingOf?_eq_some_iff.mpr hword
      rw [hvalue, Option.bind_some, hsetting]
    | @against value hnone hvalue hne =>
      obtain ⟨x, rest, rfl⟩ := List.exists_cons_of_ne_nil hne
      rw [setting_eq_none_iff.mpr hnone, hvalue]
    | stream hnone hempty =>
      rw [setting_eq_none_iff.mpr hnone]
      cases hvalue : c.environment noColorVariable with
      | none => rfl
      | some v =>
        obtain rfl := hempty v hvalue
        rfl
  · rintro rfl
    unfold detect
    cases hsetting : (c.environment colorVariable).bind settingOf? with
    | some setting =>
      obtain ⟨v, hvalue, hv⟩ := Option.bind_eq_some_iff.mp hsetting
      exact .word hvalue (settingOf?_eq_some_iff.mp hv)
    | none =>
      have hnone := setting_eq_none_iff.mp hsetting
      cases hvalue : c.environment noColorVariable with
      | none => exact .stream hnone fun v hv => absurd (hvalue.symm.trans hv) nofun
      | some value =>
        cases value with
        | nil => exact .stream hnone fun v hv => (Option.some.inj (hvalue.symm.trans hv)).symm
        | cons x rest => exact .against hnone hvalue (List.cons_ne_nil x rest)

example : SpellsWord (wordsFor false) (text " OFF\n") :=
  settingOf?_eq_some_iff.mp (by decide +kernel)

end Faultline.Console
