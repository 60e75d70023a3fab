import LineTally.Settings.Basic
import Mathlib.Data.List.Induction
import Mathlib.Tactic.SplitIfs

namespace LineTally

/-!
# Layers of settings

Settings are told by the value of each.  Values laid over them change a setting exactly if
one of them is for it and not absent, and then the last such value counts.  So two layers
are one: the lower layer without what the upper one sets, and the upper one.
-/

/-- A value that is not absent. -/
def Value.given?
    (value : Value) :
    Option Value :=
  if value.isAbsent then none else some value

/-- A setting is found by its name. -/
@[simp]
theorem Setting.ofName?_name
    (setting : Setting) :
    Setting.ofName? setting.name = some setting := by
  cases setting <;> decide

/-- A name with a setting is the name of that setting. -/
theorem Setting.name_of_ofName?
    {name : Text}
    {setting : Setting}
    (found : Setting.ofName? name = some setting) :
    setting.name = name := by
  simpa using List.find?_some found

namespace Settings

/-- What is read after a setting has been set. -/
@[simp]
theorem get_set
    (settings : Settings)
    (setting other : Setting)
    (value : Value) :
    (settings.set setting value).get other =
      if setting = other then value else settings.get other := by
  cases setting <;> cases other <;> rfl

/-- Settings of which every single one has the same value are the same. -/
theorem eq_of_get_eq
    {first second : Settings}
    (same : ∀ setting, first.get setting = second.get setting) :
    first = second := by
  have fileTypes := same .fileTypes
  have ignoreFiles := same .ignoreFiles
  have saveDir := same .saveDir
  have outputName := same .outputName
  have encoding := same .encoding
  have excludeDirs := same .excludeDirs
  have writeJson := same .writeJson
  cases first
  cases second
  simp only [get] at fileTypes ignoreFiles saveDir outputName encoding excludeDirs writeJson
  subst fileTypes ignoreFiles saveDir outputName encoding excludeDirs writeJson
  rfl

namespace Overrides

/-- The values in some overrides that are not absent, for one setting. -/
def valuesFor
    (overrides : Overrides)
    (setting : Setting) :
    List Value :=
  (overrides.filter fun override =>
    override.1 = setting && !override.2.isAbsent).map Prod.snd

/-- The value that some overrides give to a setting, if they give it one. -/
def value?
    (overrides : Overrides)
    (setting : Setting) :
    Option Value :=
  (overrides.valuesFor setting).getLast?

/-- Overrides laid over others: the others count only where they give no value. -/
def overlay
    (first second : Overrides) :
    Overrides :=
  (first.filter fun override => (second.value? override.1).isNone)
    ++ second.filter fun override => !override.2.isAbsent

variable
  {first second : Overrides}
  {setting : Setting}

/-- The values for a setting in some overrides and in those after them. -/
theorem valuesFor_append :
    valuesFor (first ++ second) setting =
      first.valuesFor setting ++ second.valuesFor setting := by
  simp [valuesFor]

/-- No overrides give no value. -/
@[simp]
theorem value?_nil :
    value? [] setting = none :=
  rfl

/-- Of some overrides and those after them the last that gives a value counts. -/
theorem value?_append :
    value? (first ++ second) setting =
      (second.value? setting).or (first.value? setting) := by
  rw [value?, valuesFor_append, List.getLast?_append]
  rfl

/-- A first override counts if it gives a value and none after it does. -/
theorem value?_cons
    {other : Setting}
    {value : Value} :
    value? ((other, value) :: second) setting =
      (second.value? setting).or (if other = setting then value.given? else none) := by
  have atFirst : value? [(other, value)] setting =
      if other = setting then value.given? else none := by
    by_cases same : other = setting
    · cases absent : value.isAbsent <;> simp [value?, valuesFor, Value.given?, same, absent]
    · simp [value?, valuesFor, same]
  rw [← atFirst]
  exact @value?_append [(other, value)] second setting

/-- In overrides laid over others the upper value counts, and the lower one if there is none. -/
theorem value?_overlay :
    (first.overlay second).value? setting =
      (second.value? setting).or (first.value? setting) := by
  have upper : valuesFor (second.filter fun override => !override.2.isAbsent) setting =
      second.valuesFor setting := by
    rw [valuesFor, List.filter_filter]
    congr 2
    funext override
    cases override.2.isAbsent <;> simp
  -- Of the lower layer only what the upper one leaves open is kept.
  have lower : valuesFor (first.filter fun override => (second.value? override.1).isNone) setting =
      if (second.value? setting).isNone then first.valuesFor setting else [] := by
    rw [valuesFor, List.filter_filter]
    split_ifs with given
    · rw [valuesFor]
      congr 1
      apply List.filter_congr
      rintro ⟨other, value⟩ _
      by_cases same : other = setting
      · simp [same, given]
      · simp [same]
    · rw [List.map_eq_nil_iff, List.filter_eq_nil_iff]
      rintro ⟨other, value⟩ _
      by_cases same : other = setting
      · simp [same, given]
      · simp [same]
  rw [value?, overlay, valuesFor_append, upper, lower, List.getLast?_append, value?]
  cases isGiven : (second.valuesFor setting).getLast? with
  | some value =>
      rfl
  | none =>
      simp [value?]

end Overrides

/-- A setting after values have been laid over the settings. -/
theorem get_merge
    (settings : Settings)
    (overrides : Overrides)
    (setting : Setting) :
    (settings.merge overrides).get setting =
      (overrides.value? setting).getD (settings.get setting) := by
  -- From the end, since of several values for a setting the last one counts.
  induction overrides using List.reverseRecOn with
  | nil =>
      rfl
  | append_singleton overrides last inductionHypothesis =>
      obtain ⟨other, value⟩ := last
      have added : (settings.merge (overrides ++ [(other, value)])) =
          if value.isAbsent then
            settings.merge overrides
          else
            (settings.merge overrides).set other value := by
        simp [merge]
      rw [added, Overrides.value?_append, Overrides.value?_cons]
      cases absent : value.isAbsent with
      | true =>
          simp [Value.given?, absent, inductionHypothesis]
      | false =>
          by_cases same : other = setting
          · simp [Value.given?, absent, same]
          · simp [same, inductionHypothesis]

/-- Two layers over settings are one. -/
theorem merge_merge
    (settings : Settings)
    (first second : Overrides) :
    (settings.merge first).merge second = settings.merge (first.overlay second) := by
  apply eq_of_get_eq
  intro setting
  rw [get_merge, get_merge, get_merge, Overrides.value?_overlay, Option.getD_or]

/-- A layer of absent values changes nothing. -/
theorem merge_absent
    (settings : Settings)
    {overrides : Overrides}
    (absent : ∀ override ∈ overrides, override.2.isAbsent = true) :
    settings.merge overrides = settings := by
  apply eq_of_get_eq
  intro setting
  have noValue : overrides.valuesFor setting = [] := by
    rw [Overrides.valuesFor, List.map_eq_nil_iff, List.filter_eq_nil_iff]
    intro override member
    simp [absent override member]
  rw [get_merge, Overrides.value?, noValue]
  rfl

/-- Overrides by the names of the settings that they are for. -/
def Overrides.named
    (overrides : Overrides) :
    List (Text × Value) :=
  overrides.map fun override => (override.1.name, override.2)

/-- Values that are laid over settings by the names of settings are laid over them as such. -/
theorem mergeNamed_named
    (settings : Settings)
    (overrides : Overrides) :
    settings.mergeNamed overrides.named = .ok (settings.merge overrides) := by
  induction overrides generalizing settings with
  | nil =>
      rfl
  | cons first rest inductionHypothesis =>
      obtain ⟨setting, value⟩ := first
      rw [Overrides.named, List.map_cons, mergeNamed, ← Overrides.named]
      cases absent : value.isAbsent with
      | true =>
          simp [inductionHypothesis, merge, absent]
      | false =>
          simp [inductionHypothesis, merge, absent]

end Settings

end LineTally
