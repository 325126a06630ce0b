import PatchSurvey.Proofs.Report.Checked
import PatchSurvey.Settings

/-! # Aliases of settings

Loaded settings hold the aliases that the variable for them gives: none if it is
absent or blank, else the members of a JSON object in their order. -/

namespace PatchSurvey.Settings

variable {limit : Nat}

/-- The aliases that the text of a variable gives, if there is one, read up to the limit. -/
inductive Gives (limit : Nat) : Option Text → Path.Aliases → Prop
  | absent : Gives limit none []
  | blank (text : Text) (blank : text.all Text.isBlank = true) : Gives limit (some text) []
  | object (text : Text) (pairs : Path.Aliases) (visible : text.all Text.isBlank = false)
      (read : Json.read limit text =
        .ok (.object (pairs.map fun (tag, key) => (tag, .string key)))) :
      Gives limit (some text) pairs

theorem checkString_eq_valid_iff {value : Json} {text : Text} :
    value.checkString = .valid text ↔ value = .string text := by
  cases value <;> simp [Json.checkString, Checked.fail]

/-- Members are aliases if all their values are strings. -/
theorem checkPairs_eq_valid_iff {members : Dictionary Json} {pairs : Path.Aliases} :
    checkPairs members = .valid pairs ↔
      members = pairs.map fun (tag, key) => (tag, .string key) := by
  have entry (member : Text × Json) (pair : Text × Text) :
      (member.2.checkString.under (.key member.1)).map (member.1, ·) = .valid pair ↔
        member = (pair.1, .string pair.2) := by
    simp only [Checked.map_eq_valid_iff, Checked.under_eq_valid_iff, checkString_eq_valid_iff]
    constructor
    · rintro ⟨key, same, rfl⟩
      rw [← same]
    · rintro rfl
      exact ⟨pair.2, rfl, rfl⟩
  rw [checkPairs, Checked.all_eq_valid_iff]
  induction members generalizing pairs with
  | nil => cases pairs <;> simp
  | cons member members ih =>
      cases pairs with
      | nil => simp
      | cons pair pairs => simp only [List.map_cons, List.cons.injEq, entry, ih]

/-- The text of a variable is accepted exactly with the aliases that it gives. -/
theorem checkAliases_eq_valid_iff {text : Text} {pairs : Path.Aliases} :
    checkAliases limit (.string text) = .ok (.valid pairs) ↔ Gives limit (some text) pairs := by
  rw [checkAliases]
  cases blank : text.all Text.isBlank with
  | true =>
      constructor
      · intro valid
        obtain rfl := Checked.valid.inj (Except.ok.inj valid)
        exact .blank text blank
      · intro gives
        cases gives with
        | blank => rfl
        | object _ _ visible => rw [blank] at visible; cases visible
  | false =>
      constructor
      · intro valid
        cases outcome : Json.read limit text with
        | error error =>
            rw [outcome] at valid
            cases error <;> cases valid
        | ok value =>
            rw [outcome] at valid
            cases value with
            | object members =>
                have read := checkPairs_eq_valid_iff.1 (Except.ok.inj valid)
                exact .object text pairs blank (outcome.trans (by rw [read]))
            | _ => cases valid
      · intro gives
        cases gives with
        | blank _ whole => rw [blank] at whole; cases whole
        | object _ _ _ read =>
            rw [read]
            exact congrArg Except.ok (checkPairs_eq_valid_iff.2 rfl)

/-- An absent variable gives no aliases. -/
theorem checkAliasSetting_eq_valid_iff {text : Option Text} {pairs : Path.Aliases} :
    checkAliasSetting limit (text.map .string) = .ok (.valid pairs) ↔ Gives limit text pairs := by
  cases text with
  | none =>
      constructor
      · intro valid
        obtain rfl := Checked.valid.inj (Except.ok.inj valid)
        exact .absent
      · intro gives
        cases gives
        rfl
  | some text =>
      rw [← checkAliases_eq_valid_iff, Option.map_some, checkAliasSetting]
      cases checkAliases limit (.string text) with
      | error cause => exact iff_of_false (by rintro ⟨⟩) (by rintro ⟨⟩)
      | ok check => simp [Except.map, Checked.under_eq_valid_iff]

/-- Settings are checked once the aliases are read. -/
theorem load_eq (limit : Nat) (environment : List (Text × Text)) (given : Dictionary Json) :
    load limit environment given =
      (checkAliasSetting limit (source? environment given "DIFF_LANGUAGE_ALIASES")).map
        ((((checkSetting (source? environment given "LOG_LEVEL") "LOG_LEVEL" checkLevel .info).map
          Settings.mk).both
          (checkSetting (source? environment given "LOG_FORMAT") "LOG_FORMAT" Json.checkString
            [])).both
          (checkSetting (source? environment given "APP_ENV") "APP_ENV" Json.checkString
            "local".toList)).both := by
  rw [load]
  cases checkAliasSetting limit (source? environment given "DIFF_LANGUAGE_ALIASES") <;> rfl

/-- Settings are loaded if each of the four is accepted. -/
theorem load_eq_valid_iff {environment : List (Text × Text)} {given : Dictionary Json}
    {settings : Settings} :
    load limit environment given = .ok (.valid settings) ↔
      checkSetting (source? environment given "LOG_LEVEL") "LOG_LEVEL" checkLevel .info =
          .valid settings.logLevel ∧
        checkSetting (source? environment given "LOG_FORMAT") "LOG_FORMAT" Json.checkString [] =
          .valid settings.logFormat ∧
        checkSetting (source? environment given "APP_ENV") "APP_ENV" Json.checkString
          "local".toList = .valid settings.appEnv ∧
        checkAliasSetting limit (source? environment given "DIFF_LANGUAGE_ALIASES") =
          .ok (.valid settings.aliases) := by
  rw [load_eq]
  cases checkAliasSetting limit (source? environment given "DIFF_LANGUAGE_ALIASES") with
  | error cause => simp [Except.map]
  | ok aliases =>
      simp only [Except.map, Except.ok.injEq, Checked.both_eq_valid_iff, Checked.map_eq_valid_iff]
      constructor
      · rintro ⟨_, _, ⟨_, _, ⟨_, _, ⟨level, h₁, rfl⟩, h₂, rfl⟩, h₃, rfl⟩, h₄, rfl⟩
        exact ⟨h₁, h₂, h₃, h₄⟩
      · rintro ⟨h₁, h₂, h₃, h₄⟩
        exact ⟨_, _, ⟨_, _, ⟨_, _, ⟨_, h₁, rfl⟩, h₂, rfl⟩, h₃, rfl⟩, h₄, rfl⟩

theorem ofEnvironment_eq_ok_iff {environment : List (Text × Text)} {settings : Settings} :
    ofEnvironment limit environment = .ok settings ↔
      load limit environment [] = .ok (.valid settings) := by
  rw [ofEnvironment]
  rcases load limit environment [] with cause | settings | faults <;> simp

/-- Settings are loaded with the aliases that the variable for them gives, and no others. -/
theorem gives_iff_of_ofEnvironment {environment : List (Text × Text)} {settings : Settings}
    (loaded : ofEnvironment limit environment = .ok settings) (pairs : Path.Aliases) :
    Gives limit (lookUp? environment "DIFF_LANGUAGE_ALIASES") pairs ↔ pairs = settings.aliases := by
  obtain ⟨-, -, -, accepted⟩ := load_eq_valid_iff.1 (ofEnvironment_eq_ok_iff.1 loaded)
  rw [← checkAliasSetting_eq_valid_iff]
  constructor
  · intro valid
    exact Checked.valid.inj (Except.ok.inj (valid.symm.trans accepted))
  · rintro rfl
    exact accepted

end PatchSurvey.Settings
