import PatchSurvey.Proofs.Analysis.Undisturbed
import PatchSurvey.Proofs.Path.Aliases
import PatchSurvey.Proofs.Settings.Aliases
import PatchSurvey.Service

/-! # Analyses under aliases

Aliases decide under which key the tables are looked up. Two analyses of one patch
under different aliases differ in their matches only. -/

namespace PatchSurvey.Analysis

open Hunk

/-- Two analyses that may differ in their matches only. -/
structure SameButMatches (first second : Analysis) : Prop where
  added : first.added = second.added
  deleted : first.deleted = second.deleted
  filename : first.filename = second.filename
  language : first.language = second.language
  isTestFile : first.isTestFile = second.isTestFile

/-- The matches are those among the added lines for the one key of the tag. -/
def MatchedUnder (custom : Path.Aliases) (analysis : Analysis) : Prop :=
  ∃ key, (∀ other, Path.KeyOf custom analysis.language other ↔ other = key) ∧
    ∀ check : Check, analysis.found check = (check.find key analysis.added).value

theorem sameButMatches_ofChanges (aliases others : Path.Aliases) (path : Option Text)
    (added deleted : List ChangedLine) :
    SameButMatches (ofChanges aliases path added deleted).value
      (ofChanges others path added deleted).value :=
  ⟨rfl, rfl, rfl, rfl, rfl⟩

theorem matchedUnder_ofChanges (custom : Path.Aliases) (path : Option Text)
    (added deleted : List ChangedLine) :
    MatchedUnder custom (ofChanges (Path.effectiveAliases custom) path added deleted).value :=
  ⟨_, fun _ => Path.keyOf_iff_eq_resolve, found_ofChanges _ path added deleted⟩

/-- Whatever the aliases are, a patch that has an analysis has one that differs in its matches only.
The matches are those for the key of its tag, for custom aliases as they are given and as a service
takes them from its environment. -/
theorem sameButMatches_and_matchedUnder_of_ofPatch {aliases : Path.Aliases} {patch : Text}
    {hint : Option Text} {logged : Logged Analysis}
    (analyzed : ofPatch aliases (.text patch) hint = .ok logged) :
    (∀ others, ∃ second, ofPatch others (.text patch) hint = .ok second ∧
        SameButMatches logged.value second.value) ∧
      (∀ custom, aliases = Path.effectiveAliases custom → MatchedUnder custom logged.value) ∧
      ∀ limit environment settings render time log,
        Settings.ofEnvironment limit environment = .ok settings →
        aliases = (Service.start render time settings log).1.aliases →
          ∃ custom,
            (∀ pairs,
              Settings.Gives limit (Settings.lookUp? environment "DIFF_LANGUAGE_ALIASES") pairs ↔
                pairs = custom) ∧
            MatchedUnder custom logged.value := by
  obtain ⟨text, added, deleted, same, h₁, h₂, rfl⟩ := eq_ofChanges_of_ofPatch aliases hint analyzed
  obtain rfl := PatchInput.text.inj same
  refine ⟨?_, ?_, ?_⟩
  · intro others
    exact ⟨_, ofPatch_of_changes others hint h₁ h₂, sameButMatches_ofChanges aliases others _ _ _⟩
  · rintro custom rfl
    exact matchedUnder_ofChanges custom _ added deleted
  · rintro limit environment settings render time log loaded rfl
    exact ⟨settings.aliases, Settings.gives_iff_of_ofEnvironment loaded,
      matchedUnder_ofChanges settings.aliases _ added deleted⟩

/-- An environment whose aliases name a tag in three ways and put another over a tag with tables. -/
def customEnvironment : List (Text × Text) :=
  [("Diff_Language_Aliases".toList,
    ("\x7b\"ES6\": \"py\", \"es6\": \"go\", \"js\": \"ruby\", \"Es6\": \"JS\"\x7d").toList)]

/-- The settings of this environment, with its aliases in their order. -/
def customSettings : Settings where
  logLevel := .info
  logFormat := []
  appEnv := "local".toList
  aliases := [("ES6".toList, "py".toList), ("es6".toList, "go".toList),
    ("js".toList, "ruby".toList), ("Es6".toList, "JS".toList)]

/-- A file of a tag without tables, with a new function. -/
def customPatch : Text :=
  "+++ b/app.es6\n@@ -1,0 +1,1 @@\n+function go() \x7b".toList

/-- A service of this environment finds the function under the last of the aliases, and the built-in
aliases change nothing but the matches. -/
theorem matchedUnder_customSettings :
    Settings.ofEnvironment 1 customEnvironment = .ok customSettings ∧
      ∃ logged second,
        ofPatch (Service.start Renderer.render [] customSettings .initial).1.aliases
          (.text customPatch) none = .ok logged ∧
        MatchedUnder customSettings.aliases logged.value ∧
        ofPatch Path.builtInAliases (.text customPatch) none = .ok second ∧
        SameButMatches logged.value second.value := by
  have loaded : Settings.ofEnvironment 1 customEnvironment = .ok customSettings := by decide +kernel
  have added : changes .added customPatch = .ok [⟨1, "function go() \x7b".toList⟩] := by
    decide +kernel
  have deleted : changes .removed customPatch = .ok [] := by decide +kernel
  have analyzed := ofPatch_of_changes
    (Service.start Renderer.render [] customSettings .initial).1.aliases none added deleted
  obtain ⟨others, -, served⟩ := sameButMatches_and_matchedUnder_of_ofPatch analyzed
  obtain ⟨custom, gives, matched⟩ :=
    served 1 customEnvironment _ Renderer.render [] .initial loaded rfl
  obtain rfl : customSettings.aliases = custom :=
    (gives _).1 ((Settings.gives_iff_of_ofEnvironment loaded _).2 rfl)
  obtain ⟨second, analyzedToo, same⟩ := others Path.builtInAliases
  exact ⟨loaded, _, second, analyzed, matched, analyzedToo, same⟩

end PatchSurvey.Analysis
