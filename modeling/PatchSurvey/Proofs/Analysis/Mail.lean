import PatchSurvey.Proofs.Analysis.Isolation
import PatchSurvey.Proofs.Diff.Signature

/-! # Change sets in a mail

A mail puts lines before a change set and a signature behind it. The lines before it
are dropped. Of the signature one deleted line comes to the last file, and nothing else. -/

namespace PatchSurvey

open Hunk

/-- The analysis with one more deleted line. -/
def Analysis.withDeleted (line : ChangedLine) (analysis : Analysis) : Analysis :=
  { analysis with deleted := analysis.deleted ++ [line] }

namespace BatchReport

open Diff

/-- A file behind others is numbered after them. -/
theorem zipWith_fileOfSection_concat (patches : List Text) (patch : Text) :
    List.zipWith fileOfSection (patches ++ [patch]) (List.range' 1 (patches ++ [patch]).length) =
      List.zipWith fileOfSection patches (List.range' 1 patches.length) ++
        [fileOfSection patch (patches.length + 1)] := by
  rw [List.length_append, List.length_singleton, List.range'_concat, List.zipWith_append]
  · simp [Nat.add_comm]
  · simp

/-- A change set that ends with the section. -/
def sent (earlier : List Line) (last : LastSection) : Text :=
  Text.unlines (earlier.map Line.text) ++ last.text

/-- A change set in a mail, with lines before it and a signature behind it. -/
def mail (preamble earlier : List Line) (last : LastSection) (version : Line) : Text :=
  Text.unlines (preamble.map Line.text) ++ sent earlier last ++ Text.unlines (signature version)

/-- The files before the last section. -/
def earlierFiles (earlier : List Line) : List FilePatch :=
  let patches := ChangeSet.sections (Text.unlines (earlier.map Line.text))
  List.zipWith fileOfSection patches (List.range' 1 patches.length)

/-- The place of the last file. -/
def lastPlace (earlier : List Line) : Nat :=
  (ChangeSet.sections (Text.unlines (earlier.map Line.text))).length + 1

theorem filesOfDiff_sent (earlier : List Line) (last : LastSection) :
    filesOfDiff (sent earlier last) =
      earlierFiles earlier ++ [fileOfSection last.text (lastPlace earlier)] := by
  simp only [filesOfDiff, sent, LastSection.text,
    ChangeSet.filePatches_unlines_append newline_not_mem_of_mem_map_text last.isSection_rows,
    zipWith_fileOfSection_concat]
  rfl

theorem filesOfDiff_mail {preamble earlier : List Line} {last : LastSection} {version : Line}
    (noBoundary : ∀ line ∈ preamble, isBoundary line.text = false)
    (isVersion : version.IsVersion) :
    filesOfDiff (mail preamble earlier last version) =
      earlierFiles earlier ++ [fileOfSection (last.signed version) (lastPlace earlier)] := by
  have whole : mail preamble earlier last version =
      Text.unlines ((preamble ++ earlier).map Line.text) ++
        Text.unlines (last.rows ++ signature version) := by
    simp [mail, sent, LastSection.text, Text.unlines]
  have inner : ∀ row ∈ preamble.map Line.text, isBoundary row = false :=
    List.forall_mem_map.2 noBoundary
  have dropped : ChangeSet.sections (Text.unlines ((preamble ++ earlier).map Line.text)) =
      ChangeSet.sections (Text.unlines (earlier.map Line.text)) := by
    rw [List.map_append, Text.unlines, List.flatMap_append]
    exact ChangeSet.sections_unlines_append newline_not_mem_of_mem_map_text inner _
  simp only [filesOfDiff, whole, ChangeSet.filePatches_unlines_append
    newline_not_mem_of_mem_map_text (last.isSection_signed isVersion), dropped,
    zipWith_fileOfSection_concat]
  rfl

/-- A file with a number that is too long is not analyzed. -/
theorem analysis?_of_overlong? (aliases : Path.Aliases) (place : Nat) {patch digits : Text}
    (long : overlong? patch = some digits) :
    (fileOfSection patch place).analysis? aliases = none := by
  rw [← FilePatch.isSome_skipped?_iff, FilePatch.skipped?, fileOfSection, PatchInput.refusal?, long]
  rfl

section

variable (aliases : Path.Aliases) (last : LastSection) {version : Line}
  (isVersion : version.IsVersion) (place : Nat)
include isVersion

/-- The last file is skipped with or without a signature, and for the same reason. -/
theorem skipped?_signed :
    (fileOfSection (last.signed version) place).skipped? =
      (fileOfSection last.text place).skipped? := by
  simp only [FilePatch.skipped?, fileOfSection, last.boundaryPath?_signed, PatchInput.refusal?,
    last.overlong?_signed isVersion]

/-- If the last file is readable, the signature adds one deleted line to its analysis. -/
theorem exists_analysis?_signed (readable : Readable last.text) :
    ∃ analysis, (fileOfSection last.text place).analysis? aliases = some analysis ∧
      (fileOfSection (last.signed version) place).analysis? aliases =
        some (analysis.withDeleted ⟨last.next, "- ".toList⟩) := by
  obtain ⟨added, h₁, h₂⟩ := last.exists_changes_signed readable isVersion .added
  obtain ⟨deleted, h₃, h₄⟩ := last.exists_changes_signed readable isVersion .removed
  have unsigned : added ++ ((Cursor.inside last.next 0 0).record? .added
      (.removed "- ".toList)).toList = added := List.append_nil added
  have path (hint : Option Text) : Analysis.pathOf (last.signed version) hint =
      Analysis.pathOf last.text hint := by
    simp only [Analysis.pathOf, last.target?_signed isVersion]
  rw [unsigned] at h₂
  simp only [FilePatch.analysis?, fileOfSection, last.boundaryPath?_signed,
    Analysis.ofPatch_of_changes aliases _ h₁ h₃, Analysis.ofPatch_of_changes aliases _ h₂ h₄, path]
  exact ⟨_, rfl, rfl⟩

end

/-- Of a mail, the lines before the change set change nothing. Its signature adds one deleted line
to the last analysis, if the last section has one. Its number is the new start of the last hunk and,
on top of it, the number of kept and inserted lines in the hunk. All else is as for the change set
alone. -/
theorem ofDiff_mail (aliases : Path.Aliases) {preamble : List Line} (earlier : List Line)
    (last : LastSection) {version : Line}
    (noBoundary : ∀ line ∈ preamble, isBoundary line.text = false)
    (isVersion : version.IsVersion) :
    (ofDiff aliases (mail preamble earlier last version)).value.skipped =
        (ofDiff aliases (sent earlier last)).value.skipped ∧
      (Readable last.text → ∃ before analysis,
        (ofDiff aliases (sent earlier last)).value.results = before ++ [analysis] ∧
        (ofDiff aliases (mail preamble earlier last version)).value.results =
          before ++ [analysis.withDeleted ⟨last.next, "- ".toList⟩]) ∧
      (¬ Readable last.text →
        (ofDiff aliases (mail preamble earlier last version)).value.results =
          (ofDiff aliases (sent earlier last)).value.results) := by
  simp only [ofDiff, results_ofFiles, skipped_ofFiles, filesOfDiff_sent,
    filesOfDiff_mail noBoundary isVersion, List.filterMap_append]
  refine ⟨?_, ?_, ?_⟩
  · simp only [List.filterMap_cons, skipped?_signed last isVersion]
  · intro readable
    obtain ⟨analysis, own, signed⟩ :=
      exists_analysis?_signed aliases last isVersion (lastPlace earlier) readable
    rw [List.filterMap_cons_some own, List.filterMap_cons_some signed]
    exact ⟨_, analysis, rfl, rfl⟩
  · intro unreadable
    cases long : overlong? last.text with
    | none => exact absurd (overlong?_eq_none_iff.1 long) unreadable
    | some digits =>
        rw [List.filterMap_cons_none (analysis?_of_overlong? aliases _ long),
          List.filterMap_cons_none (analysis?_of_overlong? aliases _
            ((last.overlong?_signed isVersion).trans long))]

/-- The lines of a mail before its change set. -/
def coverLines : List Line :=
  [.mk "From 0123abcd Mon Sep 17 00:00:00 2001".toList, .mk "Subject: [PATCH] More".toList,
    .empty, .mk "---".toList, .mk " b.txt | 1 +".toList, .empty]

/-- The section of a first file. -/
def firstFile : List Line :=
  [.mk "diff --git a/a.txt b/a.txt".toList, .mk "--- a/a.txt".toList, .mk "+++ b/a.txt".toList,
    .mk "@@ -1,1 +1,1 @@".toList, .mk "-a".toList, .mk "+b".toList]

/-- The section of a second file, to which a line is added. -/
def secondFile : LastSection where
  names := .mk "a/b.txt b/b.txt".toList
  inner := [.mk "--- a/b.txt".toList, .mk "+++ b/b.txt".toList]
  hunk := Block.written {
    skipped := []
    body := [⟨.keep (.mk "a".toList), false, false⟩, ⟨.insert (.mk "b".toList), false, false⟩]
    oldCountOmitted := true
    newCountOmitted := false
    caption := .empty } 0 0
  noBoundary := by decide

/-- The version in a signature. -/
def signedVersion : Line :=
  .mk "2.39.2".toList

theorem isVersion_signedVersion : signedVersion.IsVersion :=
  ⟨'2', rfl, by decide⟩

/-- The change set of both files. -/
def sentFiles : Text :=
  sent firstFile secondFile

/-- The mail with this change set. -/
def mailedFiles : Text :=
  mail coverLines firstFile secondFile signedVersion

/-- A mail is not always analyzed like its change set. -/
theorem results_ofDiff_mail_ne :
    (∀ line ∈ coverLines, isBoundary line.text = false) ∧ signedVersion.IsVersion ∧
      mailedFiles = (("From 0123abcd Mon Sep 17 00:00:00 2001\nSubject: [PATCH] More\n\n---\n" ++
          " b.txt | 1 +\n\n").toList ++ sentFiles ++ "-- \n2.39.2\n\n".toList) ∧
      sentFiles =
        ("diff --git a/a.txt b/a.txt\n--- a/a.txt\n+++ b/a.txt\n@@ -1,1 +1,1 @@\n-a\n+b\n" ++
          "diff --git a/b.txt b/b.txt\n--- a/b.txt\n+++ b/b.txt\n@@ -1 +1,2 @@\n a\n+b\n").toList ∧
      (ofDiff Path.builtInAliases mailedFiles).value.results ≠
        (ofDiff Path.builtInAliases sentFiles).value.results :=
  ⟨by decide, isVersion_signedVersion, by decide +kernel, by decide +kernel, by decide +kernel⟩

/-- The signature is a deleted line before the third line of the second file. -/
theorem ofDiff_mail_coverLines :
    (∀ line ∈ coverLines, isBoundary line.text = false) ∧ signedVersion.IsVersion ∧
      Readable secondFile.text ∧
      (ofDiff Path.builtInAliases mailedFiles).value.skipped =
        (ofDiff Path.builtInAliases sentFiles).value.skipped ∧
      ∃ before analysis,
        (ofDiff Path.builtInAliases sentFiles).value.results = before ++ [analysis] ∧
        (ofDiff Path.builtInAliases mailedFiles).value.results =
          before ++ [analysis.withDeleted ⟨3, "- ".toList⟩] := by
  have noBoundary : ∀ line ∈ coverLines, isBoundary line.text = false := by decide
  have readable : Readable secondFile.text := by decide +kernel
  have third : secondFile.next = 3 := by decide +kernel
  obtain ⟨skipped, results, -⟩ :=
    ofDiff_mail Path.builtInAliases firstFile secondFile noBoundary isVersion_signedVersion
  rw [third] at results
  exact ⟨noBoundary, isVersion_signedVersion, readable, skipped, results readable⟩

end BatchReport

end PatchSurvey
