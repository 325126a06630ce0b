import PatchSurvey.Proofs.Report.Rows
import PatchSurvey.Proofs.Text.Occurrences

/-! # Closing tags

Texts from outside are written into a summary without escapes, but never at the
start of a line, and only a name that is given with a line feed in it begins one.
Otherwise the lines that are closing tags are those of the summary and of its
sections. Within a line, a closing tag may still be a part of the filename or of a
recorded line. No text is written if the number of a function has too many digits. -/

namespace PatchSurvey.Summary

variable {analysis : Analysis} {text : Text}

/-! ## Tags -/

/-- The closing tags of all sections and of the summary. -/
def closers : List Text :=
  Check.all.map (closing ·.sectionTag) ++ [closing "file_analysis"]

/-- The closing tags of the sections with entries, in order, and of the summary. -/
def closersOf (analysis : Analysis) : List Text :=
  (Check.all.filter fun check => (analysis.found check).isSome).map (closing ·.sectionTag) ++
    [closing "file_analysis"]

theorem nodup_closersOf (analysis : Analysis) : (closersOf analysis).Nodup := by
  have all : closers.Nodup := by decide
  refine all.sublist ?_
  exact List.Sublist.append (List.Sublist.map _ List.filter_sublist) (List.Sublist.refl _)

theorem closing_sectionTag_mem_closers (check : Check) : closing check.sectionTag ∈ closers := by
  cases check <;> decide

theorem slash_mem_of_mem_closers {tag : Text} (closer : tag ∈ closers) : '/' ∈ tag := by
  have all : ∀ tag ∈ closers, '/' ∈ tag := by decide
  exact all tag closer

/-- No closing tag is a part of another. -/
theorem eq_of_infix_of_mem_closers {tag other : Text} (closer : tag ∈ closers)
    (whole : other ∈ closers) (within : tag <:+: other) : other = tag := by
  have all : ∀ tag ∈ closers, ∀ other ∈ closers, tag <:+: other → other = tag := by
    decide +kernel
  exact all tag closer other whole within

theorem head?_of_mem_closers {tag : Text} (closer : tag ∈ closers) : tag.head? = some '<' := by
  have all : ∀ tag ∈ closers, tag.head? = some '<' := by decide
  exact all tag closer

/-- Behind a label without a tag, a tag is a part of what is labeled. -/
theorem infix_of_infix_label {tag label body : Text} (closer : tag ∈ closers) (plain : '<' ∉ label)
    (within : tag <:+: label ++ body) : tag <:+: body := by
  obtain ⟨rest, rfl⟩ := List.head?_eq_some_iff.1 (head?_of_mem_closers closer)
  induction label with
  | nil => exact within
  | cons c label ih =>
      rcases List.infix_cons_iff.1 within with here | behind
      · exact absurd (List.cons_prefix_cons.1 here).1 (List.ne_of_not_mem_cons plain)
      · exact ih (List.not_mem_of_not_mem_cons plain) behind

/-! ## Lines that are closing tags -/

/-- Rows that do not begin like a tag are no closing tags. -/
theorem filter_closers_eq_nil {rows : List Text} (others : ∀ row ∈ rows, row.head? ≠ some '<') :
    rows.filter (· ∈ closers) = [] := by
  refine List.filter_eq_nil_iff.2 fun row mem => ?_
  simpa using mt head?_of_mem_closers (others row mem)

theorem filter_closers_fileRows (analysis : Analysis) :
    (fileRows analysis).filter (· ∈ closers) = [] := by
  refine filter_closers_eq_nil fun row mem => ?_
  rcases List.mem_append.1 mem with fact | unsupported
  · simp only [List.mem_cons, List.not_mem_nil, or_false] at fact
    rcases fact with rfl | rfl | rfl <;> simp
  · split at unsupported
    · cases unsupported
    · rw [List.mem_singleton.1 unsupported]
      simp

theorem filter_closers_countRows (analysis : Analysis) :
    (countRows analysis).filter (· ∈ closers) = [] := by
  refine filter_closers_eq_nil fun row mem => ?_
  simp only [countRows, List.mem_cons, List.not_mem_nil, or_false] at mem
  rcases mem with rfl | rfl <;> simp

theorem filter_closers_sectionRows (analysis : Analysis) (check : Check) :
    (sectionRows analysis check).filter (· ∈ closers) =
      if (analysis.found check).isSome then [closing check.sectionTag] else [] := by
  rw [sectionRows, Matches.isSome]
  cases entries : (analysis.found check).entries with
  | nil => rfl
  | cons entry rest =>
      have first : opening check.sectionTag ∉ closers := by cases check <;> decide
      have inner : ∀ row ∈ (entry :: rest).map check.entryRow, row.head? ≠ some '<' := by
        intro row mem
        obtain ⟨line, -, rfl⟩ := List.mem_map.1 mem
        cases check <;> simp [Check.entryRow, item]
      have last := closing_sectionTag_mem_closers check
      rw [tagged_of_ne_nil (by simp), List.cons_append,
        List.filter_cons_of_neg (by simpa using first), List.filter_append,
        filter_closers_eq_nil inner, List.nil_append,
        List.filter_cons_of_pos (by simpa using last)]
      rfl

theorem filter_closers_flatMap (analysis : Analysis) (checks : List Check) :
    (checks.flatMap (sectionRows analysis)).filter (· ∈ closers) =
      (checks.filter fun check => (analysis.found check).isSome).map (closing ·.sectionTag) := by
  induction checks with
  | nil => rfl
  | cons check checks ih =>
      rw [List.flatMap_cons, List.filter_append, ih, filter_closers_sectionRows, List.filter_cons]
      split <;> rfl

/-- The lines that are closing tags are those of the sections with entries and of the summary. -/
theorem filter_closers_lines_of_write (unbroken : analysis.Unbroken)
    (written : write analysis = .ok text) :
    (Text.lines text).filter (· ∈ closers) = closersOf analysis := by
  have first : opening "file_analysis" ∉ closers := by decide
  have last : closing "file_analysis" ∈ closers := by decide
  rw [lines_of_write unbroken written, rows, List.cons_append,
    List.filter_cons_of_neg (by simpa using first)]
  simp only [List.filter_append, filter_closers_fileRows, filter_closers_flatMap,
    filter_closers_countRows, List.nil_append, List.append_nil]
  rw [List.filter_cons_of_pos (by simpa using last), List.filter_nil, closersOf]

/-! ## Lines with closing tags -/

/-- The line has the tag from a text from outside: the filename or a recorded line. -/
def Quotes (analysis : Analysis) (line tag : Text) : Prop :=
  (line = nameRow analysis ∧ tag <:+: analysis.displayName "unknown") ∨
    ∃ check, ∃ entry ∈ (analysis.found check).entries,
      line = check.entryRow entry ∧ tag <:+: entry.content

theorem quotes_of_infix_sectionRows {tag row : Text} {check : Check} (closer : tag ∈ closers)
    (among : row ∈ sectionRows analysis check) (within : tag <:+: row) :
    row = tag ∨ Quotes analysis row tag := by
  rcases mem_sectionRows_cases among with rfl | ⟨entry, here, rfl⟩ | rfl
  · have plain : '/' ∉ opening check.sectionTag := by cases check <;> decide
    exact absurd (within.subset (slash_mem_of_mem_closers closer)) plain
  · -- the label of an entry cannot begin the tag, so the recorded line has all of it
    obtain ⟨label, plain, row⟩ := exists_entryRow_eq_append check entry
    rw [row] at within
    have recorded := infix_of_infix_label closer (plain '<' (by decide)) within
    exact Or.inr (Or.inr ⟨check, entry, here, rfl, recorded⟩)
  · exact Or.inl (eq_of_infix_of_mem_closers closer (closing_sectionTag_mem_closers check) within)

/-- A line with a closing tag in it is the tag or quotes it. -/
theorem quotes_of_infix_lines_of_write (unbroken : analysis.Unbroken)
    (written : write analysis = .ok text) {tag line : Text} (closer : tag ∈ closers)
    (mem : line ∈ Text.lines text) (within : tag <:+: line) :
    line = tag ∨ Quotes analysis line tag := by
  have slash := within.subset (slash_mem_of_mem_closers closer)
  rw [lines_of_write unbroken written] at mem
  rcases List.mem_append.1 mem with front | last
  · rcases List.mem_cons.1 front with rfl | body
    · exact absurd slash (by decide)
    · rcases mem_rows_cases body with rfl | ⟨check, among⟩ | language
      · exact Or.inr (Or.inl ⟨rfl, infix_of_infix_label closer (by decide) within⟩)
      · exact quotes_of_infix_sectionRows closer among within
      · exact absurd (language '/' (by decide) slash) unbroken.extension
  · obtain rfl := List.mem_singleton.1 last
    exact Or.inl (eq_of_infix_of_mem_closers closer (by decide) within)

/-! ## Framing -/

/-- A text whose lines that are closing tags are those of the sections with entries, in order, and
at its end that of the summary. Each section stands in it as a whole. A line with a closing tag in
it is the tag or quotes it, so a tag that no text from outside has occurs once or not at all. -/
structure Framed (analysis : Analysis) (text : Text) : Prop where
  closed : (Text.lines text).filter (· ∈ closers) = closersOf analysis
  last : (Text.lines text).getLast? = some (closing "file_analysis")
  sections : ∀ check, sectionRows analysis check <:+: Text.lines text
  within : ∀ tag ∈ closers, ∀ line ∈ Text.lines text, tag <:+: line →
    line = tag ∨ Quotes analysis line tag
  once : ∀ tag ∈ closers, ¬ tag <:+: analysis.displayName "unknown" →
    (∀ check, ∀ entry ∈ (analysis.found check).entries, ¬ tag <:+: entry.content) →
    Text.occurrences tag text = if tag ∈ closersOf analysis then 1 else 0

theorem sectionRows_infix_lines_of_write (unbroken : analysis.Unbroken)
    (written : write analysis = .ok text) (check : Check) :
    sectionRows analysis check <:+: Text.lines text := by
  obtain ⟨checks, rest, all⟩ := List.append_of_mem (Check.mem_all check)
  refine ⟨opening "file_analysis" :: fileRows analysis ++ checks.flatMap (sectionRows analysis),
    rest.flatMap (sectionRows analysis) ++ countRows analysis ++ [closing "file_analysis"], ?_⟩
  rw [lines_of_write unbroken written, rows, all, List.flatMap_append, List.flatMap_cons]
  simp only [List.cons_append, List.append_assoc]

theorem framed_of_write (unbroken : analysis.Unbroken) (written : write analysis = .ok text) :
    Framed analysis text where
  closed := filter_closers_lines_of_write unbroken written
  last := by rw [lines_of_write unbroken written, List.getLast?_concat]
  sections := sectionRows_infix_lines_of_write unbroken written
  within _ closer _ := quotes_of_infix_lines_of_write unbroken written closer
  once := by
    intro tag closer unnamed unrecorded
    have some : tag ≠ [] := List.ne_nil_of_mem (slash_mem_of_mem_closers closer)
    have feed : ∀ tag ∈ closers, '\n' ∉ tag := by decide
    have alone (line : Text) (mem : line ∈ Text.lines text) (within : tag <:+: line) :
        line = tag := by
      rcases quotes_of_infix_lines_of_write unbroken written closer mem within with
        same | ⟨-, named⟩ | ⟨check, entry, among, -, recorded⟩
      · exact same
      · exact absurd named unnamed
      · exact absurd recorded (unrecorded check entry among)
    rw [Text.occurrences_eq_count some (feed tag closer) alone,
      ← List.count_filter (p := (· ∈ closers)) (by simpa using closer),
      filter_closers_lines_of_write unbroken written, (nodup_closersOf analysis).count]

/-- The summary of a text is framed if its filename is not a hint broken by a line feed. There is no
summary exactly if a function was recorded with a number that has too many digits. -/
theorem framed_write_of_ofPatch {aliases : Path.Aliases} {patch : Text} {hint : Option Text}
    {logged : Logged Analysis}
    (analyzed : Analysis.ofPatch aliases (.text patch) hint = .ok logged)
    (plain : Path.target? patch = none → ∀ name ∈ hint, '\n' ∉ name) :
    (∀ text, write logged.value = .ok text → Framed logged.value text) ∧
      (write logged.value = .error {} ↔
        ∃ entry ∈ logged.value.functions.entries,
          numeralLimit < (Text.ofNat entry.number.natAbs).length) := by
  have unbroken := Analysis.unbroken_of_ofPatch analyzed plain
  refine ⟨fun text written => framed_of_write unbroken written, ?_⟩
  simp [write_eq_error_iff, hasOverlong, Text.isOverlong]

open Analysis

/-- A file without a target whose function and import quote closing tags. -/
def quotingPatch : Text :=
  "@@ -0,0 +1,2 @@\n+import os # </new_imports>\n+def test_a(): # </file_analysis>".toList

/-- A name that quotes a closing tag. -/
def quotingHint : Text :=
  "a</new_functions>.py".toList

/-- The lines that the file adds. -/
def quotingLines : List ChangedLine :=
  [⟨1, "import os # </new_imports>".toList⟩, ⟨2, "def test_a(): # </file_analysis>".toList⟩]

/-- The analysis of the file under this name. -/
def quoting : Logged Analysis :=
  ofChanges Path.builtInAliases (some quotingHint) quotingLines []

/-- It has a summary, which is framed. -/
theorem framed_write_quoting :
    ofPatch Path.builtInAliases (.text quotingPatch) (some quotingHint) = .ok quoting ∧
      ∃ text, write quoting.value = .ok text ∧ Framed quoting.value text := by
  have added : Hunk.changes .added quotingPatch = .ok quotingLines := by decide +kernel
  have deleted : Hunk.changes .removed quotingPatch = .ok [] := by decide +kernel
  have path : pathOf quotingPatch (some quotingHint) = some quotingHint := by decide +kernel
  have analyzed := ofPatch_of_changes Path.builtInAliases (some quotingHint) added deleted
  rw [path] at analyzed
  have plain : ∀ name ∈ some quotingHint, '\n' ∉ name := by
    intro name mem
    obtain rfl := Option.some.inj mem
    decide
  have short : hasOverlong quoting.value = false := by decide +kernel
  have written := write_eq_ok_iff.2 ⟨short, rfl⟩
  exact ⟨analyzed, _, written, (framed_write_of_ofPatch analyzed fun _ => plain).1 _ written⟩

/-- A file whose only function quotes the closing tag of its summary. -/
def smugglingPatch : Text :=
  "+++ b/a.py\n@@ -0,0 +1 @@\n+def f(): # </file_analysis>".toList

/-- The line that the file adds. -/
def smuggledLine : ChangedLine :=
  ⟨1, "def f(): # </file_analysis>".toList⟩

/-- The analysis of the file. -/
def smuggled : Logged Analysis :=
  ofChanges Path.builtInAliases (some "a.py".toList) [smuggledLine] []

/-- A name whose second line is the closing tag of a summary. -/
def brokenHint : Text :=
  "a\n</file_analysis>".toList

/-- The analysis of an empty patch under this name. -/
def broken : Logged Analysis :=
  ofChanges Path.builtInAliases (some brokenHint) [] []

/-- A header whose new start is the number. -/
def headerAt (n : Nat) : Hunk.HeaderText where
  old := ⟨['0'], some ['0']⟩
  new := ⟨Text.ofNat n, some ['2']⟩

/-- A file to which two functions are added from the line with the number on. -/
def functionsAt (n : Nat) : Text :=
  "+++ b/a.py".toList ++ '\n' :: ((headerAt n).write ++
    '\n' :: ("+def f():".toList ++ '\n' :: "+def g():".toList))

/-- The lines that the file adds. -/
def functionLinesAt (n : Nat) : List ChangedLine :=
  [⟨n, "def f():".toList⟩, ⟨n + 1, "def g():".toList⟩]

theorem numeric_headerAt (n : Nat) : (headerAt n).Numeric := by
  have digit {c : Char} (isDigit : Text.isDigit c = true) : Hunk.IsDigits [c] :=
    ⟨List.cons_ne_nil _ _, List.forall_mem_singleton.2 isDigit⟩
  have number : Hunk.IsDigits (Text.ofNat n) :=
    ⟨Text.ofNat_ne_nil n, fun _ mem => Text.isDigit_of_mem_ofNat mem⟩
  refine ⟨⟨digit rfl, fun count mem => ?_⟩, ⟨number, fun count mem => ?_⟩⟩
  · exact Option.some.inj mem ▸ digit rfl
  · exact Option.some.inj mem ▸ digit rfl

theorem rows_functionsAt (n : Nat) :
    Hunk.rows (functionsAt n) = ["+++ b/a.py".toList, Text.dropReturn (headerAt n).write,
      "+def f():".toList, "+def g():".toList] := by
  have plain : ∀ line ∈ ["+++ b/a.py", "+def f():", "+def g():"].map String.toList,
      '\n' ∉ line ∧ Text.dropReturn line = line := by decide
  simp only [List.map_cons, List.map_nil, List.forall_mem_cons] at plain
  obtain ⟨⟨h₁, same₁⟩, ⟨h₂, same₂⟩, ⟨h₃, same₃⟩, -⟩ := plain
  unfold functionsAt
  rw [Hunk.rows_line_append h₁,
    Hunk.rows_line_append (numeric_headerAt n).newline_not_mem_write,
    Hunk.rows_line_append h₂, Hunk.rows_line h₃, same₁, same₂, same₃]

theorem changes_functionsAt {n : Nat} (short : (Text.ofNat n).length ≤ numeralLimit) :
    Hunk.changes .added (functionsAt n) = .ok (functionLinesAt n) ∧
      Hunk.changes .removed (functionsAt n) = .ok [] := by
  have single {c : Char} {count : Text} (mem : count ∈ some [c]) : count.length ≤ numeralLimit := by
    rw [← Option.some.inj mem, List.length_singleton]
    decide
  have readable : (headerAt n).Readable := ⟨short, fun _ => single, fun _ => single⟩
  have value : (headerAt n).value = ⟨n, 0, 2⟩ := by
    rw [Hunk.HeaderText.value, headerAt, Text.numeralValue_ofNat]
    rfl
  have read : Hunk.HeaderText.read? (Text.dropReturn (headerAt n).write) = some (headerAt n) := by
    rw [Hunk.HeaderText.read?_dropReturn, ← List.append_nil (headerAt n).write]
    exact Hunk.HeaderText.read?_write (numeric_headerAt n) []
  have target (side : Side) : Hunk.visit side .outside "+++ b/a.py".toList = .ok (none, .outside) :=
    Hunk.visit_outside side (by decide)
  have header (side : Side) : Hunk.visit side .outside (Text.dropReturn (headerAt n).write) =
      .ok (none, .inside n 0 2) := by
    rw [Hunk.visit_of_header side _ read, Hunk.HeaderText.promise_of_readable readable, value]
    rfl
  have added (side : Side) (next left : Nat) {line : Text}
      (named : line ∈ ["+def f():".toList, "+def g():".toList]) :
      Hunk.visit side (.inside next 0 (left + 1)) line =
        .ok ((Hunk.Cursor.inside next 0 (left + 1)).read side line) := by
    simp only [List.mem_cons, List.not_mem_nil, or_false] at named
    rcases named with rfl | rfl
    · exact Hunk.visit_inside side (by decide) (by decide) ..
    · exact Hunk.visit_inside side (by decide) (by decide) ..
  have first (side : Side) := added side n 1 (List.mem_cons_self ..)
  have second (side : Side) := added side (n + 1) 0 (List.mem_cons_of_mem _ (List.mem_cons_self ..))
  rw [Hunk.changes_eq_walk, Hunk.changes_eq_walk, rows_functionsAt]
  simp only [Hunk.walk_eq_run]
  constructor
  · rw [Hunk.run_cons_of_ok .added (target _) (Hunk.run_cons_of_ok .added (header _)
      (Hunk.run_cons_of_ok .added (first _) (Hunk.run_cons_of_ok .added (second _) rfl)))]
    rfl
  · rw [Hunk.run_cons_of_ok .removed (target _) (Hunk.run_cons_of_ok .removed (header _)
      (Hunk.run_cons_of_ok .removed (first _) (Hunk.run_cons_of_ok .removed (second _) rfl)))]
    rfl

/-- The greatest number that is written. -/
def longest : Nat :=
  Nat.pow 10 4300 - 1

/-- The analysis of a file whose second function has the first number of 4301 digits. -/
def overlong : Logged Analysis :=
  ofChanges Path.builtInAliases (some "a.py".toList) (functionLinesAt longest) []

/-- A recorded line repeats a closing tag within a line, and a name with a line feed as a line. A
number with too many digits leaves no summary. -/
theorem occurrences_smuggled_and_count_lines_broken_and_write_overlong :
    (ofPatch Path.builtInAliases (.text smugglingPatch) none = .ok smuggled ∧
      (write smuggled.value).map (Text.occurrences (closing "file_analysis")) = .ok 2) ∧
    (ofPatch Path.builtInAliases (.text []) (some brokenHint) = .ok broken ∧
      (write broken.value).map (fun text =>
        (Text.lines text).count (closing "file_analysis")) = .ok 2) ∧
    ofPatch Path.builtInAliases (.text (functionsAt longest)) none = .ok overlong ∧
      write overlong.value = .error {} := by
  have added : Hunk.changes .added smugglingPatch = .ok [smuggledLine] := by decide +kernel
  have deleted : Hunk.changes .removed smugglingPatch = .ok [] := by decide +kernel
  have path : pathOf smugglingPatch none = some "a.py".toList := by decide +kernel
  have analyzed := ofPatch_of_changes Path.builtInAliases none added deleted
  rw [path] at analyzed
  have unchanged (side : Side) : Hunk.changes side [] = .ok [] := by cases side <;> decide +kernel
  have named : pathOf [] (some brokenHint) = some brokenHint := by decide +kernel
  have empty := ofPatch_of_changes Path.builtInAliases (some brokenHint)
    (unchanged .added) (unchanged .removed)
  rw [named] at empty
  have short : (Text.ofNat longest).length ≤ numeralLimit := by decide +kernel
  obtain ⟨large, kept⟩ := changes_functionsAt short
  have file : pathOf (functionsAt longest) none = some "a.py".toList := by decide +kernel
  have counted := ofPatch_of_changes Path.builtInAliases none large kept
  rw [file] at counted
  have long : hasOverlong overlong.value = true := by decide +kernel
  exact ⟨⟨analyzed, by decide +kernel⟩, ⟨empty, by decide +kernel⟩, counted,
    write_eq_error_iff.2 long⟩

end PatchSurvey.Summary
