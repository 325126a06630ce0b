import PatchSurvey.Proofs.Diff.Numbering

/-! # Lines of context

With some lines of context a diff shows every change and the kept lines that are
so near to one; what is shown without a gap is a hunk. With at least one line of
context every hunk shows a new-file line, unless the new file is empty. -/

namespace PatchSurvey.Diff

/-- The step changes the file. -/
def Edit.isChange : Edit → Bool
  | keep _ => false
  | delete _ => true
  | insert _ => true

/-- The hunks of a script, each behind the kept lines that are skipped, and the kept lines behind
the last hunk. -/
structure Cut where
  hunks : List (List Line × Script)
  rest : List Line
deriving DecidableEq, Repr

namespace Cut

/-- A kept line that is skipped in front of the others. -/
def skip (line : Line) : Cut → Cut
  | ⟨[], rest⟩ => ⟨[], line :: rest⟩
  | ⟨(skipped, shown) :: hunks, rest⟩ => ⟨(line :: skipped, shown) :: hunks, rest⟩

/-- A step that is shown in front of the others, in one hunk with the next step if this is shown. -/
def reveal (edit : Edit) : Cut → Cut
  | ⟨([], shown) :: hunks, rest⟩ => ⟨([], edit :: shown) :: hunks, rest⟩
  | ⟨hunks, rest⟩ => ⟨([], [edit]) :: hunks, rest⟩

/-- The script that was cut. -/
def script (cut : Cut) : Script :=
  (cut.hunks.flatMap fun hunk => hunk.1.map .keep ++ hunk.2) ++ cut.rest.map .keep

variable (cut : Cut)

theorem script_skip (line : Line) : (cut.skip line).script = .keep line :: cut.script := by
  obtain ⟨hunks, rest⟩ := cut
  cases hunks with
  | nil => rfl
  | cons hunk hunks => rfl

/-- A shown step joins the next hunk if no line is skipped in between. -/
theorem reveal_of_next {shown : Script} {hunks : List (List Line × Script)}
    (next : cut.hunks = ([], shown) :: hunks) (edit : Edit) :
    cut.reveal edit = ⟨([], edit :: shown) :: hunks, cut.rest⟩ := by
  obtain ⟨hunks, rest⟩ := cut
  obtain rfl : hunks = _ := next
  rfl

theorem reveal_cases (edit : Edit) :
    (∃ shown hunks, cut.hunks = ([], shown) :: hunks ∧
        cut.reveal edit = ⟨([], edit :: shown) :: hunks, cut.rest⟩) ∨
      cut.reveal edit = ⟨([], [edit]) :: cut.hunks, cut.rest⟩ := by
  obtain ⟨hunks, rest⟩ := cut
  cases hunks with
  | nil => exact Or.inr rfl
  | cons hunk hunks =>
      obtain ⟨skipped, shown⟩ := hunk
      cases skipped with
      | nil => exact Or.inl ⟨shown, hunks, rfl, rfl⟩
      | cons line skipped => exact Or.inr rfl

theorem script_reveal (edit : Edit) : (cut.reveal edit).script = edit :: cut.script := by
  rcases cut.reveal_cases edit with ⟨shown, hunks, same, revealed⟩ | revealed
  · rw [revealed, script, script, same]
    rfl
  · rw [revealed]
    rfl

/-- The first hunk begins with a shown step. -/
theorem exists_hunks_reveal (edit : Edit) :
    ∃ shown hunks, (cut.reveal edit).hunks = ([], shown) :: hunks := by
  rcases cut.reveal_cases edit with ⟨shown, hunks, -, revealed⟩ | revealed
  · exact ⟨_, _, congrArg Cut.hunks revealed⟩
  · exact ⟨_, _, congrArg Cut.hunks revealed⟩

/-- Every hunk shows a line of the new file. -/
def Anchored : Prop :=
  ∀ hunk ∈ cut.hunks, Script.newFile hunk.2 ≠ []

variable {cut}

theorem Anchored.skip (anchored : cut.Anchored) (line : Line) : (cut.skip line).Anchored := by
  obtain ⟨hunks, rest⟩ := cut
  cases hunks with
  | nil => exact anchored
  | cons hunk hunks =>
      obtain ⟨first, others⟩ := List.forall_mem_cons.1 anchored
      exact List.forall_mem_cons.2 ⟨first, others⟩

theorem Anchored.reveal_of_next (anchored : cut.Anchored) {shown : Script}
    {hunks : List (List Line × Script)} (next : cut.hunks = ([], shown) :: hunks) (edit : Edit) :
    (cut.reveal edit).Anchored := by
  rw [Anchored, next] at anchored
  obtain ⟨first, others⟩ := List.forall_mem_cons.1 anchored
  have extended : Script.newFile (edit :: shown) ≠ [] := by
    rw [Script.newFile_cons]
    exact List.append_ne_nil_of_right_ne_nil _ first
  rw [cut.reveal_of_next next]
  exact List.forall_mem_cons.2 ⟨extended, others⟩

/-- A hunk that shows a line of the new file may be put in front or extended. -/
theorem Anchored.reveal (anchored : cut.Anchored) {edit : Edit}
    (some : Script.newFile [edit] ≠ []) : (cut.reveal edit).Anchored := by
  rcases cut.reveal_cases edit with ⟨shown, hunks, next, -⟩ | revealed
  · exact anchored.reveal_of_next next edit
  · rw [revealed]
    exact List.forall_mem_cons.2 ⟨some, anchored⟩

end Cut

namespace Script

/-- One of the next steps is a change. -/
def changesWithin (width : Nat) (script : Script) : Bool :=
  (script.take width).any Edit.isChange

/-- The hunks with so many lines of context, `left` of which are still to be shown for the change
before the script. -/
def cut (width : Nat) : Nat → Script → Cut
  | _, [] => ⟨[], []⟩
  | left, .keep line :: script =>
      if 0 < left || changesWithin width script then
        (cut width (left - 1) script).reveal (.keep line)
      else (cut width (left - 1) script).skip line
  | _, .delete line :: script => (cut width width script).reveal (.delete line)
  | _, .insert line :: script => (cut width width script).reveal (.insert line)

theorem script_cut (width left : Nat) (script : Script) : (cut width left script).script = script := by
  induction script generalizing left with
  | nil => rfl
  | cons edit rest ih =>
      cases edit with
      | keep line =>
          rw [cut]
          split
          · rw [Cut.script_reveal, ih]
          · rw [Cut.script_skip, ih]
      | delete line => rw [cut, Cut.script_reveal, ih]
      | insert line => rw [cut, Cut.script_reveal, ih]

/-- Behind a change nothing is skipped as long as context is to be shown. -/
theorem exists_hunks_cut {width left : Nat} (more : 0 < left) {script : Script}
    (some : script ≠ []) :
    ∃ shown hunks, (cut width left script).hunks = ([], shown) :: hunks := by
  cases script with
  | nil => exact absurd rfl some
  | cons edit rest =>
      cases edit with
      | keep line =>
          rw [cut, if_pos (by simp [more])]
          exact Cut.exists_hunks_reveal ..
      | delete line => exact Cut.exists_hunks_reveal ..
      | insert line => exact Cut.exists_hunks_reveal ..

theorem changesWithin_of_newFile_eq_nil {width : Nat} (pos : 0 < width) {script : Script}
    (some : script ≠ []) (empty : newFile script = []) : changesWithin width script = true := by
  cases script with
  | nil => exact absurd rfl some
  | cons edit rest =>
      cases edit with
      | keep line => cases empty
      | delete line =>
          obtain ⟨width, rfl⟩ := Nat.exists_eq_add_one.2 pos
          rfl
      | insert line => cases empty

/-- The hunks show lines of the new file, or a single hunk shows a script that has none. -/
def AnchoredOrEmpty (script : Script) (cut : Cut) : Prop :=
  cut.Anchored ∨ newFile script = [] ∧ cut.hunks = [([], script)]

/-- A step with a line of the new file anchors the first hunk. -/
theorem AnchoredOrEmpty.reveal {script : Script} {cut : Cut}
    (either : AnchoredOrEmpty script cut) {edit : Edit} (some : newFile [edit] ≠ []) :
    (cut.reveal edit).Anchored := by
  rcases either with anchored | ⟨-, single⟩
  · exact anchored.reveal some
  · have extended : newFile (edit :: script) ≠ [] := by
      rw [newFile_cons]
      exact List.append_ne_nil_of_left_ne_nil some _
    rw [cut.reveal_of_next single]
    exact List.forall_mem_singleton.2 extended

/-- With context every hunk shows a line of the new file, unless a single hunk deletes the whole
old file. -/
theorem anchoredOrEmpty_cut {width : Nat} (pos : 0 < width) (left : Nat) (script : Script) :
    AnchoredOrEmpty script (cut width left script) := by
  induction script generalizing left with
  | nil =>
      left
      intro hunk mem
      cases mem
  | cons edit rest ih =>
      cases edit with
      | keep line =>
          left
          rw [cut]
          split
          · exact (ih (left - 1)).reveal (List.cons_ne_nil line [])
          · -- a line next to a change is not skipped
            rename_i far
            rcases ih (left - 1) with anchored | ⟨empty, single⟩
            · exact anchored.skip line
            · have some : rest ≠ [] := by
                rintro rfl
                cases single
              rw [changesWithin_of_newFile_eq_nil pos some empty, Bool.or_true] at far
              exact absurd rfl far
      | delete line =>
          rw [cut]
          by_cases last : rest = []
          · subst last
            exact Or.inr ⟨rfl, rfl⟩
          · -- the step behind a deletion is shown, so the deletion joins its hunk
            obtain ⟨shown, hunks, next⟩ := exists_hunks_cut pos last
            rcases ih width with anchored | ⟨empty, single⟩
            · exact Or.inl (anchored.reveal_of_next next _)
            · right
              rw [Cut.reveal_of_next _ single, newFile_cons, empty]
              exact ⟨rfl, rfl⟩
      | insert line =>
          left
          rw [cut]
          exact (ih width).reveal (List.cons_ne_nil line [])

end Script

/-- A hunk with every mark and every number. -/
def Block.plain (hunk : List Line × Script) : Block where
  skipped := hunk.1
  body := hunk.2.map fun edit => ⟨edit, false, false⟩
  oldCountOmitted := false
  newCountOmitted := false
  caption := .empty

theorem Block.script_plain (hunk : List Line × Script) : (plain hunk).script = hunk.2 := by
  rw [script, plain, List.map_map]
  exact List.map_id hunk.2

theorem Block.wholeScript_plain (hunk : List Line × Script) :
    (plain hunk).wholeScript = hunk.1.map .keep ++ hunk.2 := by
  rw [wholeScript, script_plain]
  rfl

namespace FileDiff

/-- The hunks have so many lines of context. -/
def HasContext (width : Nat) (file : FileDiff) : Prop :=
  file.script.cut width 0 =
    ⟨file.blocks.map fun block => (block.skipped, block.script), file.rest⟩

instance (width : Nat) (file : FileDiff) : Decidable (file.HasContext width) :=
  inferInstanceAs (Decidable (_ = _))

/-- With context every hunk is anchored if the new file has lines. -/
theorem HasContext.anchored {width : Nat} {file : FileDiff} (context : file.HasContext width)
    (pos : 0 < width) (some : file.script.newFile ≠ []) :
    ∀ block ∈ file.blocks, block.Anchored := by
  intro block mem _
  rcases Script.anchoredOrEmpty_cut pos 0 file.script with anchored | ⟨empty, -⟩
  · rw [context] at anchored
    exact anchored (block.skipped, block.script) (List.mem_map_of_mem mem)
  · exact absurd empty some

/-- The plain diff of a script with so many lines of context. -/
def ofScript (width : Nat) (script : Script) : FileDiff where
  heading := .bare
  blocks := (script.cut width 0).hunks.map Block.plain
  rest := (script.cut width 0).rest

variable (width : Nat) (script : Script)

theorem script_ofScript : (ofScript width script).script = script := by
  calc
    (ofScript width script).script = (script.cut width 0).script := by
      rw [FileDiff.script, ofScript, List.flatMap_map, Cut.script]
      simp only [Block.wholeScript_plain]
    _ = script := Script.script_cut width 0 script

/-- Every script has a diff with any number of lines of context. -/
theorem hasContext_ofScript : (ofScript width script).HasContext width := by
  have outline : (fun block : Block => (block.skipped, block.script)) ∘ Block.plain = id := by
    funext hunk
    exact Prod.ext rfl (Block.script_plain hunk)
  rw [HasContext, script_ofScript, ofScript, List.map_map, outline, List.map_id]

end FileDiff

/-- The removed lines of a diff have the numbers that the edit script gives them exactly if every
hunk that deletes a line shows a line of the new file. So they do not change from one number of
lines of context to another if neither is zero and the new file is not empty. -/
theorem changes_removed_eq_iff_and_eq_of_context (file : FileDiff) (ended : Bool) :
    (Hunk.changes .removed (text [file] ended) =
        .ok ((file.script.changes .removed 1).map ChangedLine.dropReturn) ↔
      file.Readable ∧ ∀ block ∈ file.blocks, block.Anchored) ∧
    ∀ (other : FileDiff) (ended' : Bool) (m n : Nat),
      other.script = file.script → file.script.newFile ≠ [] →
        file.HasContext m → other.HasContext n → 0 < m → 0 < n →
          file.Readable → other.Readable →
            Hunk.changes .removed (text [other] ended') =
              Hunk.changes .removed (text [file] ended) := by
  constructor
  · exact changes_removed_text_eq_iff file ended
  · intro other ended' m n same some context context' pos pos' readable readable'
    have numbered : Hunk.changes .removed (text [file] ended) =
        .ok ((file.script.changes .removed 1).map ChangedLine.dropReturn) :=
      (changes_removed_text_eq_iff file ended).2 ⟨readable, context.anchored pos some⟩
    have numbered' : Hunk.changes .removed (text [other] ended') =
        .ok ((other.script.changes .removed 1).map ChangedLine.dropReturn) :=
      (changes_removed_text_eq_iff other ended').2
        ⟨readable', context'.anchored pos' (same ▸ some)⟩
    rw [numbered, numbered', same]

/-- A script that deletes one line between two others. -/
def loneDeletion : Script :=
  [.keep (.mk ['a']), .delete (.mk ['b']), .keep (.mk ['c'])]

/-- One line of context and two give the deletion one number. -/
theorem changes_removed_eq_of_context_loneDeletion :
    (FileDiff.ofScript 2 loneDeletion).script = (FileDiff.ofScript 1 loneDeletion).script ∧
      (FileDiff.ofScript 1 loneDeletion).script.newFile ≠ [] ∧
      (FileDiff.ofScript 1 loneDeletion).HasContext 1 ∧
      (FileDiff.ofScript 2 loneDeletion).HasContext 2 ∧ 0 < 1 ∧ 0 < 2 ∧
      (FileDiff.ofScript 1 loneDeletion).Readable ∧ (FileDiff.ofScript 2 loneDeletion).Readable ∧
      Hunk.changes .removed (text [FileDiff.ofScript 2 loneDeletion] true) =
        Hunk.changes .removed (text [FileDiff.ofScript 1 loneDeletion] true) := by
  have same : (FileDiff.ofScript 2 loneDeletion).script =
      (FileDiff.ofScript 1 loneDeletion).script := by
    rw [FileDiff.script_ofScript, FileDiff.script_ofScript]
  have some : (FileDiff.ofScript 1 loneDeletion).script.newFile ≠ [] := by decide
  have context := FileDiff.hasContext_ofScript 1 loneDeletion
  have context' := FileDiff.hasContext_ofScript 2 loneDeletion
  have readable : (FileDiff.ofScript 1 loneDeletion).Readable := by decide
  have readable' : (FileDiff.ofScript 2 loneDeletion).Readable := by decide
  exact ⟨same, some, context, context', Nat.one_pos, Nat.two_pos, readable, readable',
    (changes_removed_eq_iff_and_eq_of_context (FileDiff.ofScript 1 loneDeletion) true).2
      (FileDiff.ofScript 2 loneDeletion) true 1 2 same some context context' Nat.one_pos
      Nat.two_pos readable readable'⟩

/-- Without context the deletion is numbered one lower than with it. -/
theorem changes_removed_loneDeletion_without_context :
    text [FileDiff.ofScript 0 loneDeletion] true = "@@ -2,1 +1,0 @@\n-b\n".toList ∧
      text [FileDiff.ofScript 1 loneDeletion] true =
        "@@ -1,3 +1,2 @@\n a\n-b\n c\n".toList ∧
      (FileDiff.ofScript 0 loneDeletion).HasContext 0 ∧
      (FileDiff.ofScript 1 loneDeletion).HasContext 1 ∧
      Hunk.changes .removed (text [FileDiff.ofScript 0 loneDeletion] true) = .ok [⟨1, ['b']⟩] ∧
      Hunk.changes .removed (text [FileDiff.ofScript 1 loneDeletion] true) = .ok [⟨2, ['b']⟩] ∧
      loneDeletion.changes .removed 1 = [⟨2, ['b']⟩] := by
  refine ⟨by decide, by decide, FileDiff.hasContext_ofScript .., FileDiff.hasContext_ofScript ..,
    ?_, ?_, rfl⟩
  · rfl
  · rfl

end PatchSurvey.Diff
