import PatchSurvey.Proofs.Signal.ImportEnds
import PatchSurvey.Proofs.Signal.JavaHeaders
import PatchSurvey.Proofs.Signal.Visible

/-! # Comments at the end of a line

No shape knows of comments. A line that carries a signal still carries it with a comment
at its end, unless the shapes that the line has ask for the end of the line. These are
the headers of Java, lists of names in imports of the script languages and quoted paths
of Go. -/

namespace PatchSurvey

open Pattern Text

namespace Language

/-- What begins a comment that runs to the end of the line. -/
def commentMark : Language → Text
  | py | ruby => "#".toList
  | js | ts | java | go | rust => "//".toList

/-- The line with a comment at its end. -/
def withComment (language : Language) (line comment : Text) : Text :=
  line ++ ' ' :: (language.commentMark ++ comment)

/-- The signs that begin a comment. -/
def commentSigns : List Char :=
  ['/', '#']

theorem exists_withComment_eq (language : Language) (line comment : Text) :
    ∃ sign ∈ commentSigns, ∃ behind,
      language.withComment line comment = line ++ ' ' :: sign :: behind := by
  cases language with
  | py | ruby => exact ⟨'#', by decide, _, rfl⟩
  | js | ts | java | go | rust => exact ⟨'/', by decide, _, rfl⟩

/-- The line is an import by a shape that does not ask for the end of the line. -/
def isSettledImport (language : Language) (line : Text) : Bool :=
  language.importShapes.any fun shape => shape.settled && shape.search line

theorem isSettledImport_iff {language : Language} {line : Text} :
    language.isSettledImport line = true ↔
      ∃ shape ∈ language.importShapes, shape.settled = true ∧ shape.search line = true := by
  simp only [isSettledImport, List.any_eq_true, Bool.and_eq_true]

end Language

/-! ## Control flow -/

theorem staysBefore_of_mem_controlFlowTable : ∀ sign ∈ Language.commentSigns,
    ∀ shape ∈ controlFlowTable, StaysBefore sign shape :=
  List.all_iff_forall_prop.1 (by decide +kernel)

theorem anchored_of_mem_controlFlowTable : ∀ shape ∈ controlFlowTable, Anchored shape := by
  simp only [controlFlowTable, List.forall_mem_cons]
  exact ⟨anchored_indent.row_cons _, anchored_indent.row_cons _, anchored_indent.row_cons _,
    List.forall_mem_nil _⟩

theorem settled_of_mem_controlFlowTable : ∀ shape ∈ controlFlowTable, shape.settled = true := by
  decide

/-- A comment does not make a line control flow. -/
theorem isControlFlow_append {sign : Char} (mem : sign ∈ Language.commentSigns)
    (line behind : Text) : isControlFlow (line ++ ' ' :: sign :: behind) = isControlFlow line := by
  rw [Bool.eq_iff_iff, isControlFlow, isControlFlow, List.any_eq_true, List.any_eq_true]
  refine exists_congr fun shape => and_congr_right fun among => ?_
  exact (staysBefore_of_mem_controlFlowTable sign mem shape among).search_append_iff_of_anchored
    (anchored_of_mem_controlFlowTable shape among)

/-! ## The signal of a line with a comment -/

namespace Check

variable {check : Check} {language : Language} {line comment : Text}

theorem accepts_withComment_iff_exists (accepted : check.accepts language line = true) :
    check.accepts language (language.withComment line comment) = true ↔
      ∃ shape ∈ check.shapes language, shape.search (language.withComment line comment) = true := by
  obtain ⟨noControl, -⟩ := accepts_iff.1 accepted
  obtain ⟨sign, mem, behind, whole⟩ := language.exists_withComment_eq line comment
  rw [accepts_iff, and_iff_right_iff_imp]
  rintro - functions
  rw [whole, isControlFlow_append mem]
  exact noControl functions

/-- A shape that does not ask for the end of the line is found with a comment, too. -/
theorem accepts_withComment_of_settled (accepted : check.accepts language line = true)
    {shape : Pattern} (mem : shape ∈ check.shapes language) (settled : shape.settled = true)
    (found : shape.search line = true) :
    check.accepts language (language.withComment line comment) = true := by
  obtain ⟨sign, -, behind, whole⟩ := language.exists_withComment_eq line comment
  refine (accepts_withComment_iff_exists accepted).2 ⟨shape, mem, ?_⟩
  rw [whole]
  exact search_append settled rfl found

/-- What it takes for a line that carries a signal to carry it with a comment at its end. -/
def Survives (check : Check) (language : Language) (line comment : Text) : Prop :=
  match check, language with
  | functions, .java =>
      ';' ∉ comment ∧ (Language.java.headerForm? line = some .declaration ∨
        (row JavaHead.methodEnd).search comment = true)
  | imports, .js | imports, .ts =>
      '\x7d' ∉ comment ∨ language.isSettledImport line = true ∨
        ImportTable.requireCall.search (" //".toList ++ comment) = true
  | imports, .go => language.isSettledImport line = true
  | _, _ => True

/-- The tables in which a shape asks for the end of the line. -/
def unsettled : List (Check × Language) :=
  [(functions, .java), (imports, .js), (imports, .ts), (imports, .go)]

theorem settled_of_mem_shapes : ∀ check ∈ all, ∀ language ∈ Language.all,
    (check, language) ∉ unsettled → ∀ shape ∈ check.shapes language, shape.settled = true := by
  decide

theorem accepts_withComment (accepted : check.accepts language line = true)
    (settled : (check, language) ∉ unsettled) :
    check.accepts language (language.withComment line comment) = true := by
  obtain ⟨-, shape, mem, found⟩ := accepts_iff.1 accepted
  exact accepts_withComment_of_settled accepted mem
    (settled_of_mem_shapes check check.mem_all language language.mem_all settled shape mem) found

theorem headerForm?_java_eq_declaration_iff (noControl : isControlFlow line = false) :
    Language.java.headerForm? line = some .declaration ↔ JavaHead.declaration.search line = true := by
  rw [Language.headerForm?, noControl, if_neg Bool.false_ne_true, JavaHead.headers_eq,
    List.find?_cons]
  cases JavaHead.declaration.search line with
  | true => exact iff_of_true rfl rfl
  | false =>
      cases found : JavaHead.method.search line <;> simp [found]

theorem headerForm?_java_eq_method_iff (noControl : isControlFlow line = false) :
    Language.java.headerForm? line = some .method ↔
      JavaHead.declaration.search line = false ∧ JavaHead.method.search line = true := by
  rw [Language.headerForm?, noControl, if_neg Bool.false_ne_true, JavaHead.headers_eq,
    List.find?_cons]
  cases JavaHead.declaration.search line with
  | true => simp
  | false =>
      cases found : JavaHead.method.search line <;> simp [found]

theorem accepts_withComment_java_iff (accepted : functions.accepts .java line = true) :
    functions.accepts .java (Language.java.withComment line comment) = true ↔
      ';' ∉ comment ∧ (Language.java.headerForm? line = some .declaration ∨
        (row JavaHead.methodEnd).search comment = true) := by
  obtain ⟨noControl, shape, mem, found⟩ := accepts_iff.1 accepted
  have shapes : functions.shapes .java = [JavaHead.declaration, JavaHead.method] := rfl
  have either : JavaHead.declaration.search line = true ∨ JavaHead.method.search line = true := by
    simp only [shapes, List.mem_cons, List.not_mem_nil, or_false] at mem
    rcases mem with rfl | rfl
    · exact .inl found
    · exact .inr found
  rw [accepts_withComment_iff_exists accepted, headerForm?_java_eq_declaration_iff (noControl rfl),
    ← JavaHead.search_append_comment_iff either, shapes, List.exists_mem_cons_iff,
    List.exists_mem_cons_iff]
  simp [Language.withComment, Language.commentMark]

theorem accepts_withComment_of_isSettledImport (accepted : imports.accepts language line = true)
    (settled : language.isSettledImport line = true) :
    imports.accepts language (language.withComment line comment) = true := by
  obtain ⟨shape, mem, settled, found⟩ := Language.isSettledImport_iff.1 settled
  exact accepts_withComment_of_settled accepted mem settled found

theorem accepts_withComment_script_iff (script : language.importShapes = ImportTable.js)
    (mark : language.commentMark = "//".toList) (accepted : imports.accepts language line = true) :
    imports.accepts language (language.withComment line comment) = true ↔
      '\x7d' ∉ comment ∨ language.isSettledImport line = true ∨
        ImportTable.requireCall.search (" //".toList ++ comment) = true := by
  by_cases settled : language.isSettledImport line = true
  · exact iff_of_true (accepts_withComment_of_isSettledImport accepted settled) (.inr (.inl settled))
  · have shapes : imports.shapes language = ImportTable.js := script
    have unfound : ∀ shape ∈ ImportTable.js, shape.settled = true → ¬ shape.search line = true :=
      fun shape mem open' found =>
        settled (Language.isSettledImport_iff.2 ⟨shape, script ▸ mem, open', found⟩)
    have list : ImportTable.listImport.search line = true := by
      obtain ⟨-, shape, mem, found⟩ := accepts_iff.1 accepted
      rw [shapes] at mem
      have among := mem
      simp only [ImportTable.js_eq, List.mem_cons, List.not_mem_nil, or_false] at among
      rcases among with rfl | rfl | rfl | rfl
      · exact absurd found (unfound _ mem (by decide))
      · exact found
      · exact absurd found (unfound _ mem (by decide))
      · exact absurd found (unfound _ mem (by decide))
    have noName : ¬ ImportTable.namedImport.search line = true :=
      unfound _ (by simp [ImportTable.js_eq]) (by decide)
    have noCall : ¬ ImportTable.requireCall.search line = true :=
      unfound _ (by simp [ImportTable.js_eq]) (by decide)
    have brace : '\x7d' ∉ '/' :: comment ↔ '\x7d' ∉ comment := by simp
    rw [accepts_withComment_iff_exists accepted, shapes, Language.withComment, mark,
      iff_false_intro settled]
    have longer := @ImportTable.exists_search_append_iff_of_listImport line ('/' :: comment) list
    rw [iff_false_intro noName, iff_false_intro noCall, brace] at longer
    simpa using longer

theorem accepts_withComment_go_iff (accepted : imports.accepts .go line = true) :
    imports.accepts .go (Language.go.withComment line comment) = true ↔
      Language.go.isSettledImport line = true := by
  refine ⟨fun longer => ?_, accepts_withComment_of_isSettledImport accepted⟩
  have stays : StaysBefore '/' ImportTable.statementImport := by decide
  have shapes : imports.shapes .go = [ImportTable.statementImport, ImportTable.blockImport] :=
    ImportTable.go_eq
  have statement : ImportTable.statementImport.search line = true := by
    obtain ⟨-, found⟩ := accepts_iff.1 accepted
    have foundLonger := (accepts_withComment_iff_exists accepted).1 longer
    rw [shapes] at found foundLonger
    simp only [List.exists_mem_cons_iff, List.not_mem_nil, false_and, exists_false, or_false]
      at found foundLonger
    rcases found with statement | block
    · exact statement
    · rcases foundLonger with statement | again
      · exact (stays.search_append_iff_of_anchored (anchored_indent.row_cons _)).1 statement
      · have never := @ImportTable.not_search_blockImport_append line ('/' :: comment) block
        exact absurd again (Bool.eq_false_iff.1 never)
  exact Language.isSettledImport_iff.2 ⟨_, List.mem_cons_self .., stays.settled, statement⟩

/-- A line that carries a signal carries it with a comment at its end, unless its shapes ask for the
end of the line. -/
theorem accepts_withComment_iff (accepted : check.accepts language line = true) :
    check.accepts language (language.withComment line comment) = true ↔
      Survives check language line comment := by
  have always (settled : (check, language) ∉ unsettled) :
      check.accepts language (language.withComment line comment) = true ↔ True :=
    iff_true_intro (accepts_withComment accepted settled)
  cases check with
  | functions =>
      cases language with
      | java => exact accepts_withComment_java_iff accepted
      | js | ts | py | go | rust | ruby => exact always (by decide)
  | imports =>
      cases language with
      | js => exact accepts_withComment_script_iff rfl rfl accepted
      | ts => exact accepts_withComment_script_iff rfl rfl accepted
      | go => exact accepts_withComment_go_iff accepted
      | py | java | rust | ruby => exact always (by decide)
  | tests => cases language <;> exact always (by decide)

/-- The header of a method keeps its signal if the comment ends in a bracket, and loses it else. -/
theorem accepts_withComment_iff_size :
    functions.accepts .java "int size() \x7b".toList = true ∧
      Language.java.withComment "int size() \x7b".toList " as in grow()".toList =
        "int size() \x7b // as in grow()".toList ∧
      functions.accepts .java "int size() \x7b // as in grow()".toList = true ∧
      functions.accepts .java "int size() \x7b // cached".toList = false := by
  have accepted : functions.accepts .java "int size() \x7b".toList = true := by decide
  have survives (comment : Text) :
      functions.accepts .java (Language.java.withComment "int size() \x7b".toList comment) = true ↔
        Survives functions .java "int size() \x7b".toList comment :=
    accepts_withComment_iff accepted
  refine ⟨accepted, by decide, ?_, Bool.eq_false_iff.2 fun found => ?_⟩
  · have ends : (row JavaHead.methodEnd).search " as in grow()".toList = true := by decide
    exact (survives " as in grow()".toList).2 ⟨by decide, .inr ends⟩
  · obtain ⟨-, declared | ends⟩ := (survives " cached".toList).1 found
    · exact absurd declared (by decide)
    · exact absurd ends (by decide)

/-- A comment behind a quoted path hides the import. -/
theorem not_accepts_withComment_fmt :
    imports.accepts .go "\"fmt\"".toList = true ∧ '\n' ∉ "\"fmt\"".toList ∧
      '\n' ∉ " text".toList ∧
      Language.go.withComment "\"fmt\"".toList " text".toList = "\"fmt\" // text".toList ∧
      imports.accepts .go "\"fmt\" // text".toList = false := by
  decide

end Check

end PatchSurvey
