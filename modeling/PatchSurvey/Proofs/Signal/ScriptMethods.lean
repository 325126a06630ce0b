import PatchSurvey.Proofs.Signal.ControlFlow
import PatchSurvey.Proofs.Signal.ScriptHeaders

/-! # Method headers of scripts

A method header is written with modifiers, a star, a name, parameters and an opening
brace. It is recognised in both script languages, whatever its name is, unless the name
stands first and is a keyword of control flow. -/

namespace PatchSurvey

open Pattern Text

/-- A kind of access to a property. -/
inductive Accessor where
  | get
  | set
deriving DecidableEq, Repr

/-- The word before an accessor. -/
def Accessor.word : Accessor → String
  | .get => "get"
  | .set => "set"

/-- A word with the gap behind it, where it stands. -/
def modifierText (word : String) : Option Gap → Text
  | none => []
  | some gap => word.toList ++ gap.text

/-- The header of a method, as it is written in a class. -/
structure MethodHeader where
  indent : Blanks
  static : Option Gap
  async : Option Gap
  accessor : Option (Accessor × Gap)
  /-- The blanks behind the star. -/
  star : Option Blanks
  name : Word
  before : Blanks
  parameters : Text
  after : Blanks
  body : Text
  flat : ∀ c ∈ parameters, c ∉ "()".toList

namespace MethodHeader

/-- What stands before the name. -/
def modifiersText (header : MethodHeader) : Text :=
  modifierText "static" header.static ++ (modifierText "async" header.async ++
    (header.accessor.elim [] (fun accessor => accessor.1.word.toList ++ accessor.2.text) ++
      header.star.elim [] (fun blanks => '*' :: blanks.text)))

/-- The header from its name to its brace. -/
def signatureText (header : MethodHeader) : Text :=
  header.name.text ++ (header.before.text ++
    (("(".toList ++ (header.parameters ++ ")".toList)) ++ (header.after.text ++ "\x7b".toList)))

/-- The line that the header begins. -/
def text (header : MethodHeader) : Text :=
  header.indent.text ++ (header.modifiersText ++ header.signatureText ++ header.body)

/-- The tokens before the name. -/
def leading (header : MethodHeader) : List Text :=
  (header.static.map fun _ => "static".toList).toList ++
    ((header.async.map fun _ => "async".toList).toList ++
      ((header.accessor.map fun accessor => accessor.1.word.toList).toList ++
        (header.star.map fun _ => ['*']).toList))

end MethodHeader

/-! ## The header is covered -/

theorem covers_modifier (word : String) (gap : Option Gap) :
    Covers (modifier word) (modifierText word gap) := by
  cases gap with
  | none => exact covers_optional_nil
  | some gap => exact (covers_keyword word gap).optional

namespace MethodHeader

/-- The modifiers of a method in JavaScript. -/
def modifierPieces : List Pattern :=
  [modifier "static", modifier "async", optional (either (keyword "get") (keyword "set")),
    mark "*", blanks]

/-- A method of JavaScript from its name to its brace. -/
def signaturePieces : List Pattern :=
  [Pattern.name, blanks, enclosed "(" "()" ")", blanks, exactly "\x7b"]

theorem covers_modifiersText (header : MethodHeader) :
    Covers (row modifierPieces) header.modifiersText := by
  have accessor : Covers (optional (either (keyword "get") (keyword "set")))
      (header.accessor.elim [] fun accessor => accessor.1.word.toList ++ accessor.2.text) := by
    rcases header.accessor with _ | ⟨_ | _, gap⟩
    · exact covers_optional_nil
    · exact (covers_keyword "get" gap).either_left.optional
    · exact (covers_keyword "set" gap).either_right.optional
  have star : Covers (row [mark "*", blanks])
      (header.star.elim [] fun blanks => '*' :: blanks.text) := by
    rcases header.star with _ | stars
    · exact .row_skip covers_optional_nil covers_blanks_nil.row_singleton
    · exact (covers_exactly "*").optional.row_cons (covers_blanks stars).row_singleton
  exact (covers_modifier "static" _).row_cons
    ((covers_modifier "async" _).row_cons (accessor.row_cons star))

theorem covers_signatureText (header : MethodHeader) :
    Covers (row signaturePieces) header.signatureText :=
  (covers_name header.name).row_cons ((covers_blanks header.before).row_cons
    ((covers_enclosed header.flat).row_cons ((covers_blanks header.after).row_cons
      (covers_exactly "\x7b").row_singleton)))

/-- The method shape of JavaScript. -/
theorem method_mem_js :
    (.method, row (Pattern.indent :: (modifierPieces ++ signaturePieces))) ∈ HeaderTable.js := by
  simp [HeaderTable.js, modifierPieces, signaturePieces]

theorem search_text (header : MethodHeader) :
    (row (Pattern.indent :: (modifierPieces ++ signaturePieces))).search header.text = true :=
  (header.covers_modifiersText.row_append header.covers_signatureText).search_indent
    header.indent header.body

end MethodHeader

/-! ## The header is no control flow -/

namespace MethodHeader

/-- No modifier can begin control flow, and no star. -/
theorem not_mem_starts_of_mem_leading {header : MethodHeader} {token : Text}
    (mem : token ∈ header.leading) : token ∉ steeringStarts := by
  have apart : ∀ token ∈ ["static".toList, "async".toList, "get".toList, "set".toList, ['*']],
      token ∉ steeringStarts := by
    decide
  have spelled : ∀ accessor : Accessor,
      accessor.word.toList ∈ ["static".toList, "async".toList, "get".toList, "set".toList, ['*']] := by
    rintro (_ | _) <;> decide
  refine apart token ?_
  simp only [leading, List.mem_append, Option.mem_toList, Option.map_eq_some_iff] at mem
  rcases mem with ⟨_, -, rfl⟩ | ⟨_, -, rfl⟩ | ⟨⟨accessor, _⟩, -, rfl⟩ | ⟨_, -, rfl⟩
  · decide
  · decide
  · exact spelled accessor
  · decide

theorem tokens_modifierText_append (word : String) (row : IsWordRow word.toList)
    (gap : Option Gap) (text : Text) :
    tokens (modifierText word gap ++ text) =
      (gap.map fun _ => word.toList).toList ++ tokens text := by
  cases gap with
  | none => rfl
  | some gap =>
      rw [modifierText, List.append_assoc, tokens_word_append row (gap.isWord_head?_append text),
        gap.tokens_append]
      rfl

/-- The name is a token of its own, and the next one is the bracket. -/
theorem exists_tokens_signatureText_append (header : MethodHeader) (text : Text) :
    ∃ rest, tokens (header.signatureText ++ text) = header.name.text :: ['('] :: rest := by
  have bracket (rest : Text) : tokens (header.before.text ++ ('(' :: rest)) =
      ['('] :: tokens rest := by
    rw [header.before.tokens_append, tokens_sign_cons (by decide) (by decide)]
  refine ⟨tokens (header.parameters ++ (')' :: (header.after.text ++ ('\x7b' :: text)))), ?_⟩
  rw [← bracket, ← tokens_word_append header.name.row
    (not_isWord_head_of_tokens (bracket _) (by decide))]
  simp [signatureText]

theorem exists_tokens_text (header : MethodHeader) :
    ∃ rest, tokens header.text = header.leading ++ (header.name.text :: ['('] :: rest) := by
  obtain ⟨rest, signature⟩ := header.exists_tokens_signatureText_append header.body
  have star : tokens (header.star.elim [] (fun blanks => '*' :: blanks.text) ++
      (header.signatureText ++ header.body)) = (header.star.map fun _ => ['*']).toList ++
        tokens (header.signatureText ++ header.body) := by
    rcases header.star with _ | stars
    · rfl
    · rw [Option.elim_some, List.cons_append, tokens_sign_cons (by decide) (by decide),
        stars.tokens_append]
      rfl
  have accessor (text : Text) :
      tokens (header.accessor.elim [] (fun accessor => accessor.1.word.toList ++ accessor.2.text) ++
        text) = (header.accessor.map fun accessor => accessor.1.word.toList).toList ++
          tokens text := by
    rcases header.accessor with _ | ⟨_ | _, gap⟩
    · rfl
    · exact tokens_modifierText_append "get" (by decide) (some gap) text
    · exact tokens_modifierText_append "set" (by decide) (some gap) text
  refine ⟨rest, ?_⟩
  rw [text, header.indent.tokens_append, modifiersText, leading]
  simp only [List.append_assoc]
  rw [tokens_modifierText_append _ (by decide), tokens_modifierText_append _ (by decide), accessor,
    star, signature]

end MethodHeader

namespace MethodHeader

/-- A header whose name is no reserved word, or does not stand first, is no control flow. -/
theorem isControlFlow_text (header : MethodHeader)
    (free : header.leading = [] → header.name.text ∉ reservedWords.map String.toList) :
    isControlFlow header.text = false := by
  refine Bool.eq_false_iff.2 fun found => ?_
  have steers := steers_of_isControlFlow found
  obtain ⟨rest, whole⟩ := header.exists_tokens_text
  rw [whole] at steers
  cases first : header.leading with
  | nil =>
      rw [first] at steers
      exact free first (steers.mem_reservedWords header.name.row)
  | cons token more =>
      have among : token ∈ header.leading := by simp [first]
      rw [first] at steers
      exact not_mem_starts_of_mem_leading among steers.mem_starts

end MethodHeader

/-! ## The header is recognised -/

/-- A method header is recognised in both script languages if its name is no reserved word, or does
not stand first. -/
theorem headerForm?_methodHeader (header : MethodHeader)
    (free : header.leading = [] → header.name.text ∉ reservedWords.map String.toList) :
    Language.js.headerForm? header.text = some .method ∧
      Language.ts.headerForm? header.text = some .method := by
  have js : Language.js.headerForm? header.text = some .method := by
    rw [Language.headerForm?, header.isControlFlow_text free, if_neg Bool.false_ne_true]
    exact HeaderTable.find?_of_unique (fun _ mem => HeaderTable.shownForm_of_mem_js mem)
      MethodHeader.method_mem_js header.search_text
  exact ⟨js, Language.headerForm?_ts_of_js js⟩

/-- A method that is named like the statement that deletes. -/
def deleteMethod : MethodHeader where
  indent := ⟨['\t'], rfl⟩
  static := none
  async := none
  accessor := none
  star := none
  name := ⟨"delete".toList, by decide⟩
  before := Gap.space.toBlanks
  parameters := "id, \x7b all = [] \x7d".toList
  after := .none
  body := " drop(id) \x7d".toList
  flat := List.all_iff_forall_prop.1 (by decide)

/-- A method with all modifiers that is named by a keyword. -/
def whileMethod : MethodHeader where
  indent := .none
  static := some .space
  async := some ⟨⟨['\t'], rfl⟩, by decide⟩
  accessor := some (.get, .space)
  star := some .none
  name := ⟨"while".toList, by decide⟩
  before := .none
  parameters := []
  after := Gap.space.toBlanks
  body := []
  flat := List.forall_mem_nil _

/-- A name at the start that is not reserved, and a reserved name behind modifiers. -/
theorem headerForm?_methodHeader_delete_while :
    deleteMethod.text = "\tdelete (id, \x7b all = [] \x7d)\x7b drop(id) \x7d".toList ∧
      deleteMethod.leading = [] ∧
      deleteMethod.name.text ∉ reservedWords.map String.toList ∧
      Language.js.headerForm? deleteMethod.text = some .method ∧
      Language.ts.headerForm? deleteMethod.text = some .method ∧
      whileMethod.text = "static async\tget *while() \x7b".toList ∧
      whileMethod.leading ≠ [] ∧
      Language.js.headerForm? whileMethod.text = some .method ∧
      Language.ts.headerForm? whileMethod.text = some .method := by
  have free : deleteMethod.name.text ∉ reservedWords.map String.toList := by decide
  have modified : whileMethod.leading ≠ [] := by decide
  obtain ⟨deleteJs, deleteTs⟩ := headerForm?_methodHeader deleteMethod fun _ => free
  obtain ⟨whileJs, whileTs⟩ := headerForm?_methodHeader whileMethod fun none => absurd none modified
  exact ⟨by decide, by decide, free, deleteJs, deleteTs, by decide, modified, whileJs, whileTs⟩

end PatchSurvey
