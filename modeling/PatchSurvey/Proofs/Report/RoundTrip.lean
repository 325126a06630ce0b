import Mathlib.Data.List.Forall2
import Mathlib.Data.List.Nodup
import PatchSurvey.Proofs.Json.RoundTrip
import PatchSurvey.Proofs.Report.Checked
import PatchSurvey.Report.Record

/-! # Records that are written and checked

A record is read from its text and checked to be itself, at every indentation. So it
is if keys at any depth are respelled from the wire name of a field to its plain name. -/

namespace PatchSurvey

/-! ## Names of fields -/

namespace Field

/-- The key is a name of the field. -/
def IsName (field : Field) (key : Text) : Prop :=
  key = field.wire ∨ key = field.plain

/-- All fields. -/
def all : List Field :=
  [addedLines, deletedLines, filename, language, isTestFile, functionMatches, importMatches,
    testDeclarationMatches, languageSupported, hasNewFunctions, matchedLines, lineNumbers,
    lineNumber, content]

/-- The field of a name. -/
def named? (key : Text) : Option Field :=
  all.find? fun field => field.wire = key || field.plain = key

theorem mem_all (field : Field) : field ∈ all := by
  cases field <;> decide

/-- A name tells its field. -/
theorem IsName.named?_eq {field : Field} {key : Text} (name : field.IsName key) :
    named? key = some field := by
  have told : ∀ field ∈ all, named? field.wire = some field ∧ named? field.plain = some field := by
    decide +kernel
  obtain ⟨wire, plain⟩ := told field (mem_all field)
  obtain rfl | rfl := name
  · exact wire
  · exact plain

theorem IsName.unique {field other : Field} {key : Text} (name : field.IsName key)
    (second : other.IsName key) : field = other :=
  Option.some.inj (name.named?_eq.symm.trans second.named?_eq)

theorem wire_injective : Function.Injective wire := by
  intro field other same
  exact IsName.unique (.inl rfl) (.inl same)

end Field

/-! ## Respelled keys -/

/-- The other key is the same, or the plain name in place of the wire name of a field. -/
def RespelledKey (key other : Text) : Prop :=
  other = key ∨ ∃ field : Field, key = field.wire ∧ other = field.plain

/-- A respelled name of a field is a name of it. -/
theorem RespelledKey.isName {field : Field} {key : Text} (respelled : RespelledKey field.wire key) :
    field.IsName key := by
  obtain same | ⟨other, wire, plain⟩ := respelled
  · exact .inl same
  · rw [(Field.IsName.unique (.inl rfl) (.inl wire) : field = other)]
    exact .inr plain

namespace Json

/-- The other value is the first with some keys, at any depth, respelled from the wire name
of a field to its plain name. -/
inductive Respelled : Json → Json → Prop
  | same (value : Json) : Respelled value value
  | array {items others : List Json} (each : List.Forall₂ Respelled items others) :
      Respelled (array items) (array others)
  | object {members others : List (Text × Json)}
      (keys : List.Forall₂ (fun member other => RespelledKey member.1 other.1) members others)
      (values : List.Forall₂ (fun member other => Respelled member.2 other.2) members others) :
      Respelled (object members) (object others)

theorem Respelled.exists_items {items : List Json} {other : Json}
    (respelled : Respelled (.array items) other) :
    ∃ others, other = .array others ∧ List.Forall₂ Respelled items others := by
  cases respelled with
  | same => exact ⟨items, rfl, List.forall₂_same.2 fun item _ => .same item⟩
  | array each => exact ⟨_, rfl, each⟩

/-- A member that stands for the value of a field. -/
def SpellsField (entry : Field × Json) (member : Text × Json) : Prop :=
  entry.1.IsName member.1 ∧ Respelled entry.2 member.2

theorem Respelled.exists_members (fields : List (Field × Json)) {other : Json}
    (respelled : Respelled (.object (fields.map fun entry => (entry.1.wire, entry.2))) other) :
    ∃ members, other = .object members ∧ List.Forall₂ SpellsField fields members := by
  cases respelled with
  | same =>
      refine ⟨_, rfl, List.forall₂_map_right_iff.2 (List.forall₂_same.2 ?_)⟩
      exact fun entry _ => ⟨.inl rfl, .same entry.2⟩
  | @object _ others keys values =>
      rw [List.forall₂_map_left_iff, List.forall₂_iff_zip] at keys values
      refine ⟨others, rfl, List.forall₂_iff_zip.2 ⟨keys.1, ?_⟩⟩
      exact fun mem => ⟨(keys.2 mem).isName, values.2 mem⟩

/-- All keys of an object may be respelled. -/
theorem respelled_plain (fields : List (Field × Json)) :
    Respelled (.object (fields.map fun entry => (entry.1.wire, entry.2)))
      (.object (fields.map fun entry => (entry.1.plain, entry.2))) := by
  apply Respelled.object
  · rw [List.forall₂_map_left_iff, List.forall₂_map_right_iff]
    exact List.forall₂_same.2 fun entry _ => .inr ⟨entry.1, rfl, rfl⟩
  · rw [List.forall₂_map_left_iff, List.forall₂_map_right_iff]
    exact List.forall₂_same.2 fun entry _ => .same entry.2

end Json

/-! ## Values of fields -/

namespace Record

open Json (Respelled SpellsField)

variable {members : Dictionary Json} {field : Field}

/-- A member with a name of the field comes before members of other fields. -/
theorem find?_cons_of_isName {key : Text} (name : field.IsName key) (value : Json)
    (others : ∀ member ∈ members, ¬ field.IsName member.1) :
    find? ((key, value) :: members) field = some value := by
  have absent (name : Text) (isName : field.IsName name) : members.get? name = none :=
    Dictionary.get?_eq_none fun member mem same => others member mem (same ▸ isName)
  simp only [find?, Dictionary.get?, absent _ (.inl rfl), absent _ (.inr rfl)]
  obtain rfl | rfl := name
  · rw [if_pos rfl, Option.some_or]
  · rw [if_pos rfl]
    split <;> rfl

theorem find?_cons_of_not_isName {key : Text} (other : ¬ field.IsName key) (value : Json) :
    find? ((key, value) :: members) field = find? members field := by
  obtain ⟨noWire, noPlain⟩ := not_or.1 other
  simp only [find?, Dictionary.get?, if_neg noWire, if_neg noPlain]

/-- The keys tell the fields in their order. -/
theorem map_named?_of_spells {fields : List (Field × Json)}
    (spells : List.Forall₂ SpellsField fields members) :
    members.map (fun member => Field.named? member.1) = fields.map (fun entry => some entry.1) := by
  induction spells with
  | nil => rfl
  | cons first _ ih => rw [List.map_cons, List.map_cons, ih, first.1.named?_eq]

/-- The value of a field is found under each of its names. -/
theorem exists_find?_of_spells {fields : List (Field × Json)} {value : Json}
    (spells : List.Forall₂ SpellsField fields members)
    (distinct : (fields.map (·.1)).Nodup) (mem : (field, value) ∈ fields) :
    ∃ other, find? members field = some other ∧ Respelled value other := by
  induction spells with
  | nil => cases mem
  | @cons entry member fields members first rest ih =>
      rw [List.map_cons, List.nodup_cons] at distinct
      obtain ⟨new, distinct⟩ := distinct
      obtain ⟨name, respelled⟩ := first
      obtain rfl | mem := List.mem_cons.1 mem
      · refine ⟨member.2, find?_cons_of_isName name member.2 ?_, respelled⟩
        intro other mem isName
        apply new
        have told : some field ∈ members.map fun member => Field.named? member.1 :=
          List.mem_map.2 ⟨other, mem, isName.named?_eq⟩
        rw [map_named?_of_spells rest, List.mem_map] at told
        obtain ⟨entry, mem, same⟩ := told
        exact List.mem_map.2 ⟨entry, mem, Option.some.inj same⟩
      · have otherName : ¬ field.IsName member.1 := by
          intro isName
          apply new
          rw [name.unique isName]
          exact List.mem_map_of_mem mem
        rw [find?_cons_of_not_isName otherName]
        exact ih distinct mem

/-! ## Checks -/

/-- A field is checked by the value under one of its names. -/
theorem checkField_of_spells {α : Type} {fields : List (Field × Json)} {value : Json} {result : α}
    {check : Json → Checked α} {default : Option α}
    (spells : List.Forall₂ SpellsField fields members)
    (distinct : (fields.map (·.1)).Nodup) (mem : (field, value) ∈ fields)
    (valid : ∀ other, Respelled value other → check other = .valid result) :
    checkField members field check default = .valid result := by
  obtain ⟨other, found, respelled⟩ := exists_find?_of_spells spells distinct mem
  simp only [checkField, found, valid other respelled, Checked.under]

/-- A list is checked item by item, whatever the places are called. -/
theorem map_zip_eq_of_forall₂ {α : Type} {check : Json → Checked α} {items : List α}
    {others : List Json} (valid : List.Forall₂ (fun item other => check other = .valid item) items
      others) {places : List Nat} (enough : places.length = others.length) :
    ((others.zip places).map fun (other, place) => (check other).under (.index place)) =
      items.map Checked.valid := by
  induction valid generalizing places with
  | nil => rfl
  | cons first _ ih =>
      cases places with
      | nil => cases enough
      | cons place places =>
          rw [List.zip_cons_cons, List.map_cons, List.map_cons, ih (Nat.succ.inj enough)]
          simp only [first, Checked.under]

theorem checkList_of_respelled {α : Type} {check : Json → Checked α} {write : α → Json}
    (valid : ∀ item other, Respelled (write item) other → check other = .valid item)
    (items : List α) {other : Json} (respelled : Respelled (.array (items.map write)) other) :
    Json.checkList check other = .valid items := by
  obtain ⟨others, rfl, each⟩ := respelled.exists_items
  have each := (List.forall₂_map_left_iff.1 each).imp valid
  rw [Json.checkList, Checked.all_eq_valid_iff]
  exact map_zip_eq_of_forall₂ each List.length_range

theorem checkString_of_respelled (text : Text) (other : Json)
    (respelled : Respelled (.string text) other) : other.checkString = .valid text := by
  cases respelled
  rfl

theorem checkInteger_of_respelled (n : Int) (other : Json)
    (respelled : Respelled (.integer n) other) : other.checkInteger = .valid n := by
  cases respelled
  rfl

theorem checkBool_of_respelled (value : Bool) (other : Json)
    (respelled : Respelled (.bool value) other) : other.checkBool = .valid value := by
  cases respelled
  rfl

/-! ## Records -/

/-- The fields of a changed line with their values. -/
def lineFields (line : ChangedLine) : List (Field × Json) :=
  [(.lineNumber, .integer line.number), (.content, .string line.content)]

/-- The fields of a record of functions with their values. -/
def functionFields (functions : FunctionRecord) : List (Field × Json) :=
  [(.hasNewFunctions, .bool functions.hasNewFunctions),
    (.matchedLines, textsJson functions.matchedLines),
    (.lineNumbers, .array (functions.lineNumbers.map .integer))]

/-- The fields of a record with their values. -/
def fields (record : Record) : List (Field × Json) := [
  (.addedLines, .array (record.addedLines.map lineJson)),
  (.deletedLines, .array (record.deletedLines.map lineJson)),
  (.filename, match record.filename with
    | some name => .string name
    | none => .null),
  (.language, .string record.language),
  (.isTestFile, .bool record.isTestFile),
  (.functionMatches, functionsJson record.functionMatches),
  (.importMatches, textsJson record.importMatches),
  (.testDeclarationMatches, textsJson record.testDeclarationMatches),
  (.languageSupported, .bool record.languageSupported)]

theorem checkLine_of_respelled (line : ChangedLine) (other : Json)
    (respelled : Respelled (lineJson line) other) : checkLine other = .valid line := by
  obtain ⟨members, rfl, spells⟩ := Respelled.exists_members (lineFields line) respelled
  have distinct : ((lineFields line).map (·.1)).Nodup := by simp [lineFields]
  have number : checkField members .lineNumber Json.checkInteger none = .valid line.number :=
    checkField_of_spells spells distinct (by simp [lineFields])
      (checkInteger_of_respelled line.number)
  have content : checkField members .content Json.checkString none = .valid line.content :=
    checkField_of_spells spells distinct (by simp [lineFields])
      (checkString_of_respelled line.content)
  simp only [checkLine, checkMembers, number, content, Checked.map, Checked.both]

theorem checkTexts_of_respelled (texts : List Text) (other : Json)
    (respelled : Respelled (textsJson texts) other) :
    Json.checkList Json.checkString other = .valid texts :=
  checkList_of_respelled checkString_of_respelled texts respelled

theorem checkFunctions_of_respelled (functions : FunctionRecord) (other : Json)
    (respelled : Respelled (functionsJson functions) other) :
    checkFunctions other = .valid functions := by
  obtain ⟨members, rfl, spells⟩ := Respelled.exists_members (functionFields functions) respelled
  have distinct : ((functionFields functions).map (·.1)).Nodup := by simp [functionFields]
  have new : checkField members .hasNewFunctions Json.checkBool none =
      .valid functions.hasNewFunctions :=
    checkField_of_spells spells distinct (by simp [functionFields])
      (checkBool_of_respelled functions.hasNewFunctions)
  have lines : checkField members .matchedLines (Json.checkList Json.checkString) (some []) =
      .valid functions.matchedLines :=
    checkField_of_spells spells distinct (by simp [functionFields])
      (checkTexts_of_respelled functions.matchedLines)
  have numbers : checkField members .lineNumbers (Json.checkList Json.checkInteger) (some []) =
      .valid functions.lineNumbers :=
    checkField_of_spells spells distinct (by simp [functionFields])
      fun _ => checkList_of_respelled checkInteger_of_respelled functions.lineNumbers
  simp only [checkFunctions, checkMembers, new, lines, numbers, Checked.map, Checked.both]

theorem checkOptionalString_of_respelled (name : Option Text) (other : Json)
    (respelled : Respelled (match name with
      | some name => .string name
      | none => .null) other) : other.checkOptionalString = .valid name := by
  cases name with
  | none =>
      cases respelled
      rfl
  | some name =>
      cases respelled
      rfl

/-- A record is checked to be itself under every spelling of its keys. -/
theorem check_of_respelled (record : Record) (other : Json)
    (respelled : Respelled record.toJson other) : check other = .valid record := by
  obtain ⟨members, rfl, spells⟩ := Respelled.exists_members record.fields respelled
  have distinct : (record.fields.map (·.1)).Nodup := by simp [fields]
  have lines (field : Field) (lines : List ChangedLine)
      (mem : (field, .array (lines.map lineJson)) ∈ record.fields) :
      checkField members field (Json.checkList checkLine) (some []) = .valid lines :=
    checkField_of_spells spells distinct mem
      fun _ => checkList_of_respelled checkLine_of_respelled lines
  have texts (field : Field) (texts : List Text) (mem : (field, textsJson texts) ∈ record.fields) :
      checkField members field (Json.checkList Json.checkString) (some []) = .valid texts :=
    checkField_of_spells spells distinct mem (checkTexts_of_respelled texts)
  have truth (field : Field) (value : Bool) (mem : (field, .bool value) ∈ record.fields) :
      checkField members field Json.checkBool none = .valid value :=
    checkField_of_spells spells distinct mem (checkBool_of_respelled value)
  have name : checkField members .filename Json.checkOptionalString (some none) =
      .valid record.filename :=
    checkField_of_spells spells distinct (by simp [fields])
      (checkOptionalString_of_respelled record.filename)
  have language : checkField members .language Json.checkString none = .valid record.language :=
    checkField_of_spells spells distinct (by simp [fields])
      (checkString_of_respelled record.language)
  have functions : checkField members .functionMatches checkFunctions none =
      .valid record.functionMatches :=
    checkField_of_spells spells distinct (by simp [fields])
      (checkFunctions_of_respelled record.functionMatches)
  simp only [check, checkMembers, lines .addedLines record.addedLines (by simp [fields]),
    lines .deletedLines record.deletedLines (by simp [fields]), name, language,
    truth .isTestFile record.isTestFile (by simp [fields]), functions,
    texts .importMatches record.importMatches (by simp [fields]),
    texts .testDeclarationMatches record.testDeclarationMatches (by simp [fields]),
    truth .languageSupported record.languageSupported (by simp [fields]), Checked.map, Checked.both]

/-! ## Texts -/

open Json (Legible)

/-- The numbers that a record writes. -/
def numbers (record : Record) : List Int :=
  record.addedLines.map (·.number) ++ record.deletedLines.map (·.number) ++
    record.functionMatches.lineNumbers

variable {room : Nat}

/-- An object with the wire names of fields is legible if the values are. -/
theorem legible_fields {fields : List (Field × Json)} (distinct : (fields.map (·.1)).Nodup)
    (legible : ∀ entry ∈ fields, Legible room entry.2) :
    Legible (room + 1) (.object (fields.map fun entry => (entry.1.wire, entry.2))) := by
  apply Legible.object
  · have keys : (fields.map fun entry => (entry.1.wire, entry.2)).map (·.1) =
        (fields.map (·.1)).map Field.wire := by
      simp only [List.map_map, Function.comp_def]
    rw [keys]
    exact List.Nodup.map Field.wire_injective distinct
  · intro member mem
    obtain ⟨entry, inside, rfl⟩ := List.mem_map.1 mem
    exact legible entry inside

theorem legible_array {α : Type} {write : α → Json} {items : List α}
    (legible : ∀ item ∈ items, Legible room (write item)) :
    Legible (room + 1) (.array (items.map write)) := by
  apply Legible.array
  intro item mem
  obtain ⟨source, inside, rfl⟩ := List.mem_map.1 mem
  exact legible source inside

theorem legible_textsJson (texts : List Text) : Legible (room + 1) (textsJson texts) :=
  legible_array fun text _ => .string text

theorem legible_lineJson (line : ChangedLine)
    (short : (Text.ofNat line.number.natAbs).length ≤ numeralLimit) :
    Legible (room + 1) (lineJson line) := by
  have distinct : ((lineFields line).map (·.1)).Nodup := by simp [lineFields]
  apply legible_fields distinct
  simp only [lineFields, List.forall_mem_cons]
  exact ⟨.integer _ short, .string _, fun _ none => by cases none⟩

theorem legible_functionsJson (functions : FunctionRecord)
    (short : ∀ n ∈ functions.lineNumbers, (Text.ofNat n.natAbs).length ≤ numeralLimit) :
    Legible (room + 2) (functionsJson functions) := by
  have distinct : ((functionFields functions).map (·.1)).Nodup := by simp [functionFields]
  apply legible_fields distinct
  simp only [functionFields, List.forall_mem_cons]
  exact ⟨.bool _, legible_textsJson _, legible_array fun n mem => .integer n (short n mem),
    fun _ none => by cases none⟩

/-- A record can be read from its text if none of its numbers is too long. Three arrays and objects
lie one in the other. -/
theorem legible_toJson {record : Record}
    (short : ∀ n ∈ record.numbers, (Text.ofNat n.natAbs).length ≤ numeralLimit) :
    Legible 3 record.toJson := by
  simp only [numbers, List.forall_mem_append, List.forall_mem_map] at short
  obtain ⟨⟨added, deleted⟩, functions⟩ := short
  have distinct : (record.fields.map (·.1)).Nodup := by simp [fields]
  have name : Legible 2 (match record.filename with
      | some name => .string name
      | none => .null) := by
    cases record.filename with
    | none => exact .null
    | some name => exact .string name
  apply legible_fields distinct
  simp only [fields, List.forall_mem_cons]
  refine ⟨?_, ?_, name, .string _, .bool _, legible_functionsJson _ functions,
    legible_textsJson _, legible_textsJson _, .bool _, fun _ none => by cases none⟩
  · exact legible_array fun line mem => legible_lineJson line (added line mem)
  · exact legible_array fun line mem => legible_lineJson line (deleted line mem)

/-- The record of an analysis is read from its text at every indentation, wherever three arrays and
objects may lie one in the other, and checked to be itself, under every spelling of its keys;
written again it gives the same text. -/
theorem read_write_ofAnalysis (analysis : Analysis)
    (short : ∀ n ∈ (ofAnalysis analysis).numbers, (Text.ofNat n.natAbs).length ≤ numeralLimit)
    (indent : Option Nat) :
    (∀ limit, 3 ≤ limit →
        Json.read limit ((ofAnalysis analysis).write indent) = .ok (ofAnalysis analysis).toJson) ∧
      check (ofAnalysis analysis).toJson = .valid (ofAnalysis analysis) ∧
      (∀ other, Respelled (ofAnalysis analysis).toJson other →
        check other = .valid (ofAnalysis analysis)) ∧
      ∀ checked, check (ofAnalysis analysis).toJson = .valid checked →
        checked.write indent = (ofAnalysis analysis).write indent := by
  have itself := check_of_respelled (ofAnalysis analysis) _ (.same _)
  refine ⟨fun limit => Json.read_write (legible_toJson short) indent, itself,
    check_of_respelled (ofAnalysis analysis), ?_⟩
  intro checked valid
  obtain rfl : ofAnalysis analysis = checked := Checked.valid.inj (itself.symm.trans valid)
  rfl

/-- An analysis without a filename, whose lines hold quotes, a backslash, control characters
and characters beyond ASCII. -/
def quoted : Analysis where
  added := [⟨100000000000000000000, "say \"é😀\" \\ \t\u0001".toList⟩, ⟨-3, []⟩]
  deleted := []
  filename := none
  language := "py".toList
  isTestFile := true
  functions := ⟨[⟨100000000000000000000, "def f():".toList⟩], true⟩
  imports := .empty
  tests := .unsupported

/-- It is read from its lines at two blanks, and from plain names throughout. -/
theorem read_write_quoted :
    (∀ n ∈ (ofAnalysis quoted).numbers, (Text.ofNat n.natAbs).length ≤ numeralLimit) ∧
      Json.read 3 ((ofAnalysis quoted).write (some 2)) = .ok (ofAnalysis quoted).toJson ∧
      check (.object ((ofAnalysis quoted).fields.map fun entry => (entry.1.plain, entry.2))) =
        .valid (ofAnalysis quoted) := by
  have short : ∀ n ∈ (ofAnalysis quoted).numbers,
      (Text.ofNat n.natAbs).length ≤ numeralLimit := by decide +kernel
  obtain ⟨reads, -, respelled, -⟩ := read_write_ofAnalysis quoted short (some 2)
  exact ⟨short, reads 3 (Nat.le_refl 3),
    respelled _ (Json.respelled_plain (ofAnalysis quoted).fields)⟩

end Record

end PatchSurvey
