import PatchSurvey.Proofs.Pattern.Ends
import PatchSurvey.Signal.ImportTable

/-! # Imports and the end of a line

One import shape of the script languages and one of Go ask for the end of the line. What
a comment at the end of the line does to them is settled by what the shape leaves of the
line before the comment. -/

namespace PatchSurvey

open Pattern Text

namespace ImportTable

/-! ## Go -/

/-- A quoted path of Go up to the path. -/
def quotedPath : List Pattern :=
  [indent,
    optional (row [unlessNext (row [exactly "return", wordEdge]), oneOrMore (wordOr "."), gap])]

/-- What follows a quoted path. -/
def pathEnd : List Pattern :=
  [blanks] ++ [textEnd]

/-- A quoted path inside a block of Go. -/
def blockImport : Pattern :=
  row (quotedPath ++ exactly "\"" :: oneOrMore (wordOr ".~/-") :: exactly "\"" :: pathEnd)

/-- An import with its keyword in Go. -/
def statementImport : Pattern :=
  row [indent, keyword "import",
    either (exactly "(") (row [optional (row [oneOrMore (wordOr "."), gap]), exactly "\""])]

theorem go_eq : ImportTable.go = [statementImport, blockImport] :=
  rfl

variable {line comment : Text}

/-- A quoted path runs from the first quote to the second, and only blanks follow it. -/
theorem exists_append_of_search_blockImport (found : blockImport.search line = true) :
    ∃ front path rest, line = front ++ '"' :: (path ++ '"' :: rest) ∧ '"' ∉ front ∧ '"' ∉ path ∧
      '/' ∉ rest := by
  obtain ⟨b, spans⟩ := (anchored_indent.row_cons _).exists_of_search found
  obtain ⟨m, before, spans⟩ := (@spans_row_append _ _ quotedPath _).1 spans
  obtain ⟨n, opening, spans⟩ := spans_row_cons.1 spans
  obtain ⟨p, named, spans⟩ := spans_row_cons.1 spans
  obtain ⟨q, closing, ends⟩ := spans_row_cons.1 spans
  obtain ⟨front, noQuote, reads⟩ := before.exists_reads_of_avoids (x := '"') (by decide)
  obtain ⟨path, noQuoteInPath, readsPath⟩ :=
    named.exists_reads_of_avoids (x := '"') (by decide)
  have atPath : m.rest = '"' :: n.rest := (spans_exactly_iff.1 opening).ahead
  have behindPath : p.rest = '"' :: q.rest := (spans_exactly_iff.1 closing).ahead
  have ahead : pathEnd.any looksBack = false := by decide
  have begun : begins pathEnd q.rest = true := (begins_iff ahead).2 ⟨b, ends⟩
  refine ⟨front, path, q.rest, ?_, noQuote, noQuoteInPath,
    not_mem_of_begins_toEnd (by decide) (by decide) (by decide) begun⟩
  rw [← behindPath, ← readsPath.ahead, ← atPath]
  exact reads.ahead

/-- Behind a quoted path there is no place for a comment. -/
theorem not_search_blockImport_append (found : blockImport.search line = true) :
    blockImport.search (line ++ ' ' :: '/' :: comment) = false := by
  refine Bool.eq_false_iff.2 fun again => ?_
  obtain ⟨front, path, rest, rfl, noQuote, noQuoteInPath, -⟩ :=
    exists_append_of_search_blockImport found
  obtain ⟨other, otherPath, behind, whole, noQuoteOther, noQuoteInOther, noSlash⟩ :=
    exists_append_of_search_blockImport again
  rw [List.append_assoc, List.cons_append, List.append_assoc, List.cons_append] at whole
  have paths := rest_inj_of_not_mem whole noQuote noQuoteOther
  rw [← rest_inj_of_not_mem paths noQuoteInPath noQuoteInOther] at noSlash
  exact noSlash (by simp)

/-! ## Script languages -/

/-- An import with its module on the same line. -/
def namedImport : Pattern :=
  row [indent, keyword "import", modifier "type",
    optional (row [oneOrMore (one fun c =>
      isWord c || isBlank c || "*\x7b\x7d,$".toList.contains c),
      gap, exactly "from", gap]),
    quote]

/-- An import of a list of names up to the list. -/
def listStart : List Pattern :=
  [indent, keyword "import", modifier "type", exactly "\x7b"]

/-- An import of a list that does not end on the line. -/
def listImport : Pattern :=
  row (listStart ++ [many (except "\x7d"), textEnd])

/-- An export of what is imported from a module. -/
def reexport : Pattern :=
  row [indent, keyword "export", modifier "type",
    either (exactly "*") (enclosed "\x7b" "\x7d" "\x7d"),
    optional (row [gap, exactly "as", gap, name]), gap, exactly "from", gap, quote]

/-- A call that loads a module. -/
def requireCall : Pattern :=
  row [wordEdge, exactly "require", blanks, exactly "(", blanks, among "'\"`"]

theorem js_eq : ImportTable.js = [namedImport, listImport, reexport, requireCall] :=
  rfl

theorem staysBefore_listStart : StaysBefore '/' (row listStart) := by
  decide

theorem search_listImport_iff :
    listImport.search line = true ↔ ∃ rest, Leaves (row listStart) line rest ∧ '\x7d' ∉ rest :=
  search_toEnd_iff (anchored_indent.row_cons _) rfl (by decide)

/-- A list goes on if the comment has no closing brace. -/
theorem search_listImport_append_iff (found : listImport.search line = true) :
    listImport.search (line ++ ' ' :: '/' :: comment) = true ↔ '\x7d' ∉ comment := by
  rw [search_listImport_iff]
  constructor
  · rintro ⟨rest, leaves, free⟩
    obtain ⟨before, -, rfl⟩ := staysBefore_listStart.leaves_append_iff.1 leaves
    exact fun mem => free (by simp [mem])
  · intro free
    obtain ⟨before, leaves, freeBefore⟩ := search_listImport_iff.1 found
    refine ⟨_, staysBefore_listStart.leaves_append_iff.2 ⟨before, leaves, rfl⟩, ?_⟩
    simp [freeBefore, free]

/-- A line that begins an import does not become an export. -/
theorem not_search_reexport_append (found : listImport.search line = true) :
    reexport.search (line ++ ' ' :: '/' :: comment) = false := by
  have imports : Opened ["import".toList] (row listStart.tail) :=
    (opened_keyword (by decide) (by decide)).row_cons _
  have exports : Opened ["export".toList] (row [keyword "export", modifier "type",
      either (exactly "*") (enclosed "\x7b" "\x7d" "\x7d"),
      optional (row [gap, exactly "as", gap, name]), gap, exactly "from", gap, quote]) :=
    (opened_keyword (by decide) (by decide)).row_cons _
  obtain ⟨rest, leaves, -⟩ := search_listImport_iff.1 found
  have longer : (row listStart).search (line ++ ' ' :: '/' :: comment) = true :=
    search_append staysBefore_listStart.settled rfl leaves.search
  exact imports.not_search_of_search exports (by decide) longer

/-- What becomes of a list that goes on when a comment is added. -/
theorem exists_search_append_iff_of_listImport (found : listImport.search line = true) :
    (∃ shape ∈ ImportTable.js, shape.search (line ++ ' ' :: '/' :: comment) = true) ↔
      '\x7d' ∉ comment ∨ namedImport.search line = true ∨ requireCall.search line = true ∨
        requireCall.search (' ' :: '/' :: comment) = true := by
  have named : StaysBefore '/' namedImport := by decide
  have required : StaysBefore '/' requireCall := by decide
  have anchored : Anchored namedImport := anchored_indent.row_cons _
  simp only [js_eq, List.exists_mem_cons_iff, List.not_mem_nil, false_and, exists_false, or_false,
    search_listImport_append_iff found, not_search_reexport_append found, Bool.false_eq_true,
    false_or, named.search_append_iff_of_anchored anchored, required.search_append_iff]
  exact or_left_comm

end ImportTable

end PatchSurvey
