import PatchSurvey.Text.Basic
import PatchSurvey.Text.CaseTable
import PatchSurvey.Text.CodeTable

/-! # Letter case

Full case mapping: one letter may become several, and a capital sigma that
ends a word becomes the final form. -/

namespace PatchSurvey.Text

/-- Move a letter by the shift of its run, if the run maps its place. -/
def shiftCase (table : Array CaseRun) (c : Char) : Char :=
  match seek (fun run => (run.first, run.last)) table c.toNat with
  | some run =>
      if (c.toNat - run.first) % run.stride = 0 then
        Char.ofNat (c.toNat + run.shift).toNat
      else c
  | none => c

/-- The lower-case form of one letter, where its place in a word does not matter. -/
def lowerChar (c : Char) : Text :=
  if c.toNat < 0x80 then [c.toLower]
  else if c.toNat = 0x130 then ['i', Char.ofNat 0x307]
  else [shiftCase lowerTable c]

/-- The upper-case form of one letter. -/
def upperChar (c : Char) : Text :=
  if c.toNat < 0x80 then [c.toUpper]
  else match upperSpecial.find? (·.1 = c.toNat) with
    | some (_, letters) => letters.map Char.ofNat
    | none => [shiftCase upperTable c]

/-- The first character that counts for a final sigma is a cased letter. -/
def meetsCased (side : Text) : Bool :=
  match side.dropWhile (listed caseIgnorableTable) with
  | c :: _ => listed casedTable c
  | [] => false

/-- Map the rest of a text to lower case, given the reversed characters before it. -/
def lowerFrom : Text → Text → Text
  | _, [] => []
  | before, c :: rest =>
      let form :=
        if c.toNat = 0x3A3 then
          [Char.ofNat (if meetsCased before && !meetsCased rest then 0x3C2 else 0x3C3)]
        else lowerChar c
      form ++ lowerFrom (c :: before) rest

/-- The text in lower case. -/
def lower (text : Text) : Text :=
  lowerFrom [] text

/-- The text in upper case. -/
def upper (text : Text) : Text :=
  text.flatMap upperChar

end PatchSurvey.Text
