import PatchSurvey.Dictionary
import PatchSurvey.Text.Case

/-! # Language aliases

Several extension tags share the tables of one language. Custom aliases win over
the built-in ones and are compared in lower case. -/

namespace PatchSurvey.Path

/-- Tags with the key under which the tables list them. -/
abbrev Aliases := Dictionary Text

/-- The built-in aliases. -/
def builtInAliases : Aliases :=
  [("jsx", "js"), ("mjs", "js"), ("cjs", "js"), ("tsx", "ts"), ("mts", "ts"), ("cts", "ts"),
    ("pyi", "py"), ("pyw", "py"), ("rs", "rust"), ("rb", "ruby"), ("rake", "ruby"),
    ("gemspec", "ruby")].map fun (tag, key) => (tag.toList, key.toList)

/-- The built-in aliases with custom ones put over them. -/
def effectiveAliases (custom : Aliases) : Aliases :=
  builtInAliases.putAll (custom.map fun (tag, key) => (Text.lower tag, Text.lower key))

/-- The table key of a tag. -/
def resolve (aliases : Aliases) (tag : Text) : Text :=
  (aliases.get? tag).getD tag

end PatchSurvey.Path
