/-!
# Keywords

Two lists of words. `reserved` holds the words that no grammar position takes for a plain name, the
lone underscore among them; it decides which names may be kinds and path segments. `escaped` holds
the words that generated names are protected against: a generated name on it is written as a raw
name, or with an underscore behind it where the raw form does not exist.
-/

namespace DispatchLayer.Keyword

/-- Words that are not names. -/
def reserved : List String := [
  "_", "abstract", "as", "async", "await", "become", "box", "break", "const", "continue", "crate",
  "do", "dyn", "else", "enum", "extern", "false", "final", "fn", "for", "if", "impl", "in", "let",
  "loop", "macro", "match", "mod", "move", "mut", "override", "priv", "pub", "ref", "return",
  "Self", "self", "static", "struct", "super", "trait", "true", "try", "type", "typeof", "unsafe",
  "unsized", "use", "virtual", "where", "while", "yield"]

/-- Whether a word is not a name. -/
def isReserved (word : String) : Bool := reserved.contains word

/-- Words that a generated name must not be written as. -/
def escaped : List String := [
  "as", "break", "const", "continue", "crate", "else", "enum", "extern", "false", "fn", "for", "if",
  "impl", "in", "let", "loop", "match", "mod", "move", "mut", "pub", "ref", "return", "self",
  "Self", "static", "struct", "super", "trait", "true", "type", "unsafe", "use", "where", "while",
  "async", "await", "dyn", "abstract", "become", "box", "do", "final", "macro", "override", "priv",
  "typeof", "unsized", "virtual", "yield", "try", "gen"]

/-- Whether a generated name must not be written as this word. -/
def isKeyword (word : String) : Bool := escaped.contains word

/-- Words without a raw form. -/
def neverRaw : List String := ["crate", "self", "Self", "super"]

/-- A spelling of the word that generated code can use as a name: `type` becomes `r#type`, and
`crate` becomes `crate_`. -/
def escape (word : String) : String :=
  if neverRaw.contains word then word ++ "_"
  else if isKeyword word then "r#" ++ word
  else word

end DispatchLayer.Keyword
