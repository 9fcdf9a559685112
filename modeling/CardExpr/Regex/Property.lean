import CardExpr.Text.Boundary

/-! How patterns name Unicode properties. -/

namespace CardExpr.Regex

open Text

/-- A name without case, blanks, separators and characters beyond ASCII, and without `is` before it. -/
def looseName (name : List Char) : String :=
  let plain := fun (cs : List Char) =>
    (cs.filter fun c => decide (c.toNat < 128) && !(c == ' ' || c == '_' || c == '-')).map Char.toLower
  match name.map Char.toLower with
  | 'i' :: 's' :: rest => if plain rest == ['c'] then "isc" else String.ofList (plain rest)
  | _ => String.ofList (plain name)

/-- A property, a category or a script. Three short names are those of categories only. -/
def named? (name : List Char) : Option CodeSet :=
  let loose := looseName name
  let property :=
    if loose == "cf" || loose == "sc" || loose == "lc" then none else Property.binary.lookup? loose
  property <|> Property.categories.lookup? loose <|> Property.script? loose

/-- The characters for which a property has the given value. -/
def valued? (property value : List Char) : Option CodeSet :=
  let value := looseName value
  match looseName property with
  | "generalcategory" | "gc" => Property.categories.lookup? value
  | "script" | "sc" => Property.script? value
  | "scriptextensions" | "scx" => Property.scriptExtension? value
  | "age" => Property.age? value
  | "graphemeclusterbreak" | "gcb" => Boundary.grapheme.lookup? value
  | "wordbreak" | "wb" => Boundary.word.lookup? value
  | "sentencebreak" | "sb" => Boundary.sentence.lookup? value
  | _ => none

end CardExpr.Regex
