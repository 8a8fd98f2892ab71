import PostSieve.Unicode.GraphemeBreak
import PostSieve.Unicode.SentenceBreak
import PostSieve.Unicode.Version
import PostSieve.Unicode.WordBreak

/-! Finding sets of characters by the names of properties and of their values. -/

namespace PostSieve.Unicode

/-- A name without the differences that the standard overlooks: letter case, blanks, hyphens,
underscores and a leading `is`. Characters beyond ASCII are dropped. -/
def looseName (name : String) : String :=
  let chars := name.toList
  let hasIs := (chars.take 2).map Char.toLower = ['i', 's']
  let kept := (if hasIs then chars.drop 2 else chars).filterMap fun c =>
    if c = ' ' ∨ c = '_' ∨ c = '-' ∨ 0x80 ≤ c.toNat then none else some c.toLower
  if hasIs ∧ kept = ['c'] then "isc" else String.ofList kept

/-- The set under a name in a table. -/
def lookup (table : List (List String × CharSet)) (name : String) : Option CharSet :=
  (table.find? (·.1.contains name)).map (·.2)

def category? (name : String) : Option CharSet := lookup Category.named name

/-- The set that one name means: a property, a category or a script. Three names of categories are
names of properties too, and mean the categories. -/
def setOfName? (name : String) : Option CharSet :=
  let name := looseName name
  let property := if name ∈ ["cf", "sc", "lc"] then none else lookup Property.named name
  property <|> category? name <|> (Script.ofName? name).map Script.characters

/-- The set of the characters for which a property has a value. -/
def setOfValue? (property value : String) : Option CharSet :=
  let value := looseName value
  match looseName property with
  | "gc" | "generalcategory" => category? value
  | "sc" | "script" => (Script.ofName? value).map Script.characters
  | "scx" | "scriptextensions" => (Script.ofName? value).map Script.extended
  | "age" => Version.characters? value
  | "gcb" | "graphemeclusterbreak" => lookup GraphemeBreak.named value
  | "wb" | "wordbreak" => lookup WordBreak.named value
  | "sb" | "sentencebreak" => lookup SentenceBreak.named value
  | _ => none

end PostSieve.Unicode
