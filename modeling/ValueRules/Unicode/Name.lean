import ValueRules.Unicode.Age
import ValueRules.Unicode.Segmentation

/-!
Looking up a set of characters by the name of a property, category or script. Names are compared
loosely: case, blanks, underscores and hyphens do not count, nor does a leading `is`.
-/

namespace ValueRules.Unicode

/-- A name as the tables have it. The name of all other categories keeps its `is`, which would
otherwise be taken for that of a comment. -/
def loosely (name : List Char) : String :=
  let isMarked := match name with
    | i :: s :: _ => i.toLower = 'i' && s.toLower = 's'
    | _ => false
  let kept := (if isMarked then name.drop 2 else name).filter fun c =>
    c.toNat ≤ 0x7f && c ≠ ' ' && c ≠ '_' && c ≠ '-'
  let loose := String.ofList (kept.map Char.toLower)
  if isMarked && loose = "c" then "isc" else loose

def named? (table : List (List String × CharSet)) (name : String) : Option CharSet :=
  (table.find? fun (names, _) => names.contains name).map (·.2)

/-- The property, category or script of a name. Three short names of categories are also those of
properties that are no sets; they are looked up among the categories alone. -/
def find? (name : List Char) : Option CharSet :=
  let name := loosely name
  let property? := if ["cf", "sc", "lc"].contains name then none else named? properties name
  property?.or <| (named? categories name).or (named? scripts name)

/-- The set of characters for which a property has a value. -/
def findValue? (property value : List Char) : Option CharSet :=
  let value := loosely value
  match loosely property with
  | "gc" | "generalcategory" => named? categories value
  | "sc" | "script" => named? scripts value
  | "age" => charsOfVersion? value
  | "gcb" | "graphemeclusterbreak" => named? clusterBreaks value
  | "wb" | "wordbreak" => named? wordBreaks value
  | "sb" | "sentencebreak" => named? sentenceBreaks value
  | "scx" | "scriptextensions" =>
    (scripts.find? fun (names, _) => names.contains value).map fun (names, own) =>
      extended names own
  | _ => none

end ValueRules.Unicode
