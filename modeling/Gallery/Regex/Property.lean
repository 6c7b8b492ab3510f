import Gallery.Regex.Property.Age
import Gallery.Regex.Property.Break

/-!
# `Gallery.Regex.Property` — the properties that expressions ask for by name

One name asks for a property that a character has or has not, for a general category or for a
script, in this order; a name with a value asks for the characters to which the property gives the
value.

## Contents
- `normalizedName`, a name without the differences that do not count.
- `categoryOfName?`, the class of a general category.
- `propertyOfName?` and `propertyOfValue?`, the class of a name, and of a name with a value.
-/

namespace Gallery.Regex

open Gallery.Text

/-- The name of a property without the differences that do not count: case, blanks, low lines,
hyphens and a leading `is`. -/
def normalizedName (name : List Char) : String :=
  let plain (cs : List Char) : List Char :=
    (cs.filter fun c => c.toNat < 0x80 && c != ' ' && c != '_' && c != '-').map Char.toLower
  match name with
  | i :: s :: rest =>
    if i.toLower == 'i' && s.toLower == 's' then
      let p := plain rest
      String.ofList (if p == ['c'] then ['i', 's', 'c'] else p)
    else String.ofList (plain name)
  | _ => String.ofList (plain name)

/-- The class of a general category, or of one of the groups that are named like one. -/
def categoryOfName? : String → Option CharClass
  | "any" => some .any
  | "ascii" => some (.interval '\x00' '\x7f')
  | "assigned" => some (.tables Category.assignedRuns)
  | name => (Category.ofName? name).map .ofCategory

/-- The class of a property that is asked for by one name. -/
def propertyOfName? (name : List Char) : Option CharClass :=
  let n := normalizedName name
  named? binaryProperties n <|> categoryOfName? n <|> (named? Script.named n).map .ofScript

/-- The class that is asked for by the name and the value of a property. -/
def propertyOfValue? (name value : List Char) : Option CharClass :=
  let v := normalizedName value
  match normalizedName name with
  | "gc" | "generalcategory" => categoryOfName? v
  | "sc" | "script" => (named? Script.named v).map .ofScript
  | "scx" | "scriptextensions" => (named? Script.named v).map .usedBy
  | "age" => (named? Age.named v).map .ofAge
  | "gcb" | "graphemeclusterbreak" => named? graphemeBreaks v
  | "wb" | "wordbreak" => named? wordBreaks v
  | "sb" | "sentencebreak" => named? sentenceBreaks v
  | _ => none

end Gallery.Regex
