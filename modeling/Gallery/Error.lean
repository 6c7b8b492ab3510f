/-!
# `Gallery.Error` — why a library refuses a change

## Contents
- `TagId`, `TypeId` and `ImageId`, the numbers under which things are known, and `IsNumber`, how large
  they may be.
- `LibraryError` and `LibraryError.message`.
-/

namespace Gallery

/-- The number of a tag. -/
abbrev TagId := Int

/-- The number of a tag type. -/
abbrev TypeId := Int

/-- The number of an image. -/
abbrev ImageId := Int

/-- Numbers have 64 bits.  The next free number is computed without this bound, so what is shown of
libraries that give numbers holds as long as all numbers keep to it. -/
def IsNumber (n : Int) : Prop := Int64.minValue.toInt ≤ n ∧ n ≤ Int64.maxValue.toInt

instance : DecidablePred IsNumber := fun _ => inferInstanceAs (Decidable (_ ∧ _))

/-- Why a library refuses a change. -/
inductive LibraryError where
  | unknownImage (id : ImageId)
  | unknownTag (label : String)
  | unknownTagType (id : TypeId)
  | duplicatePath (path : String)
  | duplicateTag (label : String)
  | invalidLabel (label : String)
  /-- The label of a tag type is empty or starts with white space. -/
  | invalidTypeLabel (label : String)
  | invalidSymbol (symbol : Char)
  /-- Another type has the same label or the same symbol. -/
  | conflictingType (label : String)
  | compoundAssociation (label : String)
  deriving DecidableEq, Repr

/-- The description of an error. -/
def LibraryError.message : LibraryError → String
  | unknownImage id => s!"image {id} does not exist"
  | unknownTag label => s!"tag '{label}' does not exist"
  | unknownTagType id => s!"tag type {id} does not exist"
  | duplicatePath path => s!"path '{path}' is already registered"
  | duplicateTag label => s!"tag '{label}' already exists"
  | invalidLabel label => s!"illegal tag label '{label}'"
  | invalidTypeLabel label => s!"illegal tag type: illegal label '{label}'"
  | invalidSymbol symbol => s!"illegal tag type: illegal symbol '{symbol}'"
  | conflictingType label => s!"illegal tag type: conflicts with existing type '{label}'"
  | compoundAssociation label => s!"compound tag '{label}' cannot be associated to images"

end Gallery
