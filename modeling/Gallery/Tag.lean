import Gallery.Error
import Gallery.Text.Property

/-!
# `Gallery.Tag` — tags and tag types

A tag is known by its label, a word of the query language.  A compound tag has a definition, which is
a query; a plain tag has none.  Types group tags for display, each with a symbol that cannot be
confused with a word or an operator.

## Contents
- `TagType`, `isValidSymbol`, `TagType.make`.
- `Tag`, `isValidLabel`, `Tag.make`.
-/

namespace Gallery

open Gallery.Text

/-! ## Tag types -/

/-- A group of tags and how it is displayed. -/
structure TagType where
  id : TypeId
  label : String
  /-- The character in front of the tags of the type. -/
  symbol : Char
  /-- The red, green and blue bytes of the color. -/
  color : UInt32
  deriving DecidableEq, Repr

/-- Symbols are no word characters, no white space and no operators of the query language. -/
def isValidSymbol (c : Char) : Bool :=
  !(isWord c || isWhitespace c || "+()\\:-".toList.contains c)

namespace TagType

/-- The lowest 24 bits of a color. -/
def clipColor (color : UInt32) : UInt32 := color &&& 0xffffff

/-- Whether a text can name a type: it is not empty and does not start with white space. -/
def isValidLabel (label : String) : Bool :=
  match label.toList with
  | [] => false
  | c :: _ => !isWhitespace c

/-- The type with the given parts, if they are valid; of the color 24 bits are kept. -/
def make (id : TypeId) (label : String) (symbol : Char) (color : UInt32) :
    Except LibraryError TagType :=
  if !isValidLabel label then .error (.invalidTypeLabel label)
  else if !isValidSymbol symbol then .error (.invalidSymbol symbol)
  else .ok ⟨id, label, symbol, clipColor color⟩

end TagType

/-! ## Tags -/

/-- Labels are words: one or more alphanumeric characters and low lines. -/
def isValidLabel (label : String) : Bool := !label.isEmpty && label.toList.all isWord

/-- A tag. -/
structure Tag where
  id : TagId
  label : String
  typeId : Option TypeId
  /-- The query that a compound tag stands for. -/
  definition : Option String
  deriving DecidableEq, Repr

namespace Tag

/-- The tag with the given parts, if its label is valid. -/
def make (id : TagId) (label : String) (typeId : Option TypeId) (definition : Option String) :
    Except LibraryError Tag :=
  if isValidLabel label then .ok ⟨id, label, typeId, definition⟩ else .error (.invalidLabel label)

/-- Whether the tag stands for a query. -/
def isCompound (t : Tag) : Bool := t.definition.isSome

end Tag

end Gallery
