import Gallery.KeySet
import Gallery.Tag

/-!
# `Gallery.Catalog` — the known tags and tag types

A catalog holds the tags by label and the types by number.  Its version tells states with different
labels or definitions apart: a change of those takes a version that was never used before, `fresh`,
and everything else keeps the version.  Copies share their version until one of them changes.

## Contents
- `Version`, `Catalog` and its readers: `tag?`, `tagType?`, `lookup?`, `definition?`, `nextTagId`,
  `nextTypeId`.
- Changes of types: `insertType`, `removeType`, `setType`.
- Changes of tags: `insertTag`, `removeTag`, `setDefinition`.
- `Catalog.nextFresh`, the version to use after a change.
-/

namespace Gallery

/-- Identifies the labels and definitions of a catalog. -/
abbrev Version := Nat

/-- The tags and tag types of a library. -/
structure Catalog where
  tags : Table String Tag := ∅
  types : Table TypeId TagType := ∅
  version : Version := 0
  deriving DecidableEq

namespace Catalog

instance : EmptyCollection Catalog := ⟨⟨∅, ∅, 0⟩⟩

instance : Inhabited Catalog := ⟨∅⟩

/-! ## Readers -/

/-- The tag of a label. -/
def tag? (c : Catalog) (label : String) : Option Tag := c.tags.get? label

/-- The type of a number. -/
def tagType? (c : Catalog) (id : TypeId) : Option TagType := c.types.get? id

/-- The tag of a label with its type. -/
def lookup? (c : Catalog) (label : String) : Option (Tag × Option TagType) :=
  (c.tag? label).map fun t => (t, t.typeId.bind c.tagType?)

/-- The definition of a label, if it belongs to a compound tag. -/
def definition? (c : Catalog) (label : String) : Option String :=
  (c.tag? label).bind (·.definition)

/-- The number for the next tag: one more than the largest in use.  Whether that is a number of 64 bits
is left to `IsNumber`. -/
def nextTagId (c : Catalog) : TagId := ((c.tags.values.map (·.id)).max?).getD 0 + 1

/-- The number for the next type: one more than the largest in use, with the same proviso. -/
def nextTypeId (c : Catalog) : TypeId := c.types.lastKey?.getD 0 + 1

/-- The smallest version above both `fresh` and the catalog's own. -/
def nextFresh (c : Catalog) (fresh : Version) : Version := max fresh (c.version + 1)

/-! ## Changes of types -/

/-- Whether two types are different types that cannot be told apart. -/
def conflict (s t : TagType) : Bool := s.id != t.id && (s.label == t.label || s.symbol == t.symbol)

/-- Adds a type, or replaces the one with its number. -/
def insertType (c : Catalog) (t : TagType) : Except LibraryError Catalog :=
  match c.types.values.find? (conflict · t) with
  | some other => .error (.conflictingType other.label)
  | none => .ok { c with types := c.types.insert t.id t }

/-- Removes a type; its tags are left without one. -/
def removeType (c : Catalog) (id : TypeId) : Except LibraryError (TagType × Catalog) :=
  match c.types.get? id with
  | none => .error (.unknownTagType id)
  | some t =>
    .ok (t, { c with
      types := c.types.erase id
      tags := c.tags.map fun _ tag =>
        if tag.typeId = some id then { tag with typeId := none } else tag })

/-- The given type, if there is one and it does not exist. -/
def unknownType? (c : Catalog) (typeId : Option TypeId) : Option TypeId :=
  typeId.filter fun id => !c.types.contains id

/-! ## Changes of tags -/

/-- Adds a tag under its label, which must be new. -/
def insertTag (c : Catalog) (fresh : Version) (t : Tag) : Except LibraryError Catalog :=
  if c.tags.contains t.label then .error (.duplicateTag t.label)
  else
    match c.unknownType? t.typeId with
    | some id => .error (.unknownTagType id)
    | none => .ok { c with tags := c.tags.insert t.label t, version := fresh }

/-- Removes a tag. -/
def removeTag (c : Catalog) (fresh : Version) (label : String) :
    Except LibraryError (Tag × Catalog) :=
  match c.tags.get? label with
  | none => .error (.unknownTag label)
  | some t => .ok (t, { c with tags := c.tags.erase label, version := fresh })

/-- Makes a tag compound, or plain if there is no definition. -/
def setDefinition (c : Catalog) (fresh : Version) (label : String) (definition : Option String) :
    Except LibraryError Catalog :=
  match c.tags.get? label with
  | none => .error (.unknownTag label)
  | some t =>
    if t.definition = definition then .ok c
    else .ok { c with tags := c.tags.insert label { t with definition }, version := fresh }

/-- Gives a tag another type, or none. -/
def setType (c : Catalog) (label : String) (typeId : Option TypeId) :
    Except LibraryError Catalog :=
  match c.unknownType? typeId with
  | some id => .error (.unknownTagType id)
  | none =>
    match c.tags.get? label with
    | none => .error (.unknownTag label)
    | some t => .ok { c with tags := c.tags.insert label { t with typeId } }

end Catalog

end Gallery
