import Gallery.Catalog
import Gallery.Reply

/-!
# `Gallery.Catalog.Change` — histories of catalogs

All catalogs of a run draw their versions from one supply, so equal versions mean equal labels and
definitions, also between a catalog and copies of it that were changed since.

## Contents
- `CatalogChange`, the changes of a catalog as data, and `Catalog.apply`.
- `Catalogs`, the current catalog of a run, the copies kept under names, and the supply of versions;
  `Catalogs.apply`, `Catalogs.keep` and `Catalogs.restore`.
-/

namespace Gallery

/-- A change of a catalog.  Types and tags that are inserted are made by `TagType.make` and
`Tag.make`. -/
inductive CatalogChange where
  | insertType (id : TypeId) (label : String) (symbol : Char) (color : UInt32)
  | removeType (id : TypeId)
  | insertTag (id : TagId) (label : String) (typeId : Option TypeId) (definition : Option String)
  | removeTag (label : String)
  | setDefinition (label : String) (definition : Option String)
  | setType (label : String) (typeId : Option TypeId)
  deriving DecidableEq

/-- Applies a change; if labels or definitions change, the catalog gets the version `fresh`. -/
def Catalog.apply (c : Catalog) (fresh : Version) :
    CatalogChange → Except LibraryError Reply × Catalog
  | .insertType id label symbol color =>
    settleDone c (TagType.make id label symbol color >>= c.insertType)
  | .removeType id => settle c .tagType (c.removeType id)
  | .insertTag id label typeId definition =>
    settleDone c (Tag.make id label typeId definition >>= c.insertTag fresh)
  | .removeTag label => settle c .tag (c.removeTag fresh label)
  | .setDefinition label definition => settleDone c (c.setDefinition fresh label definition)
  | .setType label typeId => settleDone c (c.setType label typeId)

/-- The catalogs of a run. -/
structure Catalogs where
  current : Catalog := ∅
  /-- Copies made earlier. -/
  kept : Table String Catalog := ∅
  /-- A version that no catalog has had yet. -/
  fresh : Version := 1

namespace Catalogs

/-- The copy kept under a name, or the current catalog if there is none. -/
def named (s : Catalogs) (name : String) : Catalog := (s.kept.get? name).getD s.current

/-- Applies a change to the current catalog. -/
def apply (s : Catalogs) (change : CatalogChange) : Except LibraryError Reply × Catalogs :=
  let (reply, c) := s.current.apply s.fresh change
  (reply, { s with current := c, fresh := c.nextFresh s.fresh })

/-- Keeps a copy of the current catalog. -/
def keep (s : Catalogs) (name : String) : Catalogs :=
  { s with kept := s.kept.insert name s.current }

/-- Makes a kept copy the current catalog. -/
def restore (s : Catalogs) (name : String) : Catalogs := { s with current := s.named name }

end Catalogs

end Gallery
