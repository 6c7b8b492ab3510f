import Gallery.Library
import Gallery.Store.Transaction

/-!
# `Gallery.Store.Load` — reading a library from a store

A store may hold what a library cannot represent.  A type without a valid label and symbol and a tag
without a valid label are left out, a reference to a type that was left out is cleared, a fingerprint
of a wrong length is ignored, and so is a compound tag on an image.  Only two types that cannot be
told apart make a store unreadable: their symbols may start with the same character.

## Contents
- `TypeRow.toType?`, `TagRow.toTag?`, `ImageRow.toImage`, what a row stands for.
- `Store.load`, the snapshot that a store stands for.
- `Store.associations`, the tags of images in a list; `gather` and `gathered`, groups of labels;
  `Store.loadBy`, loading that visits the groups in an order.
- `Library.ofStore` and `Library.reload`.
-/

namespace Gallery

/-! ## Rows -/

/-- The type that a row stands for: its symbol is the first character of the stored text, and its
color is taken modulo the range of colors. -/
def TypeRow.toType? (r : TypeRow) (id : TypeId) : Option TagType :=
  match r.symbol.toList with
  -- A type without a symbol cannot be displayed.
  | [] => none
  | symbol :: _ => (TagType.make id r.label symbol (UInt32.ofInt r.color)).toOption

/-- The tag that a row stands for in a catalog with the types. -/
def TagRow.toTag? (r : TagRow) (c : Catalog) (id : TagId) : Option Tag :=
  (Tag.make id r.label (r.typeId.filter c.types.contains) r.definition).toOption

/-- The image that a row stands for. -/
def ImageRow.toImage (r : ImageRow) (id : ImageId) : Image :=
  .make id r.path (r.fingerprint.bind Fingerprint.ofBytes?)

namespace Store

/-! ## Snapshots -/

/-- The catalog with the stored types. -/
def loadTypes (s : Store) : Except LibraryError Catalog :=
  (s.types.rows.entries.filterMap fun (id, r) => r.toType? id).foldlM Catalog.insertType ∅

/-- The catalog with the stored tags besides the types. -/
def loadTags (s : Store) (fresh : Version) (c : Catalog) : Except LibraryError Catalog :=
  (s.tags.rows.entries.filterMap fun (id, r) => r.toTag? c id).foldlM (Catalog.insertTag · fresh) c

/-- The index with the stored images. -/
def loadImages (s : Store) : Except LibraryError Index :=
  (s.images.rows.entries.map fun (id, r) => r.toImage id).foldlM Index.insertImage ∅

/-- The labels of an image other than those of compound tags. -/
def plainLabels (s : Store) (c : Catalog) (r : ImageRow) : List String :=
  (s.labelsOf r).filter fun label => !(c.tag? label).any Tag.isCompound

/-- Gives an image its stored labels, if it has any. -/
def loadLabels (s : Store) (c : Catalog) (x : Index) (row : ImageId × ImageRow) :
    Except LibraryError Index :=
  match s.plainLabels c row.2 with
  | [] => .ok x
  | labels => x.setLabels row.1 labels

/-- The snapshot that a store stands for; its catalog gets a version never used before. -/
def load (s : Store) (fresh : Version) : Except LibraryError Snapshot := do
  let catalog ← s.loadTags fresh (← s.loadTypes)
  let index ← s.images.rows.entries.foldlM (s.loadLabels catalog) (← s.loadImages)
  return { catalog, index }

/-! ## Loading group by group -/

/-- Gives an image the labels of a group. -/
def setGroup (x : Index) (group : ImageId × List String) : Except LibraryError Index :=
  x.setLabels group.1 group.2

/-- The images with the labels of their tags, one tag at a time. -/
def associations (s : Store) : List (ImageId × String) :=
  s.links.filterMap fun (id, t) => (s.tags.get? t).map fun q => (id, q.label)

/-- Adds a label to the group of its image. -/
def gather (groups : Table ImageId (List String)) (row : ImageId × String) :
    Table ImageId (List String) :=
  groups.insert row.1 ((groups.get? row.1).getD [] ++ [row.2])

/-- The labels by image, without those of compound tags. -/
def gathered (c : Catalog) (rows : List (ImageId × String)) : Table ImageId (List String) :=
  (rows.filter fun row => !(c.tag? row.2).any Tag.isCompound).foldl gather ∅

/-- Loading with the associations listed as `rows`, which visits their groups in the order that `order`
makes of them. -/
def loadBy (s : Store) (rows : List (ImageId × String))
    (order : List (ImageId × List String) → List (ImageId × List String)) (fresh : Version) :
    Except LibraryError Snapshot := do
  let catalog ← s.loadTags fresh (← s.loadTypes)
  let index ← (order (gathered catalog rows).entries).foldlM setGroup (← s.loadImages)
  return { catalog, index }

end Store

/-! ## Libraries -/

namespace Library

/-- The library that a store stands for. -/
def ofStore (s : Store) (similarity : Similarity) : Except LibraryError Library := do
  let snapshot ← s.load 1
  return { snapshot, cache := .empty, fresh := snapshot.catalog.nextFresh 1, similarity }

/-- Reads the library again from a store. -/
def reload (lib : Library) (s : Store) : Except LibraryError Library := do
  return lib.replace (← s.load lib.fresh)

end Library

end Gallery
