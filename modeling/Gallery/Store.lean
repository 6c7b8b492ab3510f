import Gallery.Error
import Gallery.KeySet
import Gallery.Store.Numbered

/-!
# `Gallery.Store` — the lasting form of a library

A store keeps images, tag types and tags as numbered rows.  It knows less than a library does: a
fingerprint is any sequence of bytes, a symbol any text, a color any number.  What it guarantees are
the rules of its schema (`Store.Valid`): paths, labels and symbols are unique, and rows refer to rows
that exist.  Deleting a tag takes it from the images; deleting a type leaves its tags without one.

## Contents
- `ImageRow`, `TypeRow`, `TagRow` and `Store`; `Store.Valid`.
- `StoreError` and `StoreError.message`.
- Changes: `addImage`, `movePath`, `deleteImage`; `addType`, `deleteType`; `addTag`, `updateTag`,
  `deleteTag`; `setImageTags`, which replaces the tags of an image or changes nothing.
-/

namespace Gallery

/-- A stored image and its tags. -/
structure ImageRow where
  path : String
  fingerprint : Option (List UInt8)
  tags : KeySet TagId := ∅
  deriving DecidableEq

/-- A stored tag type. -/
structure TypeRow where
  label : String
  symbol : String
  color : Int
  deriving DecidableEq, Repr

/-- A stored tag. -/
structure TagRow where
  label : String
  typeId : Option TypeId
  definition : Option String
  deriving DecidableEq, Repr

/-- What is kept between runs. -/
structure Store where
  images : Numbered ImageRow := ∅
  types : Numbered TypeRow := ∅
  tags : Numbered TagRow := ∅
  deriving DecidableEq

/-- Why a store refuses a change. -/
inductive StoreError where
  | pathTaken
  | typeLabelTaken
  | symbolTaken
  | tagLabelTaken
  /-- A row would refer to a row that does not exist. -/
  | missingRow
  deriving DecidableEq, Repr

/-- The description of an error. -/
def StoreError.message : StoreError → String
  | pathTaken => "UNIQUE constraint failed: image.path"
  | typeLabelTaken => "UNIQUE constraint failed: tag_type.label"
  | symbolTaken => "UNIQUE constraint failed: tag_type.symbol"
  | tagLabelTaken => "UNIQUE constraint failed: tag.label"
  | missingRow => "FOREIGN KEY constraint failed"

namespace Store

instance : EmptyCollection Store := ⟨⟨∅, ∅, ∅⟩⟩

instance : Inhabited Store := ⟨∅⟩

/-- The rules of the schema. -/
structure Valid (s : Store) : Prop where
  path_unique : ∀ i j r q, s.images.get? i = some r → s.images.get? j = some q →
    r.path = q.path → i = j
  typeLabel_unique : ∀ i j r q, s.types.get? i = some r → s.types.get? j = some q →
    r.label = q.label → i = j
  symbol_unique : ∀ i j r q, s.types.get? i = some r → s.types.get? j = some q →
    r.symbol = q.symbol → i = j
  tagLabel_unique : ∀ i j r q, s.tags.get? i = some r → s.tags.get? j = some q →
    r.label = q.label → i = j
  /-- The type of a tag exists. -/
  type_exists : ∀ i r t, s.tags.get? i = some r → r.typeId = some t → s.types.contains t = true
  /-- The tags of an image exist. -/
  tag_exists : ∀ i r t, s.images.get? i = some r → r.tags.has t = true → s.tags.contains t = true

/-! ## Readers -/

/-- The number of the image at a path. -/
def imageId? (s : Store) (path : String) : Option ImageId :=
  (s.images.find? fun r => r.path == path).map (·.1)

/-- The number of the tag with a label. -/
def tagId? (s : Store) (label : String) : Option TagId :=
  (s.tags.find? fun r => r.label == label).map (·.1)

/-- The labels of the tags of an image. -/
def labelsOf (s : Store) (r : ImageRow) : List String :=
  r.tags.toList.filterMap fun id => (s.tags.get? id).map (·.label)

/-! ## Changes of images -/

/-- Adds an image. -/
def addImage (s : Store) (path : String) (fingerprint : Option (List UInt8)) :
    Except StoreError (ImageId × Store) :=
  if s.images.any fun r => r.path == path then .error .pathTaken
  else .ok (s.images.next, { s with images := s.images.append { path, fingerprint } })

/-- Gives an image another path; the result tells whether there is such an image. -/
def movePath (s : Store) (id : ImageId) (path : String) : Except StoreError (Bool × Store) :=
  if !s.images.contains id then .ok (false, s)
  else if (s.imageId? path).any (· != id) then .error .pathTaken
  else .ok (true, { s with images := s.images.modify id fun r => { r with path } })

/-- Deletes an image with its tags; the result tells whether there was one. -/
def deleteImage (s : Store) (id : ImageId) : Bool × Store :=
  (s.images.contains id, { s with images := s.images.erase id })

/-! ## Changes of types -/

/-- Adds a tag type. -/
def addType (s : Store) (label symbol : String) (color : Int) :
    Except StoreError (TypeId × Store) :=
  -- If both texts are taken, the symbol is reported.
  if s.types.any fun r => r.symbol == symbol then .error .symbolTaken
  else if s.types.any fun r => r.label == label then .error .typeLabelTaken
  else .ok (s.types.next, { s with types := s.types.append { label, symbol, color } })

/-- Deletes a tag type, leaving its tags without one; the result tells whether there was one. -/
def deleteType (s : Store) (id : TypeId) : Bool × Store :=
  (s.types.contains id, { s with
    types := s.types.erase id
    tags := s.tags.mapRows fun r => if r.typeId = some id then { r with typeId := none } else r })

/-- Whether the given type, if there is one, exists. -/
def hasType (s : Store) (typeId : Option TypeId) : Bool := typeId.all s.types.contains

/-! ## Changes of tags -/

/-- Adds a tag. -/
def addTag (s : Store) (label : String) (typeId : Option TypeId) (definition : Option String) :
    Except StoreError (TagId × Store) :=
  if (s.tagId? label).isSome then .error .tagLabelTaken
  else if !s.hasType typeId then .error .missingRow
  else .ok (s.tags.next, { s with tags := s.tags.append { label, typeId, definition } })

/-- Gives a tag another type and definition; the result tells whether there is such a tag. -/
def updateTag (s : Store) (label : String) (typeId : Option TypeId) (definition : Option String) :
    Except StoreError (Bool × Store) :=
  match s.tagId? label with
  | none => .ok (false, s)
  | some id =>
    if !s.hasType typeId then .error .missingRow
    else .ok (true, { s with tags := s.tags.modify id fun r => { r with typeId, definition } })

/-- Deletes a tag and takes it from all images; the result tells whether there was one. -/
def deleteTag (s : Store) (label : String) : Bool × Store :=
  match s.tagId? label with
  | none => (false, s)
  | some id =>
    (true, { s with
      tags := s.tags.erase id
      images := s.images.mapRows fun r => { r with tags := r.tags.remove id } })

/-- Replaces the tags of an image by those of the labels that are stored; labels that are not are
ignored.  An image that does not exist can be given no tags. -/
def setImageTags (s : Store) (id : ImageId) (labels : List String) : Except StoreError Store :=
  match labels.filterMap s.tagId? with
  -- No row refers to the image then, so it need not exist.
  | [] => .ok { s with images := s.images.modify id fun r => { r with tags := ∅ } }
  | ids =>
    if s.images.contains id then
      .ok { s with images := s.images.modify id fun r => { r with tags := KeySet.ofList ids } }
    else .error .missingRow

end Store

end Gallery
