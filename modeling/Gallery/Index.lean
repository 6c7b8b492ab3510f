import Gallery.Error
import Gallery.Fingerprint
import Gallery.KeySet
import Gallery.Text.FilePath

/-!
# `Gallery.Index` — images and which tags they carry

An index knows the images by number and by path and keeps, for every label, the images that carry
it, its posting.  Each change updates only what it touches; a posting that becomes empty is dropped.

## Contents
- `Image`, which knows the name and the extension of its path, and `Image.make`.
- `Index` and its readers: `imageByPath?`, `posting?`, `labelsOf?`, `ids`, `untagged`.
- Changes of images: `insertImage`, `removeImage`, `moveImage`, `setFingerprint`.
- Changes of labels: `tag`, `untag`, `setLabels`, `dropLabel`.
-/

namespace Gallery

open Gallery.Text

/-- A registered image.  Its name and its extension are kept beside the path that they belong to. -/
structure Image where
  id : ImageId
  path : String
  /-- The name of the file without its extension. -/
  name : String
  /-- The extension of the file without its dot. -/
  extension : String
  fingerprint : Option Fingerprint
  name_eq : name = FilePath.stem path
  extension_eq : extension = FilePath.extension path
  deriving DecidableEq, Repr

namespace Image

/-- The image with the given number, path and fingerprint. -/
def make (id : ImageId) (path : String) (fingerprint : Option Fingerprint) : Image where
  id
  path
  name := FilePath.stem path
  extension := FilePath.extension path
  fingerprint
  name_eq := rfl
  extension_eq := rfl

section

variable {id : ImageId} {path : String} {fp : Option Fingerprint}

@[simp, grind =] theorem make_id : (make id path fp).id = id := rfl

@[simp, grind =] theorem make_path : (make id path fp).path = path := rfl

@[simp, grind =] theorem make_fingerprint : (make id path fp).fingerprint = fp := rfl

/-- An image is known by its number, its path and its fingerprint. -/
theorem eq_make (i : Image) : i = make i.id i.path i.fingerprint := by
  obtain ⟨id, path, name, extension, fingerprint, rfl, rfl⟩ := i
  rfl

theorem eq_make_iff {i : Image} :
    i = make id path fp ↔ i.id = id ∧ i.path = path ∧ i.fingerprint = fp := by
  constructor
  · rintro rfl
    exact ⟨rfl, rfl, rfl⟩
  · rintro ⟨rfl, rfl, rfl⟩
    exact i.eq_make

end

end Image

/-- The registered images and their labels. -/
structure Index where
  images : Table ImageId Image := ∅
  /-- The image at each path. -/
  paths : Table String ImageId := ∅
  /-- The images that carry each label. -/
  postings : Table String (KeySet ImageId) := ∅
  /-- The labels of each image that was ever given some. -/
  labels : Table ImageId (KeySet String) := ∅
  deriving DecidableEq

namespace Index

instance : EmptyCollection Index := ⟨⟨∅, ∅, ∅, ∅⟩⟩

instance : Inhabited Index := ⟨∅⟩

/-! ## Readers -/

/-- The number for the next image: one more than the largest in use.  Whether that is a number of 64
bits is left to `IsNumber`. -/
def nextImageId (x : Index) : ImageId := x.images.lastKey?.getD 0 + 1

/-- The numbers of all images. -/
def ids (x : Index) : KeySet ImageId := x.images.map fun _ _ => ()

/-- The image at a path. -/
def imageByPath? (x : Index) (path : String) : Option Image := (x.paths.get? path).bind x.images.get?

/-- The images that carry a label, if there are any. -/
def posting? (x : Index) (label : String) : Option (KeySet ImageId) := x.postings.get? label

/-- The number of images that carry a label. -/
def postingSize (x : Index) (label : String) : Nat := (x.posting? label).elim 0 Table.size

/-- The labels of an image, if it was ever given some. -/
def labelsOf? (x : Index) (id : ImageId) : Option (KeySet String) := x.labels.get? id

/-- The labels of an image. -/
def labelsOf (x : Index) (id : ImageId) : KeySet String := (x.labelsOf? id).getD KeySet.empty

/-- The images without labels. -/
def untagged (x : Index) : List ImageId := x.images.keys.filter fun id => (x.labelsOf id).isEmpty

/-! ## Changes of images -/

/-- Registers an image; neither its path nor its number may be taken. -/
def insertImage (x : Index) (image : Image) : Except LibraryError Index :=
  if x.paths.contains image.path then .error (.duplicatePath image.path)
  else
    match x.images.get? image.id with
    | some old => .error (.duplicatePath old.path)
    | none =>
      .ok { x with
        images := x.images.insert image.id image
        paths := x.paths.insert image.path image.id }

/-- Takes an image out of the posting of a label. -/
def removeFromPosting (postings : Table String (KeySet ImageId)) (id : ImageId) (label : String) :
    Table String (KeySet ImageId) :=
  match postings.get? label with
  | none => postings
  | some ids =>
    let rest := ids.remove id
    if rest.isEmpty then postings.erase label else postings.insert label rest

/-- Puts an image into the posting of a label. -/
def addToPosting (postings : Table String (KeySet ImageId)) (id : ImageId) (label : String) :
    Table String (KeySet ImageId) :=
  postings.insert label (((postings.get? label).getD KeySet.empty).add id)

/-- Removes an image with all its labels. -/
def removeImage (x : Index) (id : ImageId) : Except LibraryError (Image × Index) :=
  match x.images.get? id with
  | none => .error (.unknownImage id)
  | some image =>
    .ok (image, {
      images := x.images.erase id
      paths := x.paths.erase image.path
      postings := (x.labelsOf id).toList.foldl (removeFromPosting · id) x.postings
      labels := x.labels.erase id })

/-- Gives an image another path; its number and its labels stay. -/
def moveImage (x : Index) (id : ImageId) (path : String) : Except LibraryError Index :=
  if (x.paths.get? path).any (· != id) then .error (.duplicatePath path)
  else
    match x.images.get? id with
    | none => .error (.unknownImage id)
    | some image =>
      .ok { x with
        images := x.images.insert id (.make id path image.fingerprint)
        paths := (x.paths.erase image.path).insert path id }

/-- Gives an image another fingerprint, or none. -/
def setFingerprint (x : Index) (id : ImageId) (fingerprint : Option Fingerprint) :
    Except LibraryError Index :=
  match x.images.get? id with
  | none => .error (.unknownImage id)
  | some image => .ok { x with images := x.images.insert id { image with fingerprint } }

/-! ## Changes of labels -/

/-- Gives an image a label; the result tells whether it is new there. -/
def tag (x : Index) (id : ImageId) (label : String) : Except LibraryError (Bool × Index) :=
  if !x.images.contains id then .error (.unknownImage id)
  else
    let old := x.labelsOf id
    if old.has label then .ok (false, x)
    else
      .ok (true, { x with
        postings := addToPosting x.postings id label
        labels := x.labels.insert id (old.add label) })

/-- Takes a label from an image; the result tells whether it was there. -/
def untag (x : Index) (id : ImageId) (label : String) : Except LibraryError (Bool × Index) :=
  if !x.images.contains id then .error (.unknownImage id)
  else
    let old := x.labelsOf id
    if !old.has label then .ok (false, x)
    else
      .ok (true, { x with
        postings := removeFromPosting x.postings id label
        labels := x.labels.insert id (old.remove label) })

/-- Replaces the labels of an image. -/
def setLabels (x : Index) (id : ImageId) (labels : List String) : Except LibraryError Index :=
  if !x.images.contains id then .error (.unknownImage id)
  else
    let old := x.labelsOf id
    let new := KeySet.ofList labels
    let removed := (old.diff new).toList.foldl (removeFromPosting · id) x.postings
    .ok { x with
      postings := (new.diff old).toList.foldl (addToPosting · id) removed
      labels := x.labels.insert id new }

/-- Takes a label from all images. -/
def dropLabel (x : Index) (label : String) : Index :=
  match x.postings.get? label with
  | none => x
  | some ids =>
    { x with
      postings := x.postings.erase label
      labels := ids.toList.foldl (fun labels id => labels.modify id (·.remove label)) x.labels }

end Index

end Gallery
