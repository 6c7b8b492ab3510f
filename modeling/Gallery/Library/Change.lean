import Gallery.Library
import Gallery.Reply

/-!
# `Gallery.Library.Change` — histories of a library

## Contents
- `LibraryChange`, the changes of a library as data.
- `Library.apply`, the answer to a change and the library after it; `Library.applyAll`, the library
  after several changes, whether they succeed or not.
- `RawChange`, a change that may also add types and tags as they are given, with `Library.applyRaw` and
  `Library.applyAllRaw`.
- `RawChange.number?`, the number that a change gives, and `Library.Numbers`, the runs that give numbers
  of 64 bits only.
-/

namespace Gallery

/-- A change of a library. -/
inductive LibraryChange where
  | registerImage (path : String) (fingerprint : Option Fingerprint)
  | insertImage (image : Image)
  | removeImage (id : ImageId)
  | moveImage (id : ImageId) (path : String)
  | setFingerprint (id : ImageId) (fingerprint : Option Fingerprint)
  | tagImage (id : ImageId) (label : String)
  | untagImage (id : ImageId) (label : String)
  | setImageTags (id : ImageId) (labels : List String)
  | createTagType (label : String) (symbol : Char) (color : UInt32)
  /-- Adds a type made by `TagType.make`. -/
  | insertTagType (id : TypeId) (label : String) (symbol : Char) (color : UInt32)
  | removeTagType (id : TypeId)
  | createTag (label : String) (typeId : Option TypeId) (definition : Option String)
  /-- Adds a tag made by `Tag.make`. -/
  | insertTag (id : TagId) (label : String) (typeId : Option TypeId) (definition : Option String)
  | redefineTag (label : String) (definition : Option String)
  | setTagType (label : String) (typeId : Option TypeId)
  | removeTag (label : String)
  deriving DecidableEq

namespace Library

/-- The reply of a change that answers nothing. -/
def done (_ : Unit) : Reply := .done

/-- The answer of a change as a reply. -/
def replying {α : Type} (reply : α → Reply) (r : Except LibraryError α × Library) :
    Except LibraryError Reply × Library :=
  (r.1.map reply, r.2)

/-- Applies a change. -/
def apply (lib : Library) : LibraryChange → Except LibraryError Reply × Library
  | .registerImage path fingerprint => replying .number (lib.registerImage path fingerprint)
  | .insertImage image => replying done (lib.insertImage image)
  | .removeImage id => replying .image (lib.removeImage id)
  | .moveImage id path => replying done (lib.moveImage id path)
  | .setFingerprint id fingerprint => replying done (lib.setFingerprint id fingerprint)
  | .tagImage id label => replying .flag (lib.tagImage id label)
  | .untagImage id label => replying .flag (lib.untagImage id label)
  | .setImageTags id labels => replying done (lib.setImageTags id labels)
  | .createTagType label symbol color => replying .number (lib.createTagType label symbol color)
  | .insertTagType id label symbol color =>
    match TagType.make id label symbol color with
    | .error e => (.error e, lib)
    | .ok t => replying done (lib.insertTagType t)
  | .removeTagType id => replying .tagType (lib.removeTagType id)
  | .createTag label typeId definition => replying .number (lib.createTag label typeId definition)
  | .insertTag id label typeId definition =>
    match Tag.make id label typeId definition with
    | .error e => (.error e, lib)
    | .ok t => replying done (lib.insertTag t)
  | .redefineTag label definition => replying done (lib.redefineTag label definition)
  | .setTagType label typeId => replying done (lib.setTagType label typeId)
  | .removeTag label => replying .tag (lib.removeTag label)

/-- Applies several changes. -/
def applyAll (lib : Library) (changes : List LibraryChange) : Library :=
  changes.foldl (fun lib c => (lib.apply c).2) lib

end Library

/-! ## Types and tags as they are given -/

/-- A change of a library, or the addition of a type or of a tag that was put together without the
checks of `TagType.make` and `Tag.make`. -/
inductive RawChange where
  | checked (change : LibraryChange)
  | insertTagType (t : TagType)
  | insertTag (t : Tag)
  deriving DecidableEq

/-- The number under which a change adds something. -/
def RawChange.number? (s : Snapshot) : RawChange → Option Int
  | .checked (.registerImage ..) => some s.index.nextImageId
  | .checked (.insertImage image) => some image.id
  | .checked (.createTagType ..) => some s.catalog.nextTypeId
  | .checked (.insertTagType id ..) => some id
  | .checked (.createTag ..) => some s.catalog.nextTagId
  | .checked (.insertTag id ..) => some id
  | .checked _ => none
  | .insertTagType t => some t.id
  | .insertTag t => some t.id

namespace Library

/-- Applies a change. -/
def applyRaw (lib : Library) : RawChange → Except LibraryError Reply × Library
  | .checked change => lib.apply change
  | .insertTagType t => replying done (lib.insertTagType t)
  | .insertTag t => replying done (lib.insertTag t)

/-- Applies several changes. -/
def applyAllRaw (lib : Library) (changes : List RawChange) : Library :=
  changes.foldl (fun lib c => (lib.applyRaw c).2) lib

/-- The numbers that changes give one after the other have 64 bits. -/
def Numbers (lib : Library) : List RawChange → Prop
  | [] => True
  | c :: changes =>
    (∀ i ∈ c.number? lib.snapshot, IsNumber i) ∧ (lib.applyRaw c).2.Numbers changes

instance decidableNumbers (lib : Library) : (changes : List RawChange) →
    Decidable (lib.Numbers changes)
  | [] => inferInstanceAs (Decidable True)
  | c :: changes =>
    have := decidableNumbers (lib.applyRaw c).2 changes
    inferInstanceAs (Decidable (_ ∧ _))

end Library

end Gallery
