import Gallery.Library.Change

/-!
# `Gallery.Library.Stepwise` — changes made step by step

A change of an index or a catalog is a function to another index or catalog, so of a refused one
nothing is left.  Tables that are changed where they are have no such luck: what is written before a
refusal stays written, and nobody takes it back.  Here every change is written down that way, one table
at a time, as a program that reads, refuses and writes; some of them write before they know whether the
change is allowed.

## Contents
- `InPlace`, programs that write as they go.
- `Index.Stepwise` and `Catalog.Stepwise`, one program for each change.
- `LibraryChange.affected` and `LibraryChange.program`, a change of a library.
-/

namespace Gallery

/-- A computation on a state.  What it has written before it refuses stays written. -/
abbrev InPlace (σ : Type) := ExceptT LibraryError (StateM σ)

/-! ## Changes of an index -/

namespace Index.Stepwise

/-- Writes the postings, where the other tables do not matter. -/
def patch (f : Table String (KeySet ImageId) → Table String (KeySet ImageId)) : InPlace Index Unit :=
  modify fun x => { x with postings := f x.postings }

def insertImage (image : Image) : InPlace Index Unit := do
  if (← get).paths.contains image.path then throw (.duplicatePath image.path)
  if let some old := (← get).images.get? image.id then throw (.duplicatePath old.path)
  modify fun x => { x with paths := x.paths.insert image.path image.id }
  modify fun x => { x with images := x.images.insert image.id image }

/-- The image is taken out of the table before it is known whether it was there. -/
def removeImage (id : ImageId) : InPlace Index Image := do
  let old := (← get).images.get? id
  modify fun x => { x with images := x.images.erase id }
  match old with
  | none => throw (.unknownImage id)
  | some image =>
    modify fun x => { x with paths := x.paths.erase image.path }
    let labels := (← get).labelsOf id
    modify fun x => { x with labels := x.labels.erase id }
    labels.toList.forM fun l => patch (removeFromPosting · id l)
    return image

def moveImage (id : ImageId) (path : String) : InPlace Index Unit := do
  if ((← get).paths.get? path).any (· != id) then throw (.duplicatePath path)
  match (← get).images.get? id with
  | none => throw (.unknownImage id)
  | some image =>
    modify fun x => { x with paths := x.paths.erase image.path }
    modify fun x => { x with paths := x.paths.insert path id }
    modify fun x => { x with images := x.images.insert id (.make id path image.fingerprint) }

def setFingerprint (id : ImageId) (fingerprint : Option Fingerprint) : InPlace Index Unit := do
  match (← get).images.get? id with
  | none => throw (.unknownImage id)
  | some image => modify fun x => { x with images := x.images.insert id { image with fingerprint } }

/-- The label is added to the set of the image also if it is there already. -/
def tag (id : ImageId) (label : String) : InPlace Index Bool := do
  if !(← get).images.contains id then throw (.unknownImage id)
  let old := (← get).labelsOf id
  modify fun x => { x with labels := x.labels.insert id (old.add label) }
  if !old.has label then patch (addToPosting · id label)
  return !old.has label

/-- The label is taken from the set of the image also if it is not there. -/
def untag (id : ImageId) (label : String) : InPlace Index Bool := do
  if !(← get).images.contains id then throw (.unknownImage id)
  let old := (← get).labelsOf id
  modify fun x => { x with labels := x.labels.modify id (·.remove label) }
  if old.has label then patch (removeFromPosting · id label)
  return old.has label

/-- The set of the image is gone while the postings are patched. -/
def setLabels (id : ImageId) (labels : List String) : InPlace Index Unit := do
  if !(← get).images.contains id then throw (.unknownImage id)
  let new := KeySet.ofList labels
  let old := (← get).labelsOf id
  modify fun x => { x with labels := x.labels.erase id }
  (old.diff new).toList.forM fun l => patch (removeFromPosting · id l)
  (new.diff old).toList.forM fun l => patch (addToPosting · id l)
  modify fun x => { x with labels := x.labels.insert id new }

def dropLabel (label : String) : InPlace Index Unit := do
  let ids := ((← get).postings.get? label).getD KeySet.empty
  patch (·.erase label)
  ids.toList.forM fun id =>
    modify fun x => { x with labels := x.labels.modify id (·.remove label) }

end Index.Stepwise

/-! ## Changes of a catalog -/

namespace Catalog.Stepwise

def insertType (t : TagType) : InPlace Catalog Unit := do
  if let some other := (← get).types.values.find? (conflict · t) then
    throw (.conflictingType other.label)
  modify fun c => { c with types := c.types.insert t.id t }

/-- The type is taken out of the table before it is known whether it was there. -/
def removeType (id : TypeId) : InPlace Catalog TagType := do
  let old := (← get).types.get? id
  modify fun c => { c with types := c.types.erase id }
  match old with
  | none => throw (.unknownTagType id)
  | some t =>
    modify fun c => { c with
      tags := c.tags.map fun _ tag =>
        if tag.typeId = some id then { tag with typeId := none } else tag }
    return t

def insertTag (fresh : Version) (t : Tag) : InPlace Catalog Unit := do
  if (← get).tags.contains t.label then throw (.duplicateTag t.label)
  if let some id := (← get).unknownType? t.typeId then throw (.unknownTagType id)
  modify fun c => { c with tags := c.tags.insert t.label t }
  modify fun c => { c with version := fresh }

/-- The tag is taken out of the table before it is known whether it was there. -/
def removeTag (fresh : Version) (label : String) : InPlace Catalog Tag := do
  let old := (← get).tags.get? label
  modify fun c => { c with tags := c.tags.erase label }
  match old with
  | none => throw (.unknownTag label)
  | some t =>
    modify fun c => { c with version := fresh }
    return t

def setDefinition (fresh : Version) (label : String) (definition : Option String) :
    InPlace Catalog Unit := do
  match (← get).tags.get? label with
  | none => throw (.unknownTag label)
  | some t =>
    if t.definition ≠ definition then
      modify fun c => { c with tags := c.tags.insert label { t with definition } }
      modify fun c => { c with version := fresh }

def setType (label : String) (typeId : Option TypeId) : InPlace Catalog Unit := do
  if let some id := (← get).unknownType? typeId then throw (.unknownTagType id)
  match (← get).tags.get? label with
  | none => throw (.unknownTag label)
  | some t => modify fun c => { c with tags := c.tags.insert label { t with typeId } }

end Catalog.Stepwise

/-! ## Changes of a library -/

namespace Snapshot.Stepwise

variable {α : Type}

/-- Works on the index. -/
def onIndex (p : InPlace Index α) : InPlace Snapshot α := fun s =>
  let (answer, index) := p.run s.index
  (answer, { s with index })

/-- Works on the catalog. -/
def onCatalog (p : InPlace Catalog α) : InPlace Snapshot α := fun s =>
  let (answer, catalog) := p.run s.catalog
  (answer, { s with catalog })

/-- Refuses a label that cannot be given to images. -/
def checkAssignable (label : String) : InPlace Snapshot Unit := do
  match (← get).catalog.tag? label with
  | none => throw (.unknownTag label)
  | some t => if t.isCompound then throw (.compoundAssociation label)

end Snapshot.Stepwise

open Snapshot.Stepwise

namespace LibraryChange

/-- The labels whose meaning a change may concern. -/
def affected : LibraryChange → List String
  | .createTag label .. | .insertTag _ label .. | .redefineTag label _ | .removeTag label => [label]
  | _ => []

/-- What a change does to the snapshot, step by step. -/
@[simp]
def program (fresh : Version) : LibraryChange → InPlace Snapshot Reply
  | .registerImage path fingerprint => do
    let id := (← get).index.nextImageId
    onIndex (Index.Stepwise.insertImage (.make id path fingerprint))
    return .number id
  | .insertImage image => do
    onIndex (Index.Stepwise.insertImage image)
    return .done
  | .removeImage id => return .image (← onIndex (Index.Stepwise.removeImage id))
  | .moveImage id path => do
    onIndex (Index.Stepwise.moveImage id path)
    return .done
  | .setFingerprint id fingerprint => do
    onIndex (Index.Stepwise.setFingerprint id fingerprint)
    return .done
  | .tagImage id label => do
    checkAssignable label
    return .flag (← onIndex (Index.Stepwise.tag id label))
  | .untagImage id label => return .flag (← onIndex (Index.Stepwise.untag id label))
  | .setImageTags id labels => do
    labels.forM checkAssignable
    onIndex (Index.Stepwise.setLabels id labels)
    return .done
  | .createTagType label symbol color => do
    let id := (← get).catalog.nextTypeId
    match TagType.make id label symbol color with
    | .error e => throw e
    | .ok t =>
      onCatalog (Catalog.Stepwise.insertType t)
      return .number id
  | .insertTagType id label symbol color => do
    match TagType.make id label symbol color with
    | .error e => throw e
    | .ok t =>
      onCatalog (Catalog.Stepwise.insertType t)
      return .done
  | .removeTagType id => return .tagType (← onCatalog (Catalog.Stepwise.removeType id))
  | .createTag label typeId definition => do
    let id := (← get).catalog.nextTagId
    match Tag.make id label typeId definition with
    | .error e => throw e
    | .ok t =>
      onCatalog (Catalog.Stepwise.insertTag fresh t)
      return .number id
  | .insertTag id label typeId definition => do
    match Tag.make id label typeId definition with
    | .error e => throw e
    | .ok t =>
      onCatalog (Catalog.Stepwise.insertTag fresh t)
      return .done
  | .redefineTag label definition => do
    if definition.isSome && 0 < (← get).index.postingSize label then
      throw (.compoundAssociation label)
    onCatalog (Catalog.Stepwise.setDefinition fresh label definition)
    return .done
  | .setTagType label typeId => do
    onCatalog (Catalog.Stepwise.setType label typeId)
    return .done
  | .removeTag label => do
    let t ← onCatalog (Catalog.Stepwise.removeTag fresh label)
    onIndex (Index.Stepwise.dropLabel label)
    return .tag t

end LibraryChange

end Gallery
