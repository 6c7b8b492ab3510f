import Gallery.Reply

/-!
# `Gallery.Index.Change` — histories of an index

## Contents
- `IndexChange`, the changes of an index as data.
- `Index.apply`, the answer to a change and the index after it; `Index.applyAll`, the index after
  several changes, whether they succeed or not.
-/

namespace Gallery

/-- A change of an index. -/
inductive IndexChange where
  | insertImage (image : Image)
  | removeImage (id : ImageId)
  | moveImage (id : ImageId) (path : String)
  | setFingerprint (id : ImageId) (fingerprint : Option Fingerprint)
  | tag (id : ImageId) (label : String)
  | untag (id : ImageId) (label : String)
  | setLabels (id : ImageId) (labels : List String)
  | dropLabel (label : String)
  deriving DecidableEq

namespace Index

/-- Applies a change. -/
def apply (x : Index) : IndexChange → Except LibraryError Reply × Index
  | .insertImage image => settleDone x (x.insertImage image)
  | .removeImage id => settle x .image (x.removeImage id)
  | .moveImage id path => settleDone x (x.moveImage id path)
  | .setFingerprint id fingerprint => settleDone x (x.setFingerprint id fingerprint)
  | .tag id label => settle x .flag (x.tag id label)
  | .untag id label => settle x .flag (x.untag id label)
  | .setLabels id labels => settleDone x (x.setLabels id labels)
  | .dropLabel label => (.ok .done, x.dropLabel label)

/-- Applies several changes. -/
def applyAll (x : Index) (changes : List IndexChange) : Index :=
  changes.foldl (fun x c => (x.apply c).2) x

end Index

end Gallery
