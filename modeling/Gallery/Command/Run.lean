import Gallery.Command.Report
import Gallery.Command.Session

/-!
# `Gallery.Command.Run` — what each command does

## Contents
- One action for each command.
- `Command.perform`, the action of a command; `Outcome` and `Command.run`, its effect on a store.
- `Store.runAll`, the store after several commands.
-/

namespace Gallery.Command

open Gallery.Query

/-- Registers an image with tags, which are created if they are missing. -/
def performAdd (path : String) (fingerprint : Option Fingerprint) (tags : List String) :
    Action Unit := do
  let id ← inLibrary fun lib => lib.registerImage path fingerprint
  ensureTags tags
  inLibrary fun lib => lib.setImageTags id tags
  -- The store numbers the image itself, perhaps differently from the library.
  let stored ← inStore fun s => s.addImage path (fingerprint.map Fingerprint.toBytes)
  storeImageTags stored tags
  say s!"[OK] Add {path}"

/-- Gives an image another path. -/
def performMove (source target : String) : Action Unit := do
  let id ← findImage source
  inLibrary fun lib => lib.moveImage id target
  let _ ← inStore fun s => s.movePath id target
  say s!"[OK] Move {source} -> {target}"

/-- Removes an image. -/
def performRemove (path : String) : Action Unit := do
  let id ← findImage path
  let _ ← inLibrary fun lib => lib.removeImage id
  let _ ← surely fun s => s.deleteImage id
  say s!"[OK] Remove {path}"

/-- The labels of an image after a change of the present ones. -/
def changedLabels (mode : TagMode) (present tags : List String) : List String :=
  match mode with
  | .replace => tags
  | .append => present ++ tags
  | .remove => present.filter fun label => !tags.contains label

/-- Changes the tags of an image; tags to be given are created if they are missing. -/
def performTag (path : String) (tags : List String) (mode : TagMode) : Action Unit := do
  let id ← findImage path
  let labels := changedLabels mode ((← current).index.labelsOf id).toList tags
  if mode ≠ .remove then ensureTags tags
  inLibrary fun lib => lib.setImageTags id labels
  storeImageTags id labels
  say (s!"[OK] {path}: " ++ " ".intercalate labels)

/-- The number of the type with a label. -/
def findType (label : String) : Action TypeId := do
  match (← current).catalog.types.values.find? fun t => t.label == label with
  | none => throw (.missingType label)
  | some t => return t.id

/-- Makes sure that a tag can be resolved, and prints the warnings. -/
def checkDefinition (label : String) : Action Unit := do
  (← ask (.unusableDefinition label) fun lib => lib.validate label).forM warn

/-- Creates or changes a tag.  It reaches the store only when it can be resolved. -/
def performDefine (label : String) (change : DefinitionChange) (typeLabel : Option String) :
    Action Unit := do
  let given ← typeLabel.mapM findType
  match (← current).catalog.tag? label with
  | some old =>
    let definition := match change with
      | .keep => old.definition
      | .drop => none
      | .set d => some d
    let typeId := given.orElse fun _ => old.typeId
    inLibrary fun lib => lib.redefineTag label definition
    inLibrary fun lib => lib.setTagType label typeId
    checkDefinition label
    let _ ← inStore fun s => s.updateTag label typeId definition
  | none =>
    let definition := match change with
      | .set d => some d
      | _ => none
    let _ ← inLibrary fun lib => lib.createTag label given definition
    checkDefinition label
    let _ ← inStore fun s => s.addTag label given definition
  match change with
  | .set d => say s!"[OK] {label} = {d}"
  | _ => say s!"[OK] {label}"

/-- Removes a tag. -/
def performUndefine (label : String) : Action Unit := do
  let _ ← inLibrary fun lib => lib.removeTag label
  let _ ← surely fun s => s.deleteTag label
  say s!"[OK] Remove tag {label}"

/-- Creates a tag type. -/
def performDefineType (label : String) (symbol : Char) (color : UInt32) : Action Unit := do
  let _ ← inLibrary fun lib => lib.createTagType label symbol color
  let _ ← inStore fun s => s.addType label symbol.toString color.toNat
  say s!"[OK] {symbol} {label}"

/-- Answers a query. -/
def performQuery (text : String) (count : Nat) (format : OutputFormat) : Action Unit := do
  let o ← ask .query fun lib => lib.query text .never
  o.warnings.forM warn
  -- A count of zero asks for all images.
  let o := if count = 0 then o else { o with images := o.images.take count }
  (reportLines format o).forM say

/-- Checks a query. -/
def performValidate (text : String) : Action Unit := do
  (← ask .query fun lib => lib.validate text).forM warn
  say s!"[OK] {text}"

/-- Shows the query that is answered. -/
def performExplain (text : String) : Action Unit := do
  say (← ask .query fun lib => lib.explain text)

/-- Lists the images without tags. -/
def performUntagged : Action Unit := do
  ((← get).library.untaggedImages.map (·.path)).forM say

end Gallery.Command

namespace Gallery

open Gallery.Command

/-- What a command does. -/
def Command.perform : Command → Action Unit
  | add path fingerprint tags => performAdd path fingerprint tags
  | move source target => performMove source target
  | remove paths => paths.forM performRemove
  | tag path tags mode => performTag path tags mode
  | define label change typeLabel => performDefine label change typeLabel
  | undefine label => performUndefine label
  | defineType label symbol color => performDefineType label symbol color
  | query text _ count format => performQuery text count format
  | validate text => performValidate text
  | explain text => performExplain text
  | untagged => performUntagged

/-- How a command compares images. -/
def Command.similarity : Command → Similarity
  | query _ threshold _ _ => { threshold, metric := hammingDistance }
  | _ => default

/-- What a command prints, and why it fails, if it does. -/
structure Outcome where
  out : List String := []
  err : List String := []
  failure : Option Failure := none

/-- Runs a command on a store. -/
def Command.run (c : Command) (s : Store) : Outcome × Store :=
  match Library.ofStore s c.similarity with
  | .error e => ({ failure := some (.library e) }, s)
  | .ok library =>
    match c.perform.run { library, store := s } with
    | (.error e, t) => ({ out := t.out, err := t.err, failure := some e }, t.store)
    | (.ok (), t) => ({ out := t.out, err := t.err }, t.store)

/-- Runs several commands on a store, whether they succeed or not. -/
def Store.runAll (s : Store) (commands : List Command) : Store :=
  commands.foldl (fun s c => (c.run s).2) s

end Gallery
