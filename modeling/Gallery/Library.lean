import Gallery.Query.Evaluate
import Gallery.Query.Resolve

/-!
# `Gallery.Library` — a collection of images that can be queried and changed

A snapshot is the catalog and the index at some moment.  A library holds the current snapshot and the
cache of expansions that all its queries share; queries may also be asked of snapshots kept from
earlier.  A change either succeeds as a whole or leaves the library as it was.

## Contents
- `Snapshot` with `onIndex` and `onCatalog`, changes of a part.
- `Compiled` and `compile`, the way from a text to a query that can be answered.
- `Library` with `query`, `validate`, `explain` and `untaggedImages`.
- `Library.mutate`, the shape of all changes, and the changes: images, labels, types, tags.
-/

namespace Gallery

open Gallery.Query

/-- The tags and images at some moment. -/
structure Snapshot where
  catalog : Catalog := ∅
  index : Index := ∅
  deriving DecidableEq

instance : EmptyCollection Snapshot := ⟨⟨∅, ∅⟩⟩

instance : Inhabited Snapshot := ⟨∅⟩

namespace Snapshot

/-- Changes the index; a refused change leaves it. -/
def onIndex {α : Type} (change : Index → Except LibraryError (α × Index)) (s : Snapshot) :
    Except LibraryError α × Snapshot :=
  match change s.index with
  | .error e => (.error e, s)
  | .ok (a, index) => (.ok a, { s with index })

/-- Changes the catalog; a refused change leaves it. -/
def onCatalog {α : Type} (change : Catalog → Except LibraryError (α × Catalog)) (s : Snapshot) :
    Except LibraryError α × Snapshot :=
  match change s.catalog with
  | .error e => (.error e, s)
  | .ok (a, catalog) => (.ok a, { s with catalog })

theorem onIndex_error {α : Type} {change : Index → Except LibraryError (α × Index)} {s : Snapshot}
    {e : LibraryError} (h : (s.onIndex change).1 = .error e) : (s.onIndex change).2 = s := by
  unfold onIndex at h ⊢
  split <;> simp_all

theorem onCatalog_error {α : Type} {change : Catalog → Except LibraryError (α × Catalog)}
    {s : Snapshot} {e : LibraryError} (h : (s.onCatalog change).1 = .error e) :
    (s.onCatalog change).2 = s := by
  unfold onCatalog at h ⊢
  split <;> simp_all

end Snapshot

/-! ## Compiling -/

/-- A query ready to be answered. -/
structure Compiled where
  expr : Expr
  warnings : List Warning
  deriving DecidableEq

/-- Whether some image with a fingerprint has a path that matches. -/
def Index.hasReference (x : Index) (p : Pattern) : Bool :=
  x.images.values.any fun image => image.fingerprint.isSome && p.isMatch image.path

/-- A warning for each comparison in a query that has nothing to compare with. -/
def missingReferences (x : Index) (e : Expr) : List Warning :=
  (e.metatags.filter fun m => m.key == .similarTo && !x.hasReference m.pattern).map
    fun m => .noReference (toString m.pattern)

/-- Parses, resolves and simplifies a query on a snapshot. -/
def Snapshot.compile (s : Snapshot) (useCache : Bool) (text : String) (k : Cache) :
    Except QueryError Compiled × Cache :=
  match parse text with
  | .error e => (.error e, k)
  | .ok e =>
    match resolveWith s.catalog useCache e k with
    | (.error e, k) => (.error e, k)
    | (.ok r, k) =>
      (.ok ⟨r.expr.simplify, appendNew r.warnings (missingReferences s.index r.expr)⟩, k)

/-! ## Libraries -/

/-- A collection of images. -/
structure Library where
  snapshot : Snapshot := ∅
  cache : Cache := .empty
  /-- A version that no catalog has had yet. -/
  fresh : Version := 1
  similarity : Similarity := default

/-- An image in an answer. -/
structure ScoredImage where
  id : ImageId
  path : String
  score : Option Float32
  deriving DecidableEq

/-- The answer to a query. -/
structure QueryOutput where
  images : List ScoredImage
  warnings : List Warning
  deriving DecidableEq

namespace Library

/-- Compiles a query on some snapshot with the library's cache. -/
def compileOn (lib : Library) (s : Snapshot) (text : String) :
    Except QueryError Compiled × Library :=
  let (result, cache) := s.compile true text lib.cache
  (result, { lib with cache })

/-- Compiles a query on the current snapshot. -/
def compile (lib : Library) (text : String) : Except QueryError Compiled × Library :=
  lib.compileOn lib.snapshot text

/-- The images of an answer with their paths, in the order of presentation. -/
def present (x : Index) (m : Matches) : List ScoredImage :=
  m.ranked.filterMap fun (id, score) => (x.images.get? id).map fun image => ⟨id, image.path, score⟩

/-- Answers a query. -/
def query (lib : Library) (text : String) (tok : CancelToken) :
    Except QueryError QueryOutput × Library :=
  match lib.compile text with
  | (.error e, lib) => (.error e, lib)
  | (.ok compiled, lib) =>
    match evaluate tok lib.snapshot.index lib.similarity compiled.expr with
    | .error .cancelled => (.error .cancelled, lib)
    | .ok m => (.ok ⟨present lib.snapshot.index m, compiled.warnings⟩, lib)

/-- The warnings of a query, without answering it. -/
def validate (lib : Library) (text : String) : Except QueryError (List Warning) × Library :=
  match lib.compile text with
  | (.error e, lib) => (.error e, lib)
  | (.ok compiled, lib) => (.ok compiled.warnings, lib)

/-- The text of the query that is answered in place of the given one. -/
def explain (lib : Library) (text : String) : Except QueryError String × Library :=
  match lib.compile text with
  | (.error e, lib) => (.error e, lib)
  | (.ok compiled, lib) => (.ok (toString compiled.expr), lib)

/-- The images without labels. -/
def untaggedImages (lib : Library) : List Image :=
  lib.snapshot.index.untagged.filterMap lib.snapshot.index.images.get?

/-- Puts another snapshot in place of the current one; nothing in the cache belongs to it. -/
def replace (lib : Library) (s : Snapshot) : Library :=
  { lib with snapshot := s, cache := .empty, fresh := s.catalog.nextFresh lib.fresh }

/-! ## Changes -/

/-- Applies a change to the snapshot and keeps what the change leaves, also if it is refused.  If the
catalog's version changes, the cache is carried over, `affected` being the labels that the change may
concern. -/
def mutate {α : Type} (lib : Library) (affected : List String)
    (change : Snapshot → Except LibraryError α × Snapshot) : Except LibraryError α × Library :=
  let (result, s) := change lib.snapshot
  let left := { lib with snapshot := s, fresh := s.catalog.nextFresh lib.fresh }
  match result with
  | .error e => (.error e, left)
  | .ok a =>
    -- With the same version the definitions are the same, and every entry stays sound.
    let source := lib.snapshot.catalog.version
    let target := s.catalog.version
    let cache :=
      if source = target then lib.cache else lib.cache.invalidate affected source target
    (.ok a, { left with cache })

/-- Applies a change of the index. -/
def mutateIndex {α : Type} (lib : Library) (change : Index → Except LibraryError (α × Index)) :
    Except LibraryError α × Library :=
  lib.mutate [] (Snapshot.onIndex change)

/-- Applies a change of the catalog that concerns the affected labels. -/
def mutateCatalog {α : Type} (lib : Library) (affected : List String)
    (change : Catalog → Except LibraryError (α × Catalog)) : Except LibraryError α × Library :=
  lib.mutate affected (Snapshot.onCatalog change)

/-- A result next to which a change returns nothing. -/
def plain {α : Type} : Except LibraryError α → Except LibraryError (Unit × α)
  | .error e => .error e
  | .ok a => .ok ((), a)

/-! ### Images -/

/-- Registers an image under the next free number. -/
def registerImage (lib : Library) (path : String) (fingerprint : Option Fingerprint) :
    Except LibraryError ImageId × Library :=
  lib.mutateIndex fun x =>
    let id := x.nextImageId
    match x.insertImage (.make id path fingerprint) with
    | .error e => .error e
    | .ok x => .ok (id, x)

/-- Registers an image that has a number. -/
def insertImage (lib : Library) (image : Image) : Except LibraryError Unit × Library :=
  lib.mutateIndex fun x => plain (x.insertImage image)

/-- Removes an image. -/
def removeImage (lib : Library) (id : ImageId) : Except LibraryError Image × Library :=
  lib.mutateIndex fun x => x.removeImage id

/-- Gives an image another path. -/
def moveImage (lib : Library) (id : ImageId) (path : String) :
    Except LibraryError Unit × Library :=
  lib.mutateIndex fun x => plain (x.moveImage id path)

/-- Gives an image another fingerprint. -/
def setFingerprint (lib : Library) (id : ImageId) (fingerprint : Option Fingerprint) :
    Except LibraryError Unit × Library :=
  lib.mutateIndex fun x => plain (x.setFingerprint id fingerprint)

/-! ### Labels of images -/

/-- Only known plain tags can be given to images: the reason why a label cannot, if it cannot. -/
def assignable (c : Catalog) (label : String) : Except LibraryError Unit :=
  match c.tag? label with
  | none => .error (.unknownTag label)
  | some t => if t.isCompound then .error (.compoundAssociation label) else .ok ()

/-- The reason why the first unsuitable label cannot be given to images, if there is one. -/
def allAssignable (c : Catalog) : List String → Except LibraryError Unit
  | [] => .ok ()
  | l :: ls =>
    match assignable c l with
    | .error e => .error e
    | .ok () => allAssignable c ls

/-- Gives an image a label; the result tells whether it is new there. -/
def tagImage (lib : Library) (id : ImageId) (label : String) :
    Except LibraryError Bool × Library :=
  lib.mutate [] fun s =>
    match assignable s.catalog label with
    | .error e => (.error e, s)
    | .ok () => s.onIndex fun x => x.tag id label

/-- Takes a label from an image; the result tells whether it was there. -/
def untagImage (lib : Library) (id : ImageId) (label : String) :
    Except LibraryError Bool × Library :=
  lib.mutateIndex fun x => x.untag id label

/-- Replaces the labels of an image. -/
def setImageTags (lib : Library) (id : ImageId) (labels : List String) :
    Except LibraryError Unit × Library :=
  lib.mutate [] fun s =>
    match allAssignable s.catalog labels with
    | .error e => (.error e, s)
    | .ok () => s.onIndex fun x => plain (x.setLabels id labels)

/-! ### Types and tags -/

/-- Creates a type under the next free number. -/
def createTagType (lib : Library) (label : String) (symbol : Char) (color : UInt32) :
    Except LibraryError TypeId × Library :=
  lib.mutateCatalog [] fun c =>
    let id := c.nextTypeId
    match TagType.make id label symbol color with
    | .error e => .error e
    | .ok t =>
      match c.insertType t with
      | .error e => .error e
      | .ok c => .ok (id, c)

/-- Adds or replaces a type that has a number. -/
def insertTagType (lib : Library) (t : TagType) : Except LibraryError Unit × Library :=
  lib.mutateCatalog [] fun c => plain (c.insertType t)

/-- Removes a type. -/
def removeTagType (lib : Library) (id : TypeId) : Except LibraryError TagType × Library :=
  lib.mutateCatalog [] fun c => c.removeType id

/-- Creates a tag under the next free number. -/
def createTag (lib : Library) (label : String) (typeId : Option TypeId)
    (definition : Option String) : Except LibraryError TagId × Library :=
  lib.mutateCatalog [label] fun c =>
    let id := c.nextTagId
    match Tag.make id label typeId definition with
    | .error e => .error e
    | .ok t =>
      match c.insertTag lib.fresh t with
      | .error e => .error e
      | .ok c => .ok (id, c)

/-- Adds a tag that has a number. -/
def insertTag (lib : Library) (t : Tag) : Except LibraryError Unit × Library :=
  lib.mutateCatalog [t.label] fun c => plain (c.insertTag lib.fresh t)

/-- Gives a tag a definition, or none.  A tag that images carry cannot become compound. -/
def redefineTag (lib : Library) (label : String) (definition : Option String) :
    Except LibraryError Unit × Library :=
  lib.mutate [label] fun s =>
    if definition.isSome && 0 < s.index.postingSize label then
      (.error (.compoundAssociation label), s)
    else s.onCatalog fun c => plain (c.setDefinition lib.fresh label definition)

/-- Gives a tag another type, or none. -/
def setTagType (lib : Library) (label : String) (typeId : Option TypeId) :
    Except LibraryError Unit × Library :=
  lib.mutateCatalog [] fun c => plain (c.setType label typeId)

/-- Removes a tag from the catalog and from all images. -/
def removeTag (lib : Library) (label : String) : Except LibraryError Tag × Library :=
  lib.mutate [label] fun s =>
    match s.onCatalog fun c => c.removeTag lib.fresh label with
    | (.error e, s) => (.error e, s)
    -- No image may carry a label that has no tag.
    | (.ok t, s) => (.ok t, { s with index := s.index.dropLabel label })

end Library

end Gallery
