import Gallery.Store.Load

/-!
# `Gallery.Command.Session` — what a command works on

A command reads the library from the store, changes the library first, which refuses what is not
allowed, and then the store.  What it has written to the store and what it has printed stays when it
fails later.

## Contents
- `Failure`, why a command fails, and `Failure.chain`, its descriptions.
- `Session` and `Action`, computations on a session that can fail.
- `say`, `warn`, `ask`, `inLibrary`, `inStore`, `findImage`, `ensureTags`.
-/

namespace Gallery.Command

open Gallery.Query

/-- Why a command fails. -/
inductive Failure where
  | library (e : LibraryError)
  | query (e : QueryError)
  | store (e : StoreError)
  | missingImage (path : String)
  | missingType (label : String)
  /-- The definition of a tag cannot be resolved. -/
  | unusableDefinition (label : String) (cause : QueryError)
  deriving DecidableEq, Repr

/-- The descriptions of a failure and of its causes, outermost first. -/
def Failure.chain (describe : Regex.Error → String) : Failure → List String
  | library e => [e.message]
  | query e => e.chain describe
  | store e => [e.message]
  | missingImage path => [s!"图片不存在: {path}"]
  | missingType label => [s!"标签类型不存在: {label}"]
  | unusableDefinition label cause => s!"标签 {label} 的定义无效" :: cause.chain describe

/-- A library with the store that it was read from, and the lines printed so far. -/
structure Session where
  library : Library
  store : Store
  out : List String := []
  err : List String := []

/-- A computation on a session.  What it has done before it fails stays done. -/
abbrev Action := ExceptT Failure (StateM Session)

/-- Prints a line. -/
def say (line : String) : Action Unit := modify fun s => { s with out := s.out ++ [line] }

/-- Prints a warning. -/
def warn (w : Warning) : Action Unit :=
  modify fun s => { s with err := s.err ++ ["[WARN] " ++ w.message] }

/-- Works with the library, which may change also if it fails. -/
def ask {ε α : Type} (failure : ε → Failure) (work : Library → Except ε α × Library) :
    Action α := do
  let (answer, library) := work (← get).library
  modify fun s => { s with library }
  match answer with
  | .error e => throw (failure e)
  | .ok a => return a

/-- Changes the library. -/
def inLibrary {α : Type} (change : Library → Except LibraryError α × Library) : Action α :=
  ask .library change

/-- Changes the store. -/
def inStore {α : Type} (change : Store → Except StoreError (α × Store)) : Action α := do
  match change (← get).store with
  | .error e => throw (.store e)
  | .ok (a, store) =>
    modify fun s => { s with store }
    return a

/-- Changes the store in a way that is never refused. -/
def surely {α : Type} (change : Store → α × Store) : Action α := inStore fun s => .ok (change s)

/-- The current snapshot. -/
def current : Action Snapshot := return (← get).library.snapshot

/-- The number of the image at a path. -/
def findImage (path : String) : Action ImageId := do
  match (← current).index.imageByPath? path with
  | none => throw (.missingImage path)
  | some image => return image.id

/-- Creates a plain tag, unless there is a tag with the label. -/
def ensureTag (label : String) : Action Unit := do
  if ((← current).catalog.tag? label).isNone then
    let _ ← inLibrary fun lib => lib.createTag label none none
    let _ ← inStore fun s => s.addTag label none none

/-- Creates a plain tag for each label without a tag. -/
def ensureTags (labels : List String) : Action Unit := labels.forM ensureTag

/-- Replaces the tags of an image in the store. -/
def storeImageTags (id : ImageId) (labels : List String) : Action Unit :=
  inStore fun s => (s.setImageTags id labels).map ((), ·)

end Gallery.Command
