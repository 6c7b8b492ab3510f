import Gallery.Catalog
import Gallery.Query.Error

/-!
# `Gallery.Query.Cache` — expansions of compound tags that are kept

Expanding a compound tag is repeated work, so the result is kept under the label with the version of
the catalog that it was made from.  An entry is used for that version only.  When the catalog changes,
the entries that depend on a changed label are dropped and the others are carried over.

## Contents
- `Expansion`, what is kept, and `Cache`.
- `Cache.get?`, `Cache.insert`, `Cache.invalidate`, with their lookup equations.
-/

namespace Gallery.Query

/-- The expansion of a compound tag. -/
structure Expansion where
  expr : Expr
  /-- All labels met on the way, known or not. -/
  visited : List String
  warnings : List Warning
  /-- The version of the catalog that it was made from. -/
  version : Version
  deriving DecidableEq

/-- The expansions that are kept, by label. -/
structure Cache where
  entries : Table String Expansion := ∅
  deriving DecidableEq

namespace Cache

/-- The cache without entries. -/
def empty : Cache := ⟨∅⟩

instance : Inhabited Cache := ⟨empty⟩

/-- The number of entries. -/
def size (k : Cache) : Nat := k.entries.size

/-- The expansion of a label for a version of the catalog. -/
def get? (k : Cache) (label : String) (version : Version) : Option Expansion :=
  (k.entries.get? label).filter fun x => x.version == version

/-- Keeps an expansion, unless there is one from a later version. -/
def insert (k : Cache) (label : String) (x : Expansion) : Cache :=
  if (k.entries.get? label).any fun old => x.version < old.version then k
  else ⟨k.entries.insert label x⟩

/-- Whether an expansion of `label` rests on none of the given labels. -/
def avoids (labels : List String) (label : String) (x : Expansion) : Bool :=
  labels.all fun l => l != label && !x.visited.contains l

/-- Carries the cache over to a catalog that has the version `target` and differs at the given labels
from the one with the version `source`: what rests on one of the labels or is older is dropped. -/
def invalidate (k : Cache) (labels : List String) (source target : Version) : Cache :=
  ⟨(k.entries.filter fun label x => x.version == source && avoids labels label x).map
    fun _ x => { x with version := target }⟩

@[simp, grind =] theorem get?_empty (label : String) (version : Version) :
    empty.get? label version = none := rfl

theorem get?_eq_some_iff {k : Cache} {label : String} {version : Version} {x : Expansion} :
    k.get? label version = some x ↔ k.entries.get? label = some x ∧ x.version = version := by
  simp [get?, Option.filter_eq_some_iff]

/-- An entry after an insertion is the inserted one or was there before. -/
theorem get?_entries_insert (k : Cache) (label label' : String) (x : Expansion) :
    (k.insert label x).entries.get? label'
      = if label' = label ∧ (k.entries.get? label).any (fun old => x.version < old.version) = false
        then some x else k.entries.get? label' := by
  unfold insert
  split
  · rename_i h
    simp [h]
  · rename_i h
    rw [Table.get?_insert]
    simp [Bool.eq_false_iff.2 h]

/-- The entries after an invalidation are the sound ones, with the new version. -/
theorem get?_entries_invalidate (k : Cache) (labels : List String) (source target : Version)
    (label : String) :
    (k.invalidate labels source target).entries.get? label
      = ((k.entries.get? label).filter fun x => x.version == source && avoids labels label x).map
          fun x => { x with version := target } := by
  rw [invalidate, Table.get?_map, Table.get?_filter]

end Cache

end Gallery.Query
