import Gallery.Query.Cache
import Gallery.Query.Parser

/-!
# `Gallery.Query.Resolve` — expanding compound tags

Resolving replaces every compound tag of a query by its definition, itself resolved, and every
unknown tag by the query without images.  The labels whose definitions are being expanded form a
stack; meeting one of them again is a cycle.  The recursion ends because every label on the stack is a
different label of the catalog.

## Contents
- `Trace`, what is collected on the way, and `Resolving`, computations that collect it and use the
  cache.
- `expandWith`, the replacement of the tags of a query by a given expansion of each.
- `expandTag`, the expansion of one tag; `resolve`, that of a query.
-/

namespace Gallery.Query

/-- The labels met and the warnings given so far, each once. -/
structure Trace where
  visited : List String := []
  warnings : List Warning := []
  deriving DecidableEq

/-- The members of a list followed by those of a second that are not in it. -/
def appendNew {α : Type} [DecidableEq α] (as bs : List α) : List α :=
  bs.foldl (fun as b => if as.contains b then as else as ++ [b]) as

/-- The trace with the contents of another. -/
def Trace.merge (t : Trace) (visited : List String) (warnings : List Warning) : Trace :=
  ⟨appendNew t.visited visited, appendNew t.warnings warnings⟩

/-- A computation that may fail, adds to a trace, and reads and fills the cache.  What it has put
into the cache stays there when it fails. -/
def Resolving (α : Type) : Type := Trace → Cache → Except QueryError (α × Trace) × Cache

namespace Resolving

instance : Monad Resolving where
  pure a := fun t k => (.ok (a, t), k)
  bind m f := fun t k =>
    match m t k with
    | (.error e, k) => (.error e, k)
    | (.ok (a, t), k) => f a t k

/-- Fails. -/
def fail {α : Type} (e : QueryError) : Resolving α := fun _ k => (.error e, k)

/-- Adds to the trace. -/
def note (visited : List String) (warnings : List Warning) : Resolving Unit := fun t k =>
  (.ok ((), t.merge visited warnings), k)

/-- Runs a computation with a trace of its own, which becomes part of the result. -/
def isolated {α : Type} (m : Resolving α) : Resolving (α × Trace) := fun t k =>
  match m {} k with
  | (.error e, k) => (.error e, k)
  | (.ok (a, inner), k) => (.ok ((a, inner), t), k)

/-- Looks an expansion up in the cache. -/
def cached? (useCache : Bool) (label : String) (version : Version) :
    Resolving (Option Expansion) := fun t k =>
  (.ok (if useCache then k.get? label version else none, t), k)

/-- Keeps an expansion in the cache. -/
def keep (useCache : Bool) (label : String) (x : Expansion) : Resolving Unit := fun t k =>
  (.ok ((), t), if useCache then k.insert label x else k)

end Resolving

open Resolving

mutual

/-- Replaces each tag of a query by what `f` gives for its label, from left to right. -/
def expandWith (f : String → Resolving Expr) : Expr → Resolving Expr
  | .tag l => f l
  | .neg e => do return .neg (← expandWith f e)
  | .all es => do return .all (← expandEach f es)
  | .any es => do return .any (← expandEach f es)
  | e => pure e

/-- Replaces the tags of each query of a list. -/
def expandEach (f : String → Resolving Expr) : List Expr → Resolving (List Expr)
  | [] => pure []
  | e :: es => do
    let e ← expandWith f e
    return e :: (← expandEach f es)

end

/-- The labels of the catalog that are not on the stack. -/
def unvisited (c : Catalog) (stack : List String) : List String :=
  c.tags.keys.filter fun l => !stack.contains l

/-- Putting a label of the catalog on the stack leaves fewer labels. -/
theorem length_unvisited_lt {c : Catalog} {stack : List String} {label : String} {t : Tag}
    (h : c.tag? label = some t) (hs : label ∉ stack) :
    (unvisited c (stack ++ [label])).length < (unvisited c stack).length := by
  have hk : label ∈ c.tags.keys := Table.mem_keys_iff.2 (by
    rw [Catalog.tag?] at h
    simp [h])
  have hsub : unvisited c (stack ++ [label])
      = (unvisited c stack).filter fun l => decide (l ≠ label) := by
    simp only [unvisited, List.filter_filter]
    apply List.filter_congr
    intro l _
    by_cases hl : l = label <;> simp [hl]
  rw [hsub]
  exact List.length_filter_lt_length_iff_exists.2
    ⟨label, List.mem_filter.2 ⟨hk, by simpa using hs⟩, by simp⟩

/-- The expansion of a tag, while the definitions of the labels on the stack are being expanded. -/
def expandTag (c : Catalog) (useCache : Bool) (stack : List String) (label : String) :
    Resolving Expr := do
  note [label] []
  match _known : c.tag? label with
  | none =>
    note [] [.unknownTag label]
    return .nothing
  | some t =>
    match t.definition with
    | none => return .tag label
    | some definition =>
      -- The label is met again while its own definition is being expanded.
      if _open : label ∈ stack then
        fail (.cyclicDefinition (stack.dropWhile (· != label) ++ [label]))
      else
        match ← cached? useCache label c.version with
        | some x =>
          note x.visited x.warnings
          return x.expr
        | none =>
          match parse definition with
          | .error e => fail (.invalidDefinition label e)
          | .ok parsed =>
            -- A trace of its own tells what this expansion rests on, whatever came before it.
            let (expr, inner) ←
              isolated (expandWith (fun l => expandTag c useCache (stack ++ [label]) l) parsed)
            keep useCache label ⟨expr, inner.visited, inner.warnings, c.version⟩
            note inner.visited inner.warnings
            return expr
termination_by (unvisited c stack).length
decreasing_by exact length_unvisited_lt _known _open

/-- A query without compound and unknown tags, and what was noticed on the way. -/
structure Resolved where
  expr : Expr
  warnings : List Warning
  deriving DecidableEq

/-- Resolves a query, with the cache if `useCache`. -/
def resolveWith (c : Catalog) (useCache : Bool) (e : Expr) (k : Cache) :
    Except QueryError Resolved × Cache :=
  match expandWith (expandTag c useCache []) e {} k with
  | (.error err, k) => (.error err, k)
  | (.ok (e, t), k) => (.ok ⟨e, t.warnings⟩, k)

/-- Resolves a query without a cache. -/
def resolve (c : Catalog) (e : Expr) : Except QueryError Resolved :=
  (resolveWith c false e .empty).1

end Gallery.Query
