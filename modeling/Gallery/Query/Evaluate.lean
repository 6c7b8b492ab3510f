import Gallery.Index
import Gallery.Query.Matches
import Gallery.Query.Simplify

/-!
# `Gallery.Query.Evaluate` — answering a query on an index

The operands of a conjunction are answered from the cheapest on, until no image is left; a negated
operand is subtracted.  While images are scanned, a token tells again and again whether to stop; a
scan that was cut short is never used, because the token is read once more after it.

## Contents
- `CancelToken`, what each reading of the token answers, and `Watched`, computations that read it.
- `plan`, the query with the operands of its conjunctions in order.
- `scan`, `similarTo`, `metatag`, the answers that take a look at all images.
- `run`, the answer to a planned query; `evaluate`, the answer to a query.
-/

namespace Gallery.Query

/-- A computation was told to stop. -/
inductive Cancelled where
  | cancelled
  deriving DecidableEq, Repr

/-- The description of the error. -/
def Cancelled.message : Cancelled → String
  | cancelled => "evaluation cancelled"

/-- A flag that is read during a computation and may be raised meanwhile. -/
structure CancelToken where
  /-- What the reading with the given number, counted from zero, answers. -/
  raisedAt : Nat → Bool

/-- A computation that reads the token; its state is the number of readings so far. -/
abbrev Watched := StateT Nat (Except Cancelled)

namespace CancelToken

/-- The token of a computation that is not cancelled. -/
def never : CancelToken := ⟨fun _ => false⟩

/-- The token that is raised from the reading with the given number on. -/
def raisedFrom (n : Nat) : CancelToken := ⟨fun i => n ≤ i⟩

/-- The token of a computation that was cancelled before it started. -/
def always : CancelToken := raisedFrom 0

/-- Reads the token. -/
def read (tok : CancelToken) : Watched Bool := fun n => .ok (tok.raisedAt n, n + 1)

/-- Reads the token and stops if it is raised. -/
def check (tok : CancelToken) : Watched Unit := fun n =>
  if tok.raisedAt n then .error .cancelled else .ok ((), n + 1)

end CancelToken

/-! ## Planning -/

/-- How an operand of a conjunction is ranked: by cost, then positive before negated, then by the
number of images with the tag. -/
structure Estimate where
  cost : Nat
  negated : Bool
  size : Nat
  deriving DecidableEq, Repr

/-- Whether an operand may be answered before another. -/
def Estimate.le (a b : Estimate) : Bool :=
  if a.cost ≠ b.cost then a.cost < b.cost
  else if a.negated ≠ b.negated then !a.negated
  else a.size ≤ b.size

/-- The rank of an operand, given the number of images with each tag. -/
def estimate (size : String → Nat) (e : Expr) : Estimate where
  cost := e.cost
  negated :=
    match e with
    | .neg _ => true
    | _ => false
  size :=
    match e with
    | .tag l => size l
    | _ => 0

mutual

/-- The query with the operands of every conjunction sorted by rank. -/
def plan (size : String → Nat) : Expr → Expr
  | .neg e => .neg (plan size e)
  | .all es => .all ((planList size es).mergeSort fun d e => (estimate size d).le (estimate size e))
  | .any es => .any (planList size es)
  | e => e

/-- Plans each query of a list. -/
def planList (size : String → Nat) : List Expr → List Expr
  | [] => []
  | e :: es => plan size e :: planList size es

end

/-! ## Metadata of all images -/

section

variable (tok : CancelToken)

/-- Collects what `f` finds at the images, skipping the rest once the token is raised. -/
def collect {α : Type} (f : ImageId → Image → Option α) :
    List (ImageId × Image) → Watched (List (ImageId × α))
  | [] => pure []
  | (id, image) :: rest => do
    -- The token is read once for every image, also after it was raised.
    let raised ← tok.read
    let found ← collect f rest
    if raised then return found
    match f id image with
    | none => return found
    | some a => return (id, a) :: found

/-- The images that satisfy `p`. -/
def scan (x : Index) (p : Image → Bool) : Watched Matches := do
  let found ← collect tok (fun _ image => if p image then some () else none) x.images.entries
  tok.check
  return .ofIds (KeySet.ofList (found.map (·.1)))

/-- The highest of some scores. -/
def bestScore? : List Float32 → Option Float32
  | [] => none
  | s :: ss => some (ss.foldl maxScore s)

/-- The images with a path that matches. -/
def references (x : Index) (p : Pattern) : List Image :=
  x.images.values.filter fun image => p.isMatch image.path

/-- The best score of an image against some reference fingerprints. -/
def similarityTo (sim : Similarity) (refs : List Fingerprint) (image : Image) : Option Float32 :=
  image.fingerprint.bind fun f => bestScore? (refs.filterMap fun r => sim.score r f)

/-- The images, other than the references, with a fingerprint similar to that of a reference. -/
def similarTo (x : Index) (sim : Similarity) (p : Pattern) : Watched Matches := do
  let refs := references x p
  tok.check
  let fingerprints := refs.filterMap (·.fingerprint)
  if fingerprints.isEmpty then return .none
  -- An image that matches the pattern is not similar to itself.
  let excluded := refs.map (·.id)
  let found ← collect tok
    (fun id image => if excluded.contains id then none else similarityTo sim fingerprints image)
    x.images.entries
  tok.check
  return ⟨KeySet.ofList (found.map (·.1)), Table.ofList found⟩

/-- The images with metadata as a metatag asks for. -/
def metatagMatches (x : Index) (sim : Similarity) (m : Metatag) : Watched Matches :=
  match m.key with
  | .type => scan tok x fun image => m.pattern.isMatch image.extension
  | .name => scan tok x fun image => m.pattern.isMatch image.name
  | .path => scan tok x fun image => m.pattern.isMatch image.path
  | .similarTo => similarTo tok x sim m.pattern

end

/-! ## Queries -/

section

variable (tok : CancelToken) (x : Index) (sim : Similarity)

mutual

/-- The answer to a planned query. -/
def run : Expr → Watched Matches
  | .nothing => do
    tok.check
    return .none
  | .everything => do
    tok.check
    return .ofIds x.ids
  | .tag l => do
    tok.check
    return .ofIds ((x.posting? l).getD KeySet.empty)
  | .metatag m => do
    tok.check
    metatagMatches tok x sim m
  | .neg e => do
    tok.check
    return (← run e).complement x.ids
  | .all es => do
    tok.check
    runAll es
  | .any es => do
    tok.check
    runAny .none es

/-- The images that satisfy all of the queries. -/
def runAll : List Expr → Watched Matches
  | [] => return .ofIds x.ids
  | e :: es => do narrow (← run e) es

/-- Those of the images found that satisfy all further queries. -/
def narrow (found : Matches) : List Expr → Watched Matches
  | [] => return found
  -- What the negated query holds of is subtracted; its complement is never formed.
  | .neg e :: es =>
    if found.isEmpty then return found
    else do narrow (found.difference (← run e)) es
  | e :: es =>
    if found.isEmpty then return found
    else do narrow (found.intersect (← run e)) es

/-- The images found and those that satisfy one of the further queries. -/
def runAny (found : Matches) : List Expr → Watched Matches
  | [] => return found
  | e :: es => do runAny (found.union (← run e)) es

end

/-- The answer to a query. -/
def evaluate (e : Expr) : Except Cancelled Matches :=
  match run tok x sim (plan x.postingSize e) 0 with
  | .error c => .error c
  | .ok (m, _) => .ok m

end

end Gallery.Query
