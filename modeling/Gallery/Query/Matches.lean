import Gallery.Error
import Gallery.KeySet
import Gallery.Similarity

/-!
# `Gallery.Query.Matches` — the images that answer a query

An answer is a set of images; those found by similarity also have a score.  Combining two answers
keeps the larger score of an image.

## Contents
- `Matches` with `intersect`, `union`, `difference` and `complement`.
- `mergeScores`, and its lookup equation `get?_mergeScores`.
- `Matches.ranked`, the images in the order of presentation.
-/

namespace Gallery.Query

/-- A set of images, some with scores. -/
structure Matches where
  ids : KeySet ImageId
  scores : Table ImageId Float32
  deriving DecidableEq

namespace Matches

/-- The larger of two scores that may be missing. -/
def mergeScore : Option Float32 → Option Float32 → Option Float32
  | none, b => b
  | a, none => a
  | some a, some b => some (maxScore a b)

/-- Adds one score to a table, unless it has a larger one for the image. -/
def addScore (scores : Table ImageId Float32) (entry : ImageId × Float32) :
    Table ImageId Float32 :=
  match scores.get? entry.1 with
  | none => scores.insert entry.1 entry.2
  | some s => scores.insert entry.1 (maxScore s entry.2)

/-- The scores of both tables, the larger one for an image in both. -/
def mergeScores (a b : Table ImageId Float32) : Table ImageId Float32 :=
  b.entries.foldl addScore a

theorem get?_addScore (scores : Table ImageId Float32) (entry : ImageId × Float32)
    (id : ImageId) :
    (addScore scores entry).get? id
      = if id = entry.1 then mergeScore (scores.get? id) (some entry.2) else scores.get? id := by
  unfold addScore
  by_cases h : id = entry.1
  · subst h
    cases hs : scores.get? entry.1 <;> simp [mergeScore]
  · cases hs : scores.get? entry.1 <;> simp [Table.get?_insert_of_ne, h]

theorem get?_foldl_addScore (l : List (ImageId × Float32))
    (hl : l.Pairwise fun a b => compare a.1 b.1 = .lt) (a : Table ImageId Float32) (id : ImageId) :
    (l.foldl addScore a).get? id
      = mergeScore (a.get? id) ((l.find? fun e => compare id e.1 == .eq).map (·.2)) := by
  induction l generalizing a with
  | nil => cases h : a.get? id <;> simp [mergeScore, h]
  | cons e l ih =>
    obtain ⟨he, hl⟩ := List.pairwise_cons.1 hl
    rw [List.foldl_cons, ih hl, get?_addScore]
    by_cases h : id = e.1
    · subst h
      have hnone : (l.find? fun f => compare e.1 f.1 == .eq) = none := by
        rw [List.find?_eq_none]
        intro f hf
        simp [he f hf]
      rw [hnone]
      cases a.get? e.1 <;> simp [mergeScore]
    · have hne : (compare id e.1 == .eq) = false := by simpa using h
      simp [h, hne]

/-- The merged score of an image is the larger of its two scores. -/
theorem get?_mergeScores (a b : Table ImageId Float32) (id : ImageId) :
    (mergeScores a b).get? id = mergeScore (a.get? id) (b.get? id) :=
  get?_foldl_addScore b.entries b.sorted a id

/-- No image. -/
def none : Matches := ⟨KeySet.empty, ∅⟩

/-- Images without scores. -/
def ofIds (ids : KeySet ImageId) : Matches := ⟨ids, ∅⟩

/-- Whether there is no image. -/
def isEmpty (m : Matches) : Bool := m.ids.isEmpty

/-- The images in both answers. -/
def intersect (m n : Matches) : Matches :=
  let ids := m.ids.inter n.ids
  ⟨ids, (mergeScores m.scores n.scores).filter fun id _ => ids.has id⟩

/-- The images in either answer. -/
def union (m n : Matches) : Matches := ⟨m.ids.union n.ids, mergeScores m.scores n.scores⟩

/-- The images of `m` that are not in `n`, with their scores. -/
def difference (m n : Matches) : Matches :=
  ⟨m.ids.diff n.ids, m.scores.filter fun id _ => !n.ids.has id⟩

/-- The images of a universe that are not in the answer, without scores. -/
def complement (m : Matches) (universe_ : KeySet ImageId) : Matches := ofIds (universe_.diff m.ids)

/-- Whether the first of two scored images comes first: a higher score, or the same score and a
number that is not larger. -/
def rankedBefore (a b : ImageId × Float32) : Bool :=
  if scoreKey a.2 = scoreKey b.2 then a.1 ≤ b.1 else scoreKey b.2 < scoreKey a.2

/-- The images with a score. -/
def scored (m : Matches) : List (ImageId × Float32) :=
  m.ids.toList.filterMap fun id => (m.scores.get? id).map (id, ·)

/-- The images without a score. -/
def unscored (m : Matches) : List ImageId := m.ids.toList.filter fun id => !m.scores.contains id

/-- All images: first those with a score, highest score first and equal scores by number, then the
others by number. -/
def ranked (m : Matches) : List (ImageId × Option Float32) :=
  (m.scored.mergeSort rankedBefore).map (fun e => (e.1, some e.2))
    ++ m.unscored.map (·, Option.none)

end Matches

end Gallery.Query
