import Gallery.Index
import Gallery.Tag

/-!
# `Gallery.Reply` — what a change answers

## Contents
- `Reply`, the answers of all changes.
- `settle`, the answer to a change and the state after it.
-/

namespace Gallery

/-- What a change that succeeds answers. -/
inductive Reply where
  | done
  /-- The number of what was created. -/
  | number (n : Int)
  /-- Whether anything changed. -/
  | flag (b : Bool)
  /-- The image that was removed. -/
  | image (i : Image)
  /-- The type that was removed. -/
  | tagType (t : TagType)
  /-- The tag that was removed. -/
  | tag (t : Tag)
  deriving DecidableEq

/-- The answer to a change and the state after it: a change that is refused leaves the state. -/
def settle {σ α : Type} (s : σ) (reply : α → Reply) :
    Except LibraryError (α × σ) → Except LibraryError Reply × σ
  | .error e => (.error e, s)
  | .ok (a, t) => (.ok (reply a), t)

/-- The same for a change that answers nothing. -/
def settleDone {σ : Type} (s : σ) : Except LibraryError σ → Except LibraryError Reply × σ
  | .error e => (.error e, s)
  | .ok t => (.ok .done, t)

/-- A refused change leaves the state. -/
theorem settle_error {σ α : Type} {s : σ} {reply : α → Reply}
    {r : Except LibraryError (α × σ)} {e : LibraryError} (h : (settle s reply r).1 = .error e) :
    (settle s reply r).2 = s := by
  cases r with
  | error e => rfl
  | ok a => simp [settle] at h

theorem settleDone_error {σ : Type} {s : σ} {r : Except LibraryError σ} {e : LibraryError}
    (h : (settleDone s r).1 = .error e) : (settleDone s r).2 = s := by
  cases r with
  | error e => rfl
  | ok a => simp [settleDone] at h

end Gallery
