import Gallery.Regex.Tree
import Gallery.Text.Rest
import Gallery.Text.Property

/-!
# `Gallery.Regex.Scan` — readers over the text of a pattern

A scanner reads from the front of a text and may refuse it.  Its type says that it never returns
more than it was given, which is what the loops of the parser rest on.

## Contents
- `Scan` with its monad operations.
- The readers `peek`, `next`, `accept`, `blanks`, `run` and `skipWhile`.
-/

namespace Gallery.Regex

open Gallery.Text

/-- Reads a value from the front of a text, or refuses the text. -/
def Scan (α : Type) : Type := (s : List Char) → Except Error (α × Rest s)

namespace Scan

instance : Monad Scan where
  pure a := fun s => .ok (a, Rest.all s)
  bind m f := fun s =>
    match m s with
    | .error e => .error e
    | .ok (a, r) =>
      match f a r.1 with
      | .error e => .error e
      | .ok (b, t) => .ok (b, r.trans t)

/-- Refuses the text. -/
def refuse {α : Type} (e : Error) : Scan α := fun _ => .error e

/-- The next character, left in place. -/
def peek : Scan (Option Char) := fun s => .ok (s.head?, Rest.all s)

/-- Takes the next character, if there is one. -/
def next : Scan (Option Char) := fun s =>
  match s with
  | [] => .ok (none, Rest.all [])
  | c :: r => .ok (some c, Rest.tail r)

/-- Takes the characters of `word` if the text starts with them. -/
def accept (word : List Char) : Scan Bool := fun s =>
  if word.isPrefixOf s then .ok (true, ⟨s.drop word.length, by simp⟩)
  else .ok (false, Rest.all s)

/-- What follows the blanks and comments at the front; `inComment` if a comment is open. -/
def dropBlanks (inComment : Bool) : List Char → List Char
  | [] => []
  | c :: r =>
    if inComment then dropBlanks (c != '\n') r
    else if isWhitespace c then dropBlanks false r
    else if c == '#' then dropBlanks true r
    else c :: r

theorem length_dropBlanks_le (inComment : Bool) (s : List Char) :
    (dropBlanks inComment s).length ≤ s.length := by
  induction s generalizing inComment with
  | nil => simp [dropBlanks]
  | cons c r ih =>
    simp only [dropBlanks]
    repeat' split
    all_goals first | exact Nat.le_refl _ | exact Nat.le_succ_of_le (ih _)

/-- What follows the blanks and comments at the front where `space` says that they do not count. -/
def afterBlanks (space : Bool) (s : List Char) : Rest s :=
  if space then ⟨dropBlanks false s, length_dropBlanks_le false s⟩ else Rest.all s

/-- Skips blanks and comments where they do not count. -/
def blanks (space : Bool) : Scan Unit := fun s => .ok ((), afterBlanks space s)

/-- Takes the characters that satisfy `p`; blanks and comments among them are left out where they do
not count. -/
def takeRun (space : Bool) (p : Char → Bool) (inComment : Bool) :
    (s : List Char) → List Char × Rest s
  | [] => ([], Rest.all [])
  | c :: r =>
    let skip (comment : Bool) : List Char × Rest (c :: r) :=
      let (w, t) := takeRun space p comment r
      (w, t.ofTail)
    if inComment then skip (c != '\n')
    else if space && isWhitespace c then skip false
    else if space && c == '#' then skip true
    else if p c then
      let (w, t) := takeRun space p false r
      (c :: w, t.ofTail)
    else ([], Rest.all (c :: r))

/-- Takes the longest run of characters that satisfy `p`. -/
def run (space : Bool) (p : Char → Bool) : Scan (List Char) := fun s =>
  .ok (takeRun space p false s)

/-- Skips the longest run of characters that satisfy `p`. -/
def skipWhile (p : Char → Bool) : Scan Unit := fun s => .ok ((), Rest.dropWhile p s)

end Scan

end Gallery.Regex
