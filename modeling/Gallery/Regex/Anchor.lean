import Gallery.Regex.CharClass

/-!
# `Gallery.Regex.Anchor` — conditions on a place between characters

An anchor matches no character.  It holds or fails at a place in a text, and only the characters on
either side of the place decide that.

## Contents
- `Boundary`, the kinds of word boundary, and `Anchor`.
- `Anchor.holds`, by the neighbours of the place.
-/

namespace Gallery.Regex

/-- A relation between the place and the words around it. -/
inductive Boundary where
  | edge
  | notEdge
  | start
  | finish
  | startHalf
  | finishHalf
  deriving DecidableEq, Repr

/-- Whether the boundary lies between a left and a right side, given which of them is a word. -/
def Boundary.holds : Boundary → (left right : Bool) → Bool
  | edge, l, r => l != r
  | notEdge, l, r => l == r
  | start, l, r => !l && r
  | finish, l, r => l && !r
  | startHalf, l, _ => !l
  | finishHalf, _, r => !r

/-- A condition on a place in a text. -/
inductive Anchor where
  | textStart
  | textEnd
  | lineStart
  | lineEnd
  /-- The start of a line where a carriage return, too, ends lines. -/
  | crlfLineStart
  | crlfLineEnd
  | word (b : Boundary)
  | asciiWord (b : Boundary)
  deriving DecidableEq, Repr

/-- Whether the anchor holds between the characters `before` and `after`; `none` stands for an end
of the text. -/
def Anchor.holds (before after : Option Char) : Anchor → Bool
  | textStart => before.isNone
  | textEnd => after.isNone
  | lineStart => before.isNone || before == some '\n'
  | lineEnd => after.isNone || after == some '\n'
  | crlfLineStart =>
    before.isNone || before == some '\n' || (before == some '\r' && after != some '\n')
  | crlfLineEnd =>
    after.isNone || after == some '\r' || (after == some '\n' && before != some '\r')
  | word b => b.holds (before.any isPatternWord) (after.any isPatternWord)
  | asciiWord b => b.holds (before.any isAsciiWord) (after.any isAsciiWord)

end Gallery.Regex
