import Gallery.Regex.ClassParser
import Gallery.Regex.Matching

/-!
# `Gallery.Query.Glob` — wildcard patterns

In a glob a star stands for any run of characters and a question mark for exactly one; a backslash
takes the meaning from the character after it.  A glob describes whole texts.

## Contents
- `GlobItem`, the parts of a glob, and `Glob.parse`.
- `Glob.Describes`, which texts a glob describes, read part by part.
- `Glob.literal?`, the text of a glob without wildcards.
- `Glob.expression`, the expression that is written for a glob; `Glob.toRegex`, the expression that
  matches what the glob describes.
-/

namespace Gallery.Query

/-- A part of a glob. -/
inductive GlobItem where
  | char (c : Char)
  /-- Exactly one character. -/
  | one
  /-- Any number of characters. -/
  | many
  deriving DecidableEq, Repr

/-- A wildcard pattern. -/
abbrev Glob := List GlobItem

namespace Glob

/-- The glob written in a text; `none` if the text ends in the middle of an escape. -/
def parse : List Char → Option Glob
  | [] => some []
  | ['\\'] => none
  | '\\' :: c :: rest => (parse rest).map (.char c :: ·)
  | '*' :: rest => (parse rest).map (.many :: ·)
  | '?' :: rest => (parse rest).map (.one :: ·)
  | c :: rest => (parse rest).map (.char c :: ·)

/-- `Describes g text`: the whole text is a run of texts, one for each part of the glob. -/
inductive Describes : Glob → List Char → Prop
  | nil : Describes [] []
  | char {c : Char} {g : Glob} {text : List Char} (rest : Describes g text) :
      Describes (.char c :: g) (c :: text)
  | one {c : Char} {g : Glob} {text : List Char} (rest : Describes g text) :
      Describes (.one :: g) (c :: text)
  | many {run : List Char} {g : Glob} {text : List Char} (rest : Describes g text) :
      Describes (.many :: g) (run ++ text)

/-- The only text that the glob describes, if it has no wildcard. -/
def literal? : Glob → Option (List Char)
  | [] => some []
  | .char c :: rest => (literal? rest).map (c :: ·)
  | .one :: _ | .many :: _ => none

/-- The expression of one part, as it is written. -/
def itemExpression : GlobItem → List Char
  | .char c => if Regex.isMeta c then ['\\', c] else [c]
  | .one => ['.']
  | .many => ['.', '*']

/-- The expression of a glob, as it is written: anchored at both ends, in a group whose flag lets a
dot match line breaks. -/
def expression (g : Glob) : List Char :=
  ['^', '(', '?', 's', ':'] ++ (g.flatMap itemExpression ++ [')', '$'])

/-- The class of a character of a glob. -/
def charClass (ignoreCase : Bool) (c : Char) : Regex.CharClass :=
  if ignoreCase then .closeCase (.single c) else .single c

/-- The expression of one part. -/
def itemRegex (ignoreCase : Bool) : GlobItem → Regex
  | .char c => .char (charClass ignoreCase c)
  | .one => .char .any
  | .many => .repeated (.char .any) 0 none

/-- The expression that matches a text from its start to its end as the glob describes it. -/
def toRegex (ignoreCase : Bool) (g : Glob) : Regex :=
  .seq (.anchor .textStart) (.seq (.seqs (g.map (itemRegex ignoreCase))) (.anchor .textEnd))

end Glob

end Gallery.Query
