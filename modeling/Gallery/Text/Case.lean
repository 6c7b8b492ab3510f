import Gallery.Text.Case.Fold
import Gallery.Text.Case.Lower
import Gallery.Text.Property

/-!
# `Gallery.Text.Case` — characters that differ in case only, and lowercase forms

Patterns that ignore case compare characters one by one: two characters are alike when simple case
folding sends them to the same character.  Lower-casing works character by character, too, except
that a capital sigma at the end of a word becomes the final small sigma.  One character, the capital
I with a dot, has a form of two characters.

## Contents
- `foldChar`, the character that stands for a case class; `caseClass`, all members of the class of a
  character.
- `lowerChar`, the lowercase form of one character outside any context.
- `isFinalSigma`, the context in which a sigma is final; `lowercase`, the form of a whole text.
-/

namespace Gallery.Text

/-! ## Case folding -/

/-- The character that stands for all characters differing from `c` in case only. -/
def foldChar (c : Char) : Char := CaseRun.mapChar foldRuns c

/-- The characters that differ from `c` in case only, `c` among them. -/
def caseClass (c : Char) : List Char := foldChar c :: foldRuns.filterMap (·.source? (foldChar c))

/-! ## Lowercase forms -/

/-- The lowercase form of a character by itself. -/
def lowerChar (c : Char) : List Char :=
  if c = 'İ' then ['i', '\u0307'] else [CaseRun.mapChar lowercaseRuns c]

/-- Whether the first character that is not case-ignorable is cased. -/
def startsCased (cs : List Char) : Bool :=
  match cs.dropWhile isCaseIgnorable with
  | [] => false
  | c :: _ => isCased c

/-- Whether a sigma between `before`, nearest character first, and `after` ends a word: a cased
character comes before it and none after it, case-ignorable characters aside. -/
def isFinalSigma (before after : List Char) : Bool := startsCased before && !startsCased after

/-- The lowercase form of the characters that follow `before`, which is nearest character first. -/
def lowerFrom (before : List Char) : List Char → List Char
  | [] => []
  | c :: rest =>
    (if c = 'Σ' then [if isFinalSigma before rest then 'ς' else 'σ'] else lowerChar c)
      ++ lowerFrom (c :: before) rest

/-- The lowercase form of a text. -/
def lowercase (s : String) : String := String.ofList (lowerFrom [] s.toList)

end Gallery.Text
