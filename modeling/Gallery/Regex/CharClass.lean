import Gallery.Text.Case

/-!
# `Gallery.Regex.CharClass` — sets of characters

A character class is a finite description of a set of characters: intervals and tables, closed under
the set operations and under ignoring case.

## Contents
- `CharClass` and `CharClass.contains`, membership by recursion on the description.
- `CharClass.single`, `CharClass.diff`, `CharClass.unions` and other sets made of them;
  `CharClass.ofCategory` and `CharClass.alphabetic`.
- `CharClass.word`, what counts as part of a word; `isPatternWord` and `isAsciiWord`.
- `named?`, what a name asks for.
-/

namespace Gallery.Regex

open Gallery.Text

/-- A set of characters. -/
inductive CharClass where
  | none
  | any
  | interval (first last : Char)
  /-- The characters of a table. -/
  | table (runs : List CodeRun)
  | compl (c : CharClass)
  | union (a b : CharClass)
  | inter (a b : CharClass)
  /-- The characters that differ from a member in case only. -/
  | closeCase (c : CharClass)
  /-- The same among the letters of ASCII. -/
  | closeAsciiCase (c : CharClass)
  deriving DecidableEq, Repr

namespace CharClass

/-- The class of one character. -/
def single (c : Char) : CharClass := interval c c

/-- The characters of `a` that are not in `b`. -/
def diff (a b : CharClass) : CharClass := inter a (compl b)

/-- The characters of exactly one of `a` and `b`. -/
def symmDiff (a b : CharClass) : CharClass := union (diff a b) (diff b a)

/-- The union of a list of classes. -/
def unions : List CharClass → CharClass
  | [] => none
  | [c] => c
  | c :: cs => union c (unions cs)

/-- The union of intervals. -/
def intervals (l : List (Char × Char)) : CharClass := unions (l.map fun i => interval i.1 i.2)

/-- The union of tables. -/
def tables (l : List (List CodeRun)) : CharClass := unions (l.map table)

/-- The ASCII letter that differs from `c` in case, if `c` is one; else `c`. -/
def swapAsciiCase (c : Char) : Char := if c.isUpper then c.toLower else c.toUpper

/-- Whether the class holds a character. -/
def contains : CharClass → Char → Bool
  | none, _ => false
  | any, _ => true
  | interval first last, c => first ≤ c && c ≤ last
  | table runs, c => CodeRun.anyContains runs c
  | compl a, c => !a.contains c
  | union a b, c => a.contains c || b.contains c
  | inter a b, c => a.contains c && b.contains c
  | closeCase a, c => (caseClass c).any a.contains
  | closeAsciiCase a, c => a.contains c || a.contains (swapAsciiCase c)

/-- The characters of a category. -/
def ofCategory (cat : Category) : CharClass :=
  if cat.holdsUnassigned then union (tables cat.tables) (compl (tables Category.assignedRuns))
  else tables cat.tables

/-- Letters, letterlike numerals and the marks that count as letters. -/
def alphabetic : CharClass :=
  unions [ofCategory .letter, ofCategory .letterNumber, table otherAlphabetic]

/-- The two joiners, which have no width. -/
def joinControl : CharClass := interval '\u200C' '\u200D'

/-- The characters that count as parts of words: letters, marks, digits, connectors and joiners. -/
def word : CharClass :=
  unions [alphabetic, ofCategory .mark, ofCategory .decimalNumber, ofCategory .connectorPunctuation,
    joinControl]

end CharClass

/-- What the first entry with the name asks for. -/
def named? {α : Type} (entries : List (List String × α)) (name : String) : Option α :=
  (entries.find? fun e => e.1.contains name).map (·.2)

/-- The letters, digits and the low line of ASCII. -/
def isAsciiWord (c : Char) : Bool := c.isAlphanum || c == '_'

/-- The characters that count as parts of words; below 128 these are `isAsciiWord`. -/
def isPatternWord (c : Char) : Bool :=
  if c.toNat < 0x80 then isAsciiWord c else CharClass.word.contains c

end Gallery.Regex
