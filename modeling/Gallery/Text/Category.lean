import Gallery.Text.Category.Letter
import Gallery.Text.Category.Mark
import Gallery.Text.Category.Number
import Gallery.Text.Category.Other
import Gallery.Text.Category.Punctuation
import Gallery.Text.Category.Symbol

/-!
# `Gallery.Text.Category` — general categories of characters

Every character belongs to one general category; groups such as the letters are unions of
categories.  Characters without an assignment belong to none of the tables.

## Contents
- `Category`, its members and groups; `Category.tables` and `Category.contains`.
- `Category.ofName?`, the short and the long names under which patterns ask for a category.
-/

namespace Gallery.Text

/-- A general category of Unicode, or a union of some of them. -/
inductive Category where
  | uppercaseLetter
  | lowercaseLetter
  | titlecaseLetter
  | casedLetter
  | modifierLetter
  | otherLetter
  | letter
  | nonspacingMark
  | spacingMark
  | enclosingMark
  | mark
  | decimalNumber
  | letterNumber
  | otherNumber
  | number
  | connectorPunctuation
  | dashPunctuation
  | openPunctuation
  | closePunctuation
  | initialPunctuation
  | finalPunctuation
  | otherPunctuation
  | punctuation
  | mathSymbol
  | currencySymbol
  | modifierSymbol
  | otherSymbol
  | symbol
  | spaceSeparator
  | lineSeparator
  | paragraphSeparator
  | separator
  | control
  | format
  | privateUse
  | unassigned
  | other
  deriving DecidableEq, Repr

namespace Category

/-- The tables of the letters with case. -/
def casedLetterRuns : List (List CodeRun) :=
  [uppercaseLetterRuns, lowercaseLetterRuns, titlecaseLetterRuns]

/-- The tables of all letters. -/
def letterRuns : List (List CodeRun) := casedLetterRuns ++ [modifierLetterRuns, otherLetterRuns]

/-- The tables of all marks. -/
def markRuns : List (List CodeRun) := [nonspacingMarkRuns, spacingMarkRuns, enclosingMarkRuns]

/-- The tables of all numbers. -/
def numberRuns : List (List CodeRun) := [decimalNumberRuns, letterNumberRuns, otherNumberRuns]

/-- The tables of all punctuation. -/
def punctuationRuns : List (List CodeRun) :=
  [connectorPunctuationRuns, dashPunctuationRuns, openPunctuationRuns, closePunctuationRuns,
    initialPunctuationRuns, finalPunctuationRuns, otherPunctuationRuns]

/-- The tables of all symbols. -/
def symbolRuns : List (List CodeRun) :=
  [mathSymbolRuns, currencySymbolRuns, modifierSymbolRuns, otherSymbolRuns]

/-- The tables of all separators. -/
def separatorRuns : List (List CodeRun) :=
  [spaceSeparatorRuns, lineSeparatorRuns, paragraphSeparatorRuns]

/-- The tables of all characters with an assignment. -/
def assignedRuns : List (List CodeRun) :=
  letterRuns ++ markRuns ++ numberRuns ++ punctuationRuns ++ symbolRuns ++ separatorRuns ++
    [controlRuns, formatRuns, privateUseRuns]

/-- The tables of the characters that a category asks for by name; the characters without an
assignment are in none. -/
def tables : Category → List (List CodeRun)
  | uppercaseLetter => [uppercaseLetterRuns]
  | lowercaseLetter => [lowercaseLetterRuns]
  | titlecaseLetter => [titlecaseLetterRuns]
  | casedLetter => casedLetterRuns
  | modifierLetter => [modifierLetterRuns]
  | otherLetter => [otherLetterRuns]
  | letter => letterRuns
  | nonspacingMark => [nonspacingMarkRuns]
  | spacingMark => [spacingMarkRuns]
  | enclosingMark => [enclosingMarkRuns]
  | mark => markRuns
  | decimalNumber => [decimalNumberRuns]
  | letterNumber => [letterNumberRuns]
  | otherNumber => [otherNumberRuns]
  | number => numberRuns
  | connectorPunctuation => [connectorPunctuationRuns]
  | dashPunctuation => [dashPunctuationRuns]
  | openPunctuation => [openPunctuationRuns]
  | closePunctuation => [closePunctuationRuns]
  | initialPunctuation => [initialPunctuationRuns]
  | finalPunctuation => [finalPunctuationRuns]
  | otherPunctuation => [otherPunctuationRuns]
  | punctuation => punctuationRuns
  | mathSymbol => [mathSymbolRuns]
  | currencySymbol => [currencySymbolRuns]
  | modifierSymbol => [modifierSymbolRuns]
  | otherSymbol => [otherSymbolRuns]
  | symbol => symbolRuns
  | spaceSeparator => [spaceSeparatorRuns]
  | lineSeparator => [lineSeparatorRuns]
  | paragraphSeparator => [paragraphSeparatorRuns]
  | separator => separatorRuns
  | control => [controlRuns]
  | format => [formatRuns]
  | privateUse => [privateUseRuns]
  | unassigned => []
  | other => [controlRuns, formatRuns, privateUseRuns]

/-- Whether the category holds the characters without an assignment, too. -/
def holdsUnassigned : Category → Bool
  | unassigned | other => true
  | _ => false

/-- Whether some table of the list holds the character. -/
def inSome (tables : List (List CodeRun)) (c : Char) : Bool :=
  tables.any (CodeRun.anyContains · c)

/-- Whether the character belongs to the category. -/
def contains (cat : Category) (c : Char) : Bool :=
  inSome cat.tables c || (cat.holdsUnassigned && !inSome assignedRuns c)

/-- The category of a short or long name, written in lower case without blanks, low lines and
hyphens. -/
def ofName? : String → Option Category
  | "lu" | "uppercaseletter" => some uppercaseLetter
  | "ll" | "lowercaseletter" => some lowercaseLetter
  | "lt" | "titlecaseletter" => some titlecaseLetter
  | "lc" | "casedletter" => some casedLetter
  | "lm" | "modifierletter" => some modifierLetter
  | "lo" | "otherletter" => some otherLetter
  | "l" | "letter" => some letter
  | "mn" | "nonspacingmark" => some nonspacingMark
  | "mc" | "spacingmark" => some spacingMark
  | "me" | "enclosingmark" => some enclosingMark
  | "m" | "mark" | "combiningmark" => some mark
  | "nd" | "decimalnumber" | "digit" => some decimalNumber
  | "nl" | "letternumber" => some letterNumber
  | "no" | "othernumber" => some otherNumber
  | "n" | "number" => some number
  | "pc" | "connectorpunctuation" => some connectorPunctuation
  | "pd" | "dashpunctuation" => some dashPunctuation
  | "ps" | "openpunctuation" => some openPunctuation
  | "pe" | "closepunctuation" => some closePunctuation
  | "pi" | "initialpunctuation" => some initialPunctuation
  | "pf" | "finalpunctuation" => some finalPunctuation
  | "po" | "otherpunctuation" => some otherPunctuation
  | "p" | "punctuation" | "punct" => some punctuation
  | "sm" | "mathsymbol" => some mathSymbol
  | "sc" | "currencysymbol" => some currencySymbol
  | "sk" | "modifiersymbol" => some modifierSymbol
  | "so" | "othersymbol" => some otherSymbol
  | "s" | "symbol" => some symbol
  | "zs" | "spaceseparator" => some spaceSeparator
  | "zl" | "lineseparator" => some lineSeparator
  | "zp" | "paragraphseparator" => some paragraphSeparator
  | "z" | "separator" => some separator
  | "cc" | "control" | "cntrl" => some control
  | "cf" | "format" => some format
  | "co" | "privateuse" => some privateUse
  | "cn" | "unassigned" => some unassigned
  | "c" | "other" => some other
  | _ => none

end Category

end Gallery.Text
