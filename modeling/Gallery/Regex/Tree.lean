import Gallery.Regex.Anchor

/-!
# `Gallery.Regex.Tree` — regular expressions as they are written

A `Tree` keeps the shape of the text: groups, flags, bracketed classes.  Flags are settings of the
text around them, so a tree has a meaning only together with the flags in force
(`Gallery.Regex.Compile`).

## Contents
- `Error`, the reasons for which a text is no regular expression, and `Error.message`; `sizeLimit`,
  the bound behind one of them.
- `Flag`, `FlagChange` and `Flags`.
- `ClassTree` and `Tree`, with their nesting depth.
-/

namespace Gallery.Regex

/-- The most bytes that a compiled expression may take, ten times 1024 times 1024. -/
def sizeLimit : Nat := 10485760

/-- Why a text is not accepted as a regular expression. -/
inductive Error where
  | unclosedGroup
  | unopenedGroup
  | unclosedClass
  | invalidInterval
  | nothingToRepeat
  | invalidCount
  | invalidEscape
  | invalidCodePoint
  | invalidFlags
  | invalidGroupName
  | unknownProperty
  | unsupportedLookAround
  | unsupportedBackreference
  | nestedTooDeeply
  | needsUnicode
  /-- The compiled expression would take more memory than allowed. -/
  | tooLarge
  deriving DecidableEq, Repr

/-- The description of an error. -/
def Error.message : Error → String
  | unclosedGroup => "unclosed group"
  | unopenedGroup => "unopened group"
  | unclosedClass => "unclosed character class"
  | invalidInterval => "invalid character class range"
  | nothingToRepeat => "repetition operator missing expression"
  | invalidCount => "invalid repetition count"
  | invalidEscape => "unrecognized escape sequence"
  | invalidCodePoint => "invalid code point"
  | invalidFlags => "invalid flags"
  | invalidGroupName => "invalid capture group name"
  | unknownProperty => "unknown character property"
  | unsupportedLookAround => "look-around is not supported"
  | unsupportedBackreference => "backreferences are not supported"
  | nestedTooDeeply => "nested too deeply"
  | needsUnicode => "only allowed in Unicode mode"
  | tooLarge => s!"Compiled regex exceeds size limit of {sizeLimit} bytes."

/-- A setting that a pattern can turn on and off. -/
inductive Flag where
  | ignoreCase
  | multiLine
  | dotNewline
  | swapGreed
  | crlf
  | unicode
  | ignoreSpace
  deriving DecidableEq, Repr

/-- The letter of a flag. -/
def Flag.ofChar? : Char → Option Flag
  | 'i' => some ignoreCase
  | 'm' => some multiLine
  | 's' => some dotNewline
  | 'U' => some swapGreed
  | 'R' => some crlf
  | 'u' => some unicode
  | 'x' => some ignoreSpace
  | _ => none

/-- Flags with the state they are given. -/
abbrev FlagChange := List (Flag × Bool)

/-- The state of every flag at some place of a pattern. -/
structure Flags where
  ignoreCase : Bool := false
  multiLine : Bool := false
  dotNewline : Bool := false
  crlf : Bool := false
  unicode : Bool := true
  deriving DecidableEq, Repr

/-- Gives one flag a state.  Neither greed nor blanks matter to what an expression matches. -/
def Flags.set (fl : Flags) : Flag × Bool → Flags
  | (.ignoreCase, on) => { fl with ignoreCase := on }
  | (.multiLine, on) => { fl with multiLine := on }
  | (.dotNewline, on) => { fl with dotNewline := on }
  | (.crlf, on) => { fl with crlf := on }
  | (.unicode, on) => { fl with unicode := on }
  | (.swapGreed, _) | (.ignoreSpace, _) => fl

/-- The flags after a change. -/
def Flags.apply (fl : Flags) (change : FlagChange) : Flags := change.foldl Flags.set fl

/-- The classes with a one-letter escape. -/
inductive Shorthand where
  | digit
  | space
  | word
  deriving DecidableEq, Repr

/-- The classes of ASCII characters with a name of their own inside brackets. -/
inductive NamedClass where
  | alnum | alpha | ascii | blank | cntrl | digit | graph | lower | print | punct | space | upper
  | word | xdigit
  deriving DecidableEq, Repr

/-- The class of a name. -/
def NamedClass.ofName? : String → Option NamedClass
  | "alnum" => some alnum
  | "alpha" => some alpha
  | "ascii" => some ascii
  | "blank" => some blank
  | "cntrl" => some cntrl
  | "digit" => some digit
  | "graph" => some graph
  | "lower" => some lower
  | "print" => some print
  | "punct" => some punct
  | "space" => some space
  | "upper" => some upper
  | "word" => some word
  | "xdigit" => some xdigit
  | _ => none

/-- The members of a named class, as intervals. -/
def NamedClass.intervals : NamedClass → List (Char × Char)
  | alnum => [('0', '9'), ('A', 'Z'), ('a', 'z')]
  | alpha => [('A', 'Z'), ('a', 'z')]
  | ascii => [('\x00', '\x7f')]
  | blank => [('\t', '\t'), (' ', ' ')]
  | cntrl => [('\x00', '\x1f'), ('\x7f', '\x7f')]
  | digit => [('0', '9')]
  | graph => [('!', '~')]
  | lower => [('a', 'z')]
  | print => [(' ', '~')]
  | punct => [('!', '/'), (':', '@'), ('[', '\x60'), ('\x7b', '~')]
  | space => [('\t', '\r'), (' ', ' ')]
  | upper => [('A', 'Z')]
  | word => [('0', '9'), ('A', 'Z'), ('_', '_'), ('a', 'z')]
  | xdigit => [('0', '9'), ('A', 'F'), ('a', 'f')]

/-- An operation between two classes inside brackets. -/
inductive ClassOp where
  | inter
  | diff
  | symmDiff
  deriving DecidableEq, Repr

/-- A character class as it is written. -/
inductive ClassTree where
  | literal (c : Char)
  | interval (first last : Char)
  | shorthand (s : Shorthand) (negated : Bool)
  | property (c : CharClass) (negated : Bool)
  | named (n : NamedClass) (negated : Bool)
  | bracket (negated : Bool) (body : ClassTree)
  | union (items : List ClassTree)
  | binary (op : ClassOp) (a b : ClassTree)

/-- The class of several items written one after the other. -/
def ClassTree.ofItems : List ClassTree → ClassTree
  | [t] => t
  | ts => .union ts

/-- A regular expression as it is written. -/
inductive Tree where
  | empty
  | setFlags (change : FlagChange)
  /-- A character; `asByte` if it was written as a two-digit hexadecimal escape. -/
  | literal (c : Char) (asByte : Bool)
  | dot
  | caret
  | dollar
  | textStart
  | textEnd
  | boundary (b : Boundary)
  | ofClass (c : ClassTree)
  | repeated (t : Tree) (min : Nat) (max : Option Nat)
  | group (change : FlagChange) (t : Tree)
  | concat (ts : List Tree)
  | alternatives (ts : List Tree)

/-- Several trees in a row. -/
def Tree.ofItems : List Tree → Tree
  | [] => .empty
  | [t] => t
  | ts => .concat ts

/-- A choice between trees. -/
def Tree.ofBranches : List Tree → Tree
  | [t] => t
  | ts => .alternatives ts

/-! ## Nesting -/

mutual

/-- How many brackets, operations and lists of items lie inside each other. -/
def ClassTree.depth : ClassTree → Nat
  | .bracket _ body => body.depth + 1
  | .union [] => 0
  | .union items => ClassTree.depthList items + 1
  | .binary _ a b => max a.depth b.depth + 1
  | _ => 0

/-- The largest depth in a list. -/
def ClassTree.depthList : List ClassTree → Nat
  | [] => 0
  | t :: ts => max t.depth (ClassTree.depthList ts)

end

mutual

/-- How many groups, repetitions, classes and lists lie inside each other. -/
def Tree.depth : Tree → Nat
  | .ofClass c => c.depth
  | .repeated t _ _ => t.depth + 1
  | .group _ t => t.depth + 1
  | .concat ts => Tree.depthList ts + 1
  | .alternatives ts => Tree.depthList ts + 1
  | _ => 0

/-- The largest depth in a list. -/
def Tree.depthList : List Tree → Nat
  | [] => 0
  | t :: ts => max t.depth (Tree.depthList ts)

end

/-- How deeply an expression may be nested. -/
def maxDepth : Nat := 250

end Gallery.Regex
