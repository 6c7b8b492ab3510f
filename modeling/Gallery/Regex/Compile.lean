import Gallery.Regex.Parser
import Gallery.Regex.Program

/-!
# `Gallery.Regex.Compile` — the meaning of a written expression

The flags in force decide what the parts of a tree mean.  A change of flags holds up to the end of
the group that contains it.

## Contents
- `ClassTree.toClass`, the set of characters of a class.
- `Tree.toRegex`, the expression of a tree and the flags after it.
- `Regex.parse`, the expression of a text; `Regex.build`, the same within the size limit.
-/

namespace Gallery.Regex

open Gallery.Text

/-! ## Classes -/

/-- The set without regard to case, if the flags say so. -/
def Flags.close (fl : Flags) (c : CharClass) : CharClass :=
  if fl.ignoreCase then (if fl.unicode then .closeCase c else .closeAsciiCase c) else c

/-- The complement, if it is asked for; outside Unicode mode it would hold what is no character. -/
def Flags.negate (fl : Flags) (negated : Bool) (c : CharClass) : Except Error CharClass :=
  if negated then (if fl.unicode then .ok (.compl c) else .error .needsUnicode) else .ok c

/-- The characters of a shorthand. -/
def Shorthand.toClass (unicode : Bool) : Shorthand → CharClass
  | .digit =>
    if unicode then .ofCategory .decimalNumber else .intervals NamedClass.digit.intervals
  | .space => if unicode then .table whitespace else .intervals NamedClass.space.intervals
  | .word => if unicode then .word else .intervals NamedClass.word.intervals

/-- Whether characters up to `c` may stand in a class. -/
def Flags.admits (fl : Flags) (c : Char) : Bool := fl.unicode || c.toNat < 0x80

mutual

/-- The set of characters of a class under the given flags. -/
def ClassTree.toClass (fl : Flags) : ClassTree → Except Error CharClass
  | .literal c => if fl.admits c then .ok (.single c) else .error .needsUnicode
  | .interval a b =>
    if fl.admits a && fl.admits b then .ok (.interval a b) else .error .needsUnicode
  | .shorthand s negated => fl.negate negated (s.toClass fl.unicode)
  | .property c negated =>
    if fl.unicode then fl.negate negated (fl.close c) else .error .needsUnicode
  | .named n negated => fl.negate negated (fl.close (.intervals n.intervals))
  | .bracket negated body =>
    match ClassTree.toClass fl body with
    | .error e => .error e
    | .ok c => fl.negate negated (fl.close c)
  | .union items =>
    match ClassTree.toClasses fl items with
    | .error e => .error e
    | .ok cs => .ok (.unions cs)
  | .binary op a b =>
    match ClassTree.toClass fl a with
    | .error e => .error e
    | .ok a =>
      match ClassTree.toClass fl b with
      | .error e => .error e
      | .ok b =>
        match op with
        | .inter => .ok (.inter (fl.close a) (fl.close b))
        | .diff => .ok (.diff (fl.close a) (fl.close b))
        | .symmDiff => .ok (.symmDiff (fl.close a) (fl.close b))

/-- The sets of the items of a class. -/
def ClassTree.toClasses (fl : Flags) : List ClassTree → Except Error (List CharClass)
  | [] => .ok []
  | t :: ts =>
    match ClassTree.toClass fl t with
    | .error e => .error e
    | .ok c =>
      match ClassTree.toClasses fl ts with
      | .error e => .error e
      | .ok cs => .ok (c :: cs)

end

/-! ## Expressions -/

/-- The characters that a dot stands for. -/
def Flags.dot (fl : Flags) : CharClass :=
  if fl.dotNewline then .any
  else if fl.crlf then .compl (.union (.single '\r') (.single '\n'))
  else .compl (.single '\n')

/-- The place that a caret stands for. -/
def Flags.caret (fl : Flags) : Anchor :=
  if fl.multiLine then (if fl.crlf then .crlfLineStart else .lineStart) else .textStart

/-- The place that a dollar sign stands for. -/
def Flags.dollar (fl : Flags) : Anchor :=
  if fl.multiLine then (if fl.crlf then .crlfLineEnd else .lineEnd) else .textEnd

mutual

/-- The expression of a tree under the given flags, and the flags in force after it. -/
def Tree.toRegex (fl : Flags) : Tree → Except Error (Regex × Flags)
  | .empty => .ok (.empty, fl)
  | .setFlags change => .ok (.empty, fl.apply change)
  | .literal c asByte =>
    if !asByte || fl.admits c then .ok (.char (fl.close (.single c)), fl) else .error .needsUnicode
  | .dot => if fl.unicode then .ok (.char fl.dot, fl) else .error .needsUnicode
  | .caret => .ok (.anchor fl.caret, fl)
  | .dollar => .ok (.anchor fl.dollar, fl)
  | .textStart => .ok (.anchor .textStart, fl)
  | .textEnd => .ok (.anchor .textEnd, fl)
  | .boundary b => .ok (.anchor (if fl.unicode then .word b else .asciiWord b), fl)
  | .ofClass c =>
    match c.toClass fl with
    | .error e => .error e
    | .ok cls => .ok (.char cls, fl)
  | .repeated t min max =>
    match Tree.toRegex fl t with
    | .error e => .error e
    | .ok (r, fl) => .ok (.repeated r min max, fl)
  | .group change t =>
    match Tree.toRegex (fl.apply change) t with
    | .error e => .error e
    -- A change of flags ends with the group.
    | .ok (r, _) => .ok (r, fl)
  | .concat ts =>
    match Tree.toRegexes fl ts with
    | .error e => .error e
    | .ok (rs, fl) => .ok (.seqs rs, fl)
  | .alternatives ts =>
    match Tree.toRegexes fl ts with
    | .error e => .error e
    | .ok (rs, fl) => .ok (.alts rs, fl)

/-- The expressions of trees one after the other, each under the flags that the one before leaves. -/
def Tree.toRegexes (fl : Flags) : List Tree → Except Error (List Regex × Flags)
  | [] => .ok ([], fl)
  | t :: ts =>
    match Tree.toRegex fl t with
    | .error e => .error e
    | .ok (r, fl) =>
      match Tree.toRegexes fl ts with
      | .error e => .error e
      | .ok (rs, fl) => .ok (r :: rs, fl)

end

end Gallery.Regex

namespace Gallery

open Gallery.Regex

/-- The expression written in a text, read with or without regard to case. -/
def Regex.parse (ignoreCase : Bool) (s : List Char) : Except Regex.Error Regex :=
  match Tree.parse s with
  | .error e => .error e
  | .ok t =>
    match t.toRegex { ignoreCase } with
    | .error e => .error e
    | .ok (r, _) => .ok r

/-- The expression written in a text, unless it takes too much memory when compiled. -/
def Regex.build (ignoreCase : Bool) (s : List Char) : Except Regex.Error Regex :=
  match Regex.parse ignoreCase s with
  | .error e => .error e
  | .ok r => if r.Fits then .ok r else .error .tooLarge

end Gallery
