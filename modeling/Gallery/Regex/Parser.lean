import Gallery.Regex.ClassParser

/-!
# `Gallery.Regex.Parser` — reading regular expressions

The parser goes through the text once.  Groups that are still open wait on a stack with what was
read before them, and every step takes at least one character.

## Contents
- `groupStart`, what follows an opening parenthesis, and `repetitionCount`, what follows a brace.
- `Reading`, the state between two steps; `Reading.step`, one step; `Reading.finish`.
- `Tree.parse`, the tree of a whole text.
-/

namespace Gallery.Regex

open Gallery.Text Scan

/-! ## Groups and flags -/

/-- The flags up to a colon or a closing parenthesis, `on` telling which state they are given and
`minus` whether a minus sign came last. -/
def flagsFrom (seen : FlagChange) (on minus : Bool) :
    (s : List Char) → Except Error (FlagChange × Rest s)
  | [] => .error .invalidFlags
  | c :: r =>
    let next (seen : FlagChange) (on minus : Bool) : Except Error (FlagChange × Rest (c :: r)) :=
      match flagsFrom seen on minus r with
      | .error e => .error e
      | .ok (change, t) => .ok (change, t.ofTail)
    if c == ':' || c == ')' then
      if minus then .error .invalidFlags else .ok (seen, Rest.all (c :: r))
    else if c == '-' then
      if on then next seen false true else .error .invalidFlags
    else
      match Flag.ofChar? c with
      | none => .error .invalidFlags
      | some f =>
        if seen.any (·.1 == f) then .error .invalidFlags else next (seen ++ [(f, on)]) on false

/-- What an opening parenthesis starts. -/
inductive GroupStart where
  | group (change : FlagChange)
  | flags (change : FlagChange)

/-- Whether a character may stand in the name of a group, at its start if `first`. -/
def isGroupNameChar (first : Bool) (c : Char) : Bool :=
  c == '_' || if first then isAlphabetic c
    else c == '.' || c == '[' || c == ']' || isAlphanumeric c

/-- The name of a group up to its closing angle bracket. -/
def groupName : Scan (List Char) := do
  let name ← run false (· != '>')
  if !(← accept ['>']) then refuse .invalidGroupName
  match name with
  | [] => refuse .invalidGroupName
  | c :: rest =>
    if isGroupNameChar true c && rest.all (isGroupNameChar false) then pure name
    else refuse .invalidGroupName

/-- What follows an opening parenthesis, and the name of the group if it has one. -/
def groupStart (space : Bool) : Scan (GroupStart × Option (List Char)) := do
  blanks space
  if (← accept "?=".toList) || (← accept "?!".toList) || (← accept "?<=".toList)
      || (← accept "?<!".toList) then
    refuse .unsupportedLookAround
  let long ← accept "?P<".toList
  let short ← if long then pure false else accept "?<".toList
  if long || short then
    return (.group [], some (← groupName))
  if ← accept ['?'] then
    let change ← flagsFrom [] true false
    match ← next with
    | some ')' =>
      if change.isEmpty then refuse .nothingToRepeat
      return (.flags change, none)
    | _ => return (.group change, none)
  else return (.group [], none)

/-! ## Repetition counts -/

/-- The largest count that can be written. -/
def maxCount : Nat := UInt32.size - 1

/-- A decimal numeral with white space around it; `none` if there are no digits. -/
def count? (space : Bool) : Scan (Option Nat) := do
  skipWhile isWhitespace
  let digits ← run space Char.isDigit
  skipWhile isWhitespace
  blanks space
  if digits.isEmpty then return none
  let n := digits.foldl (fun n d => 10 * n + (d.toNat - '0'.toNat)) 0
  if n ≤ maxCount then return some n else refuse .invalidCount

/-- The least and the greatest number of repetitions after an opening brace. -/
def repetitionCount (space : Bool) : Scan (Nat × Option Nat) := do
  blanks space
  let first ← count? space
  let more ← accept [',']
  match first with
  | none => refuse .invalidCount
  | some min =>
    let max : Option Nat ←
      if more then do
        blanks space
        if (← peek) == some '\x7d' then pure none
        else
          match ← count? space with
          | some n => pure (some n)
          | none => refuse .invalidCount
      else pure (some min)
    if !(← accept ['\x7d']) then refuse .invalidCount
    blanks space
    let _ ← accept ['?']
    if max.all (min ≤ ·) then return (min, max) else refuse .invalidCount

/-! ## The loop over the text -/

/-- A group that is being read: the finished branches and the items of the current one, both latest
first, the flags of the group and whether blanks count inside it. -/
structure OpenGroup where
  branches : List Tree := []
  items : List Tree := []
  change : FlagChange := []
  space : Bool := false

namespace OpenGroup

/-- The group with a further item. -/
def push (g : OpenGroup) (t : Tree) : OpenGroup := { g with items := t :: g.items }

/-- The tree of the current branch. -/
def branch (g : OpenGroup) : Tree := Tree.ofItems g.items.reverse

/-- The group with its current branch finished. -/
def split (g : OpenGroup) : OpenGroup := { g with branches := g.branch :: g.branches, items := [] }

/-- The tree of what has been read of the group. -/
def toTree (g : OpenGroup) : Tree := Tree.ofBranches (g.branch :: g.branches).reverse

/-- Repeats the last item. -/
def repeatLast (g : OpenGroup) (min : Nat) (max : Option Nat) : Except Error OpenGroup :=
  match g.items with
  | [] | .empty :: _ | .setFlags _ :: _ => .error .nothingToRepeat
  | t :: items => .ok { g with items := .repeated t min max :: items }

end OpenGroup

/-- What has been read: the innermost open group, the groups around it, and the names given. -/
structure Reading where
  current : OpenGroup := {}
  outer : List OpenGroup := []
  names : List (List Char) := []

namespace Reading

/-- The state with a further item in the innermost group. -/
def push (st : Reading) (t : Tree) : Reading := { st with current := st.current.push t }

/-- The state with the last item repeated; a question mark after it does not matter. -/
def repeatLast (st : Reading) (min : Nat) (max : Option Nat) : Scan Reading := fun s =>
  match st.current.repeatLast min max with
  | .error e => .error e
  | .ok g => .ok ({ st with current := g }, Rest.all s)

/-- Whether blanks count after a change of flags. -/
def spaceAfter (space : Bool) (change : FlagChange) : Bool :=
  match change.find? (·.1 == .ignoreSpace) with
  | some (_, on) => on
  | none => space

/-- Reads one part of an expression that starts with `c`. -/
def step (st : Reading) (c : Char) : Scan Reading := do
  let space := st.current.space
  match c with
  | '(' =>
    match ← groupStart space with
    | (.flags change, _) =>
      -- Blanks count from here on as the new flags say, up to the end of the group.
      let g := st.current.push (.setFlags change)
      return { st with current := { g with space := spaceAfter space change } }
    | (.group change, name?) =>
      let opened : OpenGroup := { change, space := spaceAfter space change }
      match name? with
      | none => return { st with current := opened, outer := st.current :: st.outer }
      | some name =>
        if st.names.contains name then refuse .invalidGroupName
        return { current := opened, outer := st.current :: st.outer, names := name :: st.names }
  | ')' =>
    match st.outer with
    | [] => refuse .unopenedGroup
    | g :: outer =>
      return { st with current := g.push (.group st.current.change st.current.toTree), outer }
  | '|' => return { st with current := st.current.split }
  | '[' => return st.push (.ofClass (← bracketed space))
  | '?' =>
    let _ ← accept ['?']
    st.repeatLast 0 (some 1)
  | '*' =>
    let _ ← accept ['?']
    st.repeatLast 0 none
  | '+' =>
    let _ ← accept ['?']
    st.repeatLast 1 none
  | '\x7b' =>
    let (min, max) ← repetitionCount space
    st.repeatLast min max
  | '\\' => return st.push (← escape space)
  | '.' => return st.push .dot
  | '^' => return st.push .caret
  | '$' => return st.push .dollar
  | c => return st.push (.literal c false)

/-- The tree of the whole text once it has ended. -/
def finish (st : Reading) : Except Error Tree :=
  if !st.outer.isEmpty then .error .unclosedGroup
  else
    let t := st.current.toTree
    if t.depth ≤ maxDepth then .ok t else .error .nestedTooDeeply

/-- Reads the rest of an expression, step by step. -/
def loop (st : Reading) (s : List Char) : Except Error Tree :=
  let b := afterBlanks st.current.space s
  match hb : b.1 with
  | [] => st.finish
  | c :: r =>
    match step st c r with
    | .error e => .error e
    | .ok (st, t) =>
      have : t.1.length < s.length := by
        have hb' := b.2
        have ht := t.2
        rw [hb, List.length_cons] at hb'
        omega
      loop st t.1
termination_by s.length

end Reading

/-- The tree of a regular expression. -/
def Tree.parse (s : List Char) : Except Error Tree := Reading.loop {} s

end Gallery.Regex
