import Gallery.Query.Parser

/-!
# `Gallery.Query.Descent` — the descent with a position and a counter

The parser passes on the characters that are left, with a proof that they get fewer, and tells what it
calls how many minus signs and parentheses are open.  So it ends by its definition and cannot lose
count.  Here is the same descent as a program on one place in the text and one counter: reading moves
the place, and the counter is raised in front of what is nested and lowered behind it.  Nothing in the
definition says that it ends, that a call moves the place, or that it leaves the counter as it was.

A run keeps a trace: every value that the counter takes, and every call that succeeds.

## Contents
- `Cursor`, `Routine`, `Event` and `State`; `Descent`, actions that may fail or never end.
- `count`, `moveTo`, `fault`, and `call`, around the body of every routine.
- `Input`: reading characters, from `peek` to `since`; `delimited`, `value`, `word`; the mutual `any`,
  `alternatives`, `all`, `factors`, `unary`, `primary` and `group`; `parse` for a whole text.
- `descend`, from the beginning of a text.
-/

namespace Gallery.Query

open Gallery.Text

namespace Descent

/-- Where a run stands. -/
structure Cursor where
  /-- How many characters were read. -/
  position : Nat
  /-- How many minus signs and parentheses are open. -/
  depth : Nat

/-- The calls that a trace shows. -/
inductive Routine where
  | any
  | all
  | unary
  | primary
  | group
  | word

/-- What a trace shows of a run. -/
inductive Event where
  /-- The counter was set. -/
  | counts (depth : Nat)
  /-- A call succeeded with a query. -/
  | returns (routine : Routine) (before after : Cursor) (e : Expr)

/-- The state of a run. -/
structure State extends Cursor where
  /-- What has happened, the last event first. -/
  trace : List Event

end Descent

/-- An action of the descent.  It has no outcome if it never ends; if it fails, the state remains. -/
abbrev Descent (α : Type) : Type := ExceptT QueryError (StateT Descent.State Option) α

namespace Descent

/-! ## Actions on the state -/

/-- Goes back to a place. -/
def moveTo (position : Nat) : Descent Unit := modify fun σ => { σ with position := position }

/-- Sets the counter. -/
def count (f : Nat → Nat) : Descent Unit :=
  modify fun σ => { σ with depth := f σ.depth, trace := .counts (f σ.depth) :: σ.trace }

/-- Reports a fault at a place. -/
def fault {α : Type} (position : Nat) (fault : SyntaxFault) : Descent α :=
  throw (.malformed ⟨position, fault⟩)

/-- Carries out a call, whose body is told where it begins. -/
abbrev call (routine : Routine) (body : Nat → Descent Expr) : Descent Expr := do
  let before ← get
  let e ← body before.position
  modify fun σ => { σ with trace := .returns routine before.toCursor σ.toCursor e :: σ.trace }
  return e

/-- The characters of the text that is read. -/
abbrev Input : Type := List Char

namespace Input

/-! ## Reading characters -/

/-- The next character. -/
def peek (cs : Input) : Descent (Option Char) := do return cs[(← get).position]?

/-- Reads the next character if there is one. -/
def advance (cs : Input) : Descent (Option Char) := do
  let c ← cs.peek
  if c.isSome then modify fun σ => { σ with position := σ.position + 1 }
  return c

/-- Reads on while the next character satisfies `p`. -/
def skipWhile (cs : Input) (p : Char → Bool) : Descent Unit := do
  if (← cs.peek).any p then
    let _ ← cs.advance
    cs |>.skipWhile p
partial_fixpoint

/-- Reads on while the next character is white space. -/
def skipBlanks (cs : Input) : Descent Unit := cs.skipWhile isWhitespace

/-- Whether what comes next can follow a complete conjunction. -/
def endsHere (cs : Input) : Descent Bool := do
  return (← cs.peek).all fun c => c == '+' || c == ')'

/-- The characters that were read from a place on. -/
def since (cs : Input) (start : Nat) : Descent (List Char) := do
  return (cs.drop start).take ((← get).position - start)

/-! ## Words and values -/

/-- The text up to the closing delimiter; without one there is a fault at its beginning. -/
def delimited (cs : Input) (start : Nat) (close : Char) (unterminated : SyntaxFault) :
    Descent (List Char) := do
  match ← cs.advance with
  | none => fault start unterminated
  | some c =>
    if c = close then return []
    else if c = '\\' then
      match ← cs.advance with
      | none => return '\\' :: (← cs |>.delimited start close unterminated)
      | some d => return '\\' :: d :: (← cs |>.delimited start close unterminated)
    else return c :: (← cs |>.delimited start close unterminated)
partial_fixpoint

/-- The metatag with a given key and the value that comes next. -/
def value (cs : Input) (key : Key) : Descent Expr := do
  let before ← get
  match ← cs.peek with
  | none => fault before.position (.missingValue key)
  | some c =>
    if c = '"' then
      let _ ← cs.advance
      let source ← cs.delimited before.position '"' .unterminatedQuote
      liftExcept (metatag key .glob source)
    else if c = '/' then
      let _ ← cs.advance
      let source ← cs.delimited before.position '/' .unterminatedRegex
      liftExcept (metatag key .regex source)
    else if isValueChar c then
      cs.skipWhile isValueChar
      let source ← cs.since before.position
      liftExcept (metatag key .glob source)
    else fault before.position (.missingValue key)

/-- The tag or the metatag that comes next. -/
def word (cs : Input) : Descent Expr := call .word fun start => do
  cs.skipWhile isWord
  let label ← cs.since start
  let behind ← get
  cs.skipBlanks
  if (← cs.peek) = some ':' then
    match Key.ofKeyword? (String.ofList label) with
    | none => fault start (.unknownMetatag (String.ofList label))
    | some key =>
      let _ ← cs.advance
      cs.skipBlanks
      cs.value key
  else
    moveTo behind.position
    return .tag (String.ofList label)

/-! ## The grammar -/

mutual

/-- A disjunction: conjunctions separated by plus signs. -/
def any (cs : Input) : Descent Expr := call .any fun _ => do
  let e ← cs |>.all
  let es ← cs |>.alternatives
  return joined .any (e :: es)
partial_fixpoint

/-- The loop over the further operands of a disjunction. -/
def alternatives (cs : Input) : Descent (List Expr) := do
  cs.skipBlanks
  let plus ← get
  if (← cs.peek) = some '+' then
    let _ ← cs.advance
    cs.skipBlanks
    if ← cs.endsHere then fault plus.position .danglingPlus
    else
      let e ← cs |>.all
      return e :: (← cs |>.alternatives)
  else return []
partial_fixpoint

/-- A conjunction: one or more operands in a row. -/
def all (cs : Input) : Descent Expr := call .all fun _ => do
  match ← cs |>.factors with
  | [] =>
    let behind ← get
    fault behind.position (if (← cs.peek) = some '+' then .danglingPlus else .expectedOperand)
  | e :: es => return joined .all (e :: es)
partial_fixpoint

/-- The loop over the operands of a conjunction. -/
def factors (cs : Input) : Descent (List Expr) := do
  cs.skipBlanks
  if ← cs.endsHere then return []
  else
    let e ← cs |>.unary
    return e :: (← cs |>.factors)
partial_fixpoint

/-- A negation or what can be negated. -/
def unary (cs : Input) : Descent Expr := call .unary fun start => do
  if (← cs.peek) = some '-' then
    let _ ← cs.advance
    if (← cs.peek).all fun c => c == '+' || c == ')' || isWhitespace c then
      fault start .danglingMinus
    else
      count (· + 1)
      if maxNesting < (← get).depth then fault start .negationTooDeep
      else
        let e ← cs |>.unary
        count (· - 1)
        return .neg e
  else cs |>.primary
partial_fixpoint

/-- A group, a tag or a metatag. -/
def primary (cs : Input) : Descent Expr := call .primary fun start => do
  match ← cs.peek with
  | none => fault start .unexpectedEnd
  | some c =>
    if c = '(' then cs |>.group
    else if isWord c then cs.word
    else fault start (.unexpectedChar c)
partial_fixpoint

/-- A group from its opening parenthesis to the closing one. -/
def group (cs : Input) : Descent Expr := call .group fun start => do
  let _ ← cs.advance
  cs.skipBlanks
  match ← cs.peek with
  | none => fault start .unclosedGroup
  | some c =>
    if c = ')' then fault start .emptyGroup
    else
      count (· + 1)
      if maxNesting < (← get).depth then fault start .groupTooDeep
      else
        let e ← cs |>.any
        count (· - 1)
        cs.skipBlanks
        if (← cs.advance) = some ')' then return e
        else fault start .unclosedGroup
partial_fixpoint

end

/-- The query of the whole text. -/
def parse (cs : Input) : Descent Expr := do
  cs.skipBlanks
  let start ← get
  if (← cs.peek).isNone then fault start.position .emptyQuery
  else
    let e ← cs.any
    cs.skipBlanks
    let behind ← get
    match ← cs.peek with
    | none => return e
    | some c =>
      fault behind.position (if c = ')' then .unexpectedClose else .unexpectedChar c)

end Input

end Descent

/-- The descent into a text from its beginning. -/
def descend (text : String) : Option (Except QueryError Expr × Descent.State) :=
  (Descent.Input.parse text.toList).run ⟨⟨0, 0⟩, []⟩

end Gallery.Query
