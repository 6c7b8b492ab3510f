import Gallery.Query.Error
import Gallery.Text.Rest

/-!
# `Gallery.Query.Parser` — reading queries

Negation binds tightest, then conjunction, written by juxtaposition, then disjunction, written `+`.
The parser is a recursive descent over the characters that are left; each function returns what it
has not read with the proof that it read something, and that proof ends the recursion.  A negation
and a parenthesis nest at most `maxNesting` deep, counted together.

## Contents
- The pieces without recursion: `delimited`, `value`, `word`.
- The grammar, `parseAny`, `parseAll`, `parseUnary`, `parseGroup`.
- `parse`, the query of a whole text.
-/

namespace Gallery.Query

open Gallery.Text

/-- How many negations and parentheses may be open at once. -/
def maxNesting : Nat := 128

/-- The characters of values without delimiters. -/
def isValueChar (c : Char) : Bool := isWord c || c == '.' || c == '*' || c == '?' || c == '-'

/-- What follows the white space at the front. -/
def skipSpace (s : List Char) : Rest s := Rest.dropWhile isWhitespace s

/-- Whether a text can follow a complete conjunction: it ends there, or a plus sign or a closing
parenthesis comes next. -/
def endsOperands : List Char → Bool
  | [] => true
  | c :: _ => c == '+' || c == ')'

/-- A fault at the front of `s`, the rest of a text with `size` characters. -/
def faultAt {α : Type} (size : Nat) (s : List Char) (fault : SyntaxFault) : Except QueryError α :=
  .error (.malformed ⟨size - s.length, fault⟩)

/-! ## Words and values -/

/-- The text up to the closing delimiter, and what follows it.  A backslash protects the character
after it and stays in the text. -/
def delimited (close : Char) : (s : List Char) → Option (List Char × Rest s)
  | [] => none
  | '\\' :: c :: rest =>
    match delimited close rest with
    | none => none
    | some (source, r) => some ('\\' :: c :: source, r.ofTail.ofTail)
  | c :: rest =>
    if c = close then some ([], Rest.tail rest)
    else
      match delimited close rest with
      | none => none
      | some (source, r) => some (c :: source, r.ofTail)

/-- Compiles the value of a metatag. -/
def metatag (key : Key) (kind : PatternKind) (source : List Char) : Except QueryError Expr :=
  match Pattern.make kind (String.ofList source) key.ignoresCase with
  | .error e => .error (.invalidPattern e)
  | .ok p => .ok (.metatag ⟨key, p⟩)

/-- Compiles the value of a metatag that was read up to `r`. -/
def metatagWith {s : List Char} (key : Key) (kind : PatternKind) (source : List Char)
    (r : Rest s) : Except QueryError (Expr × Rest s) :=
  match metatag key kind source with
  | .error e => .error e
  | .ok e => .ok (e, r)

/-- The metatag with a given key and the value at the front of the text: a quoted glob, a regular
expression between slashes, or a glob without blanks. -/
def value (size : Nat) (key : Key) (s : List Char) : Except QueryError (Expr × Rest s) :=
  match s with
  | [] => faultAt size s (.missingValue key)
  | c :: rest =>
    if c = '"' then
      match delimited '"' rest with
      | none => faultAt size s .unterminatedQuote
      | some (source, r) => metatagWith key .glob source r.ofTail
    else if c = '/' then
      match delimited '/' rest with
      | none => faultAt size s .unterminatedRegex
      | some (source, r) => metatagWith key .regex source r.ofTail
    else if isValueChar c then
      metatagWith key .glob ((c :: rest).takeWhile isValueChar) (Rest.dropWhile isValueChar _)
    else faultAt size s (.missingValue key)

/-- The tag or the metatag that starts with the word character `c`. -/
def word (size : Nat) (c : Char) (rest : List Char) :
    Except QueryError (Expr × Shorter (c :: rest)) :=
  let label := String.ofList (c :: rest.takeWhile isWord)
  let after := Rest.dropWhile isWord rest
  -- A colon, with white space around it or not, makes the word the key of a metatag.
  match h : (skipSpace after.1).1 with
  | ':' :: afterColon =>
    match Key.ofKeyword? label with
    | none => faultAt size (c :: rest) (.unknownMetatag label)
    | some key =>
      match value size key (skipSpace afterColon).1 with
      | .error e => .error e
      | .ok (e, r) =>
        .ok (e, ⟨r.1, by
          have h1 := (skipSpace after.1).2
          have h2 := (skipSpace afterColon).2
          have h3 := after.2
          have h4 := r.2
          rw [h, List.length_cons] at h1
          rw [List.length_cons]
          omega⟩)
  | _ => .ok (.tag label, Shorter.ofTail after)

/-! ## The grammar -/

mutual

/-- A disjunction: conjunctions separated by plus signs. -/
def parseAny (size depth : Nat) (s : List Char) : Except QueryError (Expr × Shorter s) :=
  match parseAll size depth s with
  | .error e => .error e
  | .ok (e, r) =>
    match parseAlternatives size depth r.1 with
    | .error e => .error e
    | .ok (es, t) => .ok (if es.isEmpty then e else .any (e :: es), r.after t)
termination_by 4 * s.length + 3
decreasing_by
  · omega
  · have := r.2
    omega

/-- The further operands of a disjunction. -/
def parseAlternatives (size depth : Nat) (s : List Char) :
    Except QueryError (List Expr × Rest s) :=
  let b := skipSpace s
  match hb : b.1 with
  | '+' :: rest =>
    let next := skipSpace rest
    if endsOperands next.1 then faultAt size b.1 .danglingPlus
    else
      have hs : next.1.length < s.length := by
        have h1 := b.2
        have h2 := next.2
        rw [hb, List.length_cons] at h1
        omega
      match parseAll size depth next.1 with
      | .error e => .error e
      | .ok (e, r) =>
        have hr : r.1.length < s.length := Nat.lt_trans r.2 hs
        match parseAlternatives size depth r.1 with
        | .error e => .error e
        | .ok (es, t) => .ok (e :: es, ⟨t.1, Nat.le_trans t.2 (Nat.le_of_lt hr)⟩)
  | _ => .ok ([], b)
termination_by 4 * s.length + 2
decreasing_by
  · have h : (skipSpace rest).1.length < s.length := hs
    omega
  · omega

/-- A conjunction: one or more operands in a row. -/
def parseAll (size depth : Nat) (s : List Char) : Except QueryError (Expr × Shorter s) :=
  let b := skipSpace s
  if endsOperands b.1 then
    -- Nothing stands in front of the plus sign, the parenthesis or the end.
    faultAt size b.1 (if b.1.head? = some '+' then .danglingPlus else .expectedOperand)
  else
    match parseUnary size depth b.1 with
    | .error e => .error e
    | .ok (e, r) =>
      have hr : r.1.length < s.length := Nat.lt_of_lt_of_le r.2 b.2
      match parseFactors size depth r.1 with
      | .error e => .error e
      | .ok (es, t) => .ok (if es.isEmpty then e else .all (e :: es), ⟨t.1, Nat.lt_of_le_of_lt t.2 hr⟩)
termination_by 4 * s.length + 2
decreasing_by
  · have := (skipSpace s).2
    omega
  · omega

/-- The further operands of a conjunction. -/
def parseFactors (size depth : Nat) (s : List Char) : Except QueryError (List Expr × Rest s) :=
  let b := skipSpace s
  if endsOperands b.1 then .ok ([], b)
  else
    match parseUnary size depth b.1 with
    | .error e => .error e
    | .ok (e, r) =>
      have hr : r.1.length < s.length := Nat.lt_of_lt_of_le r.2 b.2
      match parseFactors size depth r.1 with
      | .error e => .error e
      | .ok (es, t) => .ok (e :: es, ⟨t.1, Nat.le_trans t.2 (Nat.le_of_lt hr)⟩)
termination_by 4 * s.length + 2
decreasing_by
  · have := (skipSpace s).2
    omega
  · omega

/-- A negation, a group, a tag or a metatag. -/
def parseUnary (size depth : Nat) (s : List Char) : Except QueryError (Expr × Shorter s) :=
  match s with
  | [] => faultAt size s .unexpectedEnd
  | c :: rest =>
    if c = '-' then
      -- A minus sign stands directly in front of what it negates.
      if endsOperands rest || rest.head?.any isWhitespace then faultAt size s .danglingMinus
      else if maxNesting ≤ depth then faultAt size s .negationTooDeep
      else
        match parseUnary size (depth + 1) rest with
        | .error e => .error e
        | .ok (e, r) => .ok (.neg e, Shorter.ofTail r.toRest)
    else if c = '(' then
      match parseGroup size depth rest with
      | .error e => .error e
      | .ok (e, r) => .ok (e, Shorter.ofTail r.toRest)
    else if isWord c then word size c rest
    else faultAt size s (.unexpectedChar c)
termination_by 4 * s.length + 1
decreasing_by all_goals simp only [List.length_cons]; omega

/-- The inside of a group after its opening parenthesis, up to the closing one. -/
def parseGroup (size depth : Nat) (s : List Char) : Except QueryError (Expr × Shorter s) :=
  -- Faults of the group are reported at its opening parenthesis.
  let opening := '(' :: s
  let b := skipSpace s
  if b.1.isEmpty then faultAt size opening .unclosedGroup
  else if b.1.head? = some ')' then faultAt size opening .emptyGroup
  else if maxNesting ≤ depth then faultAt size opening .groupTooDeep
  else
    match parseAny size (depth + 1) b.1 with
    | .error e => .error e
    | .ok (e, r) =>
      match h : (skipSpace r.1).1 with
      | ')' :: rest =>
        .ok (e, ⟨rest, by
          have h1 := (skipSpace r.1).2
          have h2 := r.2
          have h3 := b.2
          rw [h, List.length_cons] at h1
          omega⟩)
      | _ => faultAt size opening .unclosedGroup
termination_by 4 * s.length + 4
decreasing_by
  have := (skipSpace s).2
  omega

end

/-- The query of a text. -/
def parse (text : String) : Except QueryError Expr :=
  let cs := text.toList
  let size := cs.length
  let b := skipSpace cs
  if b.1.isEmpty then faultAt size b.1 .emptyQuery
  else
    match parseAny size 0 b.1 with
    | .error e => .error e
    | .ok (e, r) =>
      match (skipSpace r.1).1 with
      | [] => .ok e
      | ')' :: rest => faultAt size (')' :: rest) .unexpectedClose
      | c :: rest => faultAt size (c :: rest) (.unexpectedChar c)

end Gallery.Query
