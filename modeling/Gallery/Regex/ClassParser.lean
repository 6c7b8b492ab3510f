import Gallery.Regex.Property
import Gallery.Regex.Scan
import Gallery.Text.Numeral

/-!
# `Gallery.Regex.ClassParser` — reading escapes and bracketed classes

Escapes are shared by the inside and the outside of brackets.  A bracketed class is read from left
to right; what is still open is kept on a stack, so that nothing but the input's length bounds the
loop.

## Contents
- `property?`, the properties by name; `escape`, one escape sequence.
- `classItem`, a character, an interval or a shorthand; `namedClass?`, as in `[:alpha:]`.
- `bracketed`, a whole class after its opening bracket.
-/

namespace Gallery.Regex

open Gallery.Text Scan

/-! ## Escapes -/

/-- The characters with a meaning of their own in patterns. -/
def isMeta (c : Char) : Bool :=
  "\\.+*?()|[]\x7b\x7d^$#&-~".toList.contains c

/-- Whether a character stands for itself after a backslash: ASCII without letters, digits and the
angle brackets. -/
def isEscapable (c : Char) : Bool :=
  c.toNat < 0x80 && !c.isAlphanum && c != '<' && c != '>'

/-- Splits a text at the first occurrence of `sep`. -/
def splitAt? (sep : List Char) : List Char → Option (List Char × List Char)
  | [] => none
  | c :: rest =>
    if sep.isPrefixOf (c :: rest) then some ([], (c :: rest).drop sep.length)
    else (splitAt? sep rest).map fun (a, b) => (c :: a, b)

/-- The class written between the braces of a property escape, and whether it is negated. -/
def property? (text : List Char) : Option (CharClass × Bool) :=
  match splitAt? ['!', '='] text with
  | some (n, v) => (propertyOfValue? n v).map (·, true)
  | none =>
    match splitAt? [':'] text with
    | some (n, v) => (propertyOfValue? n v).map (·, false)
    | none =>
      match splitAt? ['='] text with
      | some (n, v) => (propertyOfValue? n v).map (·, false)
      | none => (propertyOfName? text).map (·, false)

/-- The rest of a property escape after its first letter. -/
def propertyEscape (space negated : Bool) : Scan Tree := do
  blanks space
  match ← next with
  | none => refuse .invalidEscape
  | some '\x7b' =>
    let name ← run space (· != '\x7d')
    if !(← accept ['\x7d']) then refuse .invalidEscape
    match property? name with
    | some (c, opposite) => pure (.ofClass (.property c (negated != opposite)))
    | none => refuse .unknownProperty
  | some '\\' => refuse .invalidEscape
  | some c =>
    blanks space
    match propertyOfName? [c] with
    | some cls => pure (.ofClass (.property cls negated))
    | none => refuse .unknownProperty

/-- The character with the given code point, if there is one. -/
def scalar? (n : Nat) : Option Char := if h : n.isValidChar then some (Char.ofNatAux n h) else none

/-- Exactly `n` hexadecimal digits. -/
def hexDigits (space : Bool) : Nat → Scan (List Char)
  | 0 => pure []
  | n + 1 => do
    match ← next with
    | none => refuse .invalidEscape
    | some c =>
      if !isHexDigit c then refuse .invalidEscape
      blanks space
      return c :: (← hexDigits space n)

/-- The rest of a hexadecimal escape after its letter, which takes `width` digits or braces. -/
def hexEscape (space : Bool) (width : Nat) : Scan Tree := do
  blanks space
  let braced ← accept ['\x7b']
  let digits ←
    if braced then do
      let ds ← run space isHexDigit
      if !(← accept ['\x7d']) then refuse .invalidEscape
      blanks space
      pure ds
    else hexDigits space width
  match (readHex? digits).bind scalar? with
  | some c => pure (.literal c (!braced && width == 2))
  | none => refuse .invalidCodePoint

/-- The word boundary of a name in braces. -/
def boundaryOfName? : String → Option Boundary
  | "start" => some .start
  | "end" => some .finish
  | "start-half" => some .startHalf
  | "end-half" => some .finishHalf
  | _ => none

/-- The characters of names of word boundaries. -/
def isBoundaryChar (c : Char) : Bool := c.isAlpha || c == '-'

/-- The name of a special word boundary after its opening brace. -/
def namedBoundary (space : Bool) : Scan Tree := do
  blanks space
  let name ← run space isBoundaryChar
  if !(← accept ['\x7d']) then refuse .invalidEscape
  match boundaryOfName? (String.ofList name) with
  | some b => pure (.boundary b)
  | none => refuse .invalidEscape

/-- Whether the text goes on with a brace and a name, rather than with a repetition count. -/
def startsBoundaryName (space : Bool) : List Char → Bool
  | '\x7b' :: r => (afterBlanks space r).1.head?.all isBoundaryChar
  | _ => false

/-- A word boundary, or the special one named in braces. -/
def boundaryEscape (space : Bool) : Scan Tree := do
  let named : Bool ← fun s => .ok (startsBoundaryName space s, Rest.all s)
  if named then
    let _ ← next
    namedBoundary space
  else pure (.boundary .edge)

/-- One escape sequence after its backslash. -/
def escape (space : Bool) : Scan Tree := do
  match ← next with
  | none => refuse .invalidEscape
  | some c =>
    match c with
    | 'x' => hexEscape space 2
    | 'u' => hexEscape space 4
    | 'U' => hexEscape space 8
    | 'p' => propertyEscape space false
    | 'P' => propertyEscape space true
    | 'd' => pure (.ofClass (.shorthand .digit false))
    | 'D' => pure (.ofClass (.shorthand .digit true))
    | 's' => pure (.ofClass (.shorthand .space false))
    | 'S' => pure (.ofClass (.shorthand .space true))
    | 'w' => pure (.ofClass (.shorthand .word false))
    | 'W' => pure (.ofClass (.shorthand .word true))
    | 'a' => pure (.literal '\x07' false)
    | 'f' => pure (.literal '\x0c' false)
    | 't' => pure (.literal '\t' false)
    | 'n' => pure (.literal '\n' false)
    | 'r' => pure (.literal '\r' false)
    | 'v' => pure (.literal '\x0b' false)
    | 'A' => pure .textStart
    | 'z' => pure .textEnd
    | 'b' => boundaryEscape space
    | 'B' => pure (.boundary .notEdge)
    | '<' => pure (.boundary .start)
    | '>' => pure (.boundary .finish)
    | c =>
      if c.isDigit then refuse .unsupportedBackreference
      else if isEscapable c then pure (.literal c false)
      else refuse .invalidEscape

/-! ## Bracketed classes -/

/-- A single member of a bracketed class that starts with `c`: a character or an escape. -/
def classMember (space : Bool) (c : Char) : Scan ClassTree := do
  if c == '\\' then
    match ← escape space with
    | .literal c _ => pure (.literal c)
    | .ofClass c => pure c
    | _ => refuse .invalidEscape
  else pure (.literal c)

/-- Whether the text starts with a hyphen that stands between the ends of an interval. -/
def startsInterval (space : Bool) : List Char → Bool
  | '-' :: r =>
    match (afterBlanks space r).1 with
    | ']' :: _ | '-' :: _ => false
    | _ => true
  | _ => false

/-- A member of a bracketed class that starts with `c`, or an interval between two characters. -/
def classItem (space : Bool) (c : Char) : Scan ClassTree := do
  let first ← classMember space c
  blanks space
  let isInterval : Bool ← fun s => .ok (startsInterval space s, Rest.all s)
  if !isInterval then pure first
  else
    let _ ← next
    blanks space
    match ← next with
    | none => refuse .unclosedClass
    | some d =>
      let last ← classMember space d
      match first, last with
      | .literal a, .literal b => if a ≤ b then pure (.interval a b) else refuse .invalidInterval
      | _, _ => refuse .invalidInterval

/-- A named class after its opening bracket, if the text continues like one. -/
def namedClass? (s : List Char) : Option (ClassTree × Rest s) :=
  match s with
  | ':' :: r =>
    let negated := r.head? == some '^'
    let name := (r.drop (if negated then 1 else 0)).takeWhile (· != ':')
    let length := 1 + (if negated then 1 else 0) + name.length
    if [':', ']'].isPrefixOf ((':' :: r).drop length) then
      (NamedClass.ofName? (String.ofList name)).map fun n =>
        (.named n negated, ⟨(':' :: r).drop (length + 2), (List.drop_sublist _ _).length_le⟩)
    else none
  | _ => none

/-- What is open while a class is read: a bracket with the items in front of it, or an operation
with its left side. -/
inductive ClassFrame where
  | bracket (negated : Bool) (before : List ClassTree)
  | operation (op : ClassOp) (left : ClassTree)

/-- The start of a class after its bracket: whether it is negated, and the hyphens and the closing
bracket that stand for themselves there. -/
def classStart (space : Bool) : Scan (Bool × List ClassTree) := do
  blanks space
  let negated ← accept ['^']
  blanks space
  let hyphens ← run space (· == '-')
  -- A closing bracket that comes first is a member.
  let bracket ← if hyphens.isEmpty then accept [']'] else pure false
  blanks space
  return (negated, if bracket then [.literal ']'] else hyphens.map .literal)

/-- Completes the operation on top of the stack with its right side. -/
def applyPending (right : ClassTree) : List ClassFrame → ClassTree × List ClassFrame
  | .operation op left :: frames => (.binary op left right, frames)
  | frames => (right, frames)

/-- The operation that starts with `c` at the front of the text. -/
def classOp? (c : Char) (s : List Char) : Option (ClassOp × Rest s) :=
  match s with
  | [] => none
  | d :: r =>
    if c != d then none
    else
      match c with
      | '&' => some (.inter, Rest.tail r)
      | '-' => some (.diff, Rest.tail r)
      | '~' => some (.symmDiff, Rest.tail r)
      | _ => none

/-- What one step of reading a class leads to: more open parts, or the whole class. -/
inductive ClassStep where
  | more (frames : List ClassFrame) (items : List ClassTree)
  | done (c : ClassTree)

/-- Reads one part of a class that starts with `c`: `frames` are the open parts, innermost first, and
`items` the members read since, in order. -/
def classStep (space : Bool) (frames : List ClassFrame) (items : List ClassTree) (c : Char) :
    Scan ClassStep := fun r =>
  match c with
  | '[' =>
    match namedClass? r with
    | some (n, t) => .ok (.more frames (items ++ [n]), t)
    | none =>
      (do
        let (negated, first) ← classStart space
        return .more (.bracket negated items :: frames) first : Scan ClassStep) r
  | ']' =>
    match applyPending (ClassTree.ofItems items) frames with
    | (body, .bracket negated before :: outer) =>
      if outer.isEmpty then .ok (.done (.bracket negated body), Rest.all r)
      else .ok (.more outer (before ++ [.bracket negated body]), Rest.all r)
    | _ => .error .unclosedClass
  | c =>
    match classOp? c r with
    | some (op, t) =>
      -- Operations of one bracket are joined from left to right.
      let (left, outer) := applyPending (ClassTree.ofItems items) frames
      .ok (.more (.operation op left :: outer) [], t)
    | none =>
      (do
        let item ← classItem space c
        return .more frames (items ++ [item]) : Scan ClassStep) r

/-- Reads the rest of a class, step by step. -/
def classLoop (space : Bool) (frames : List ClassFrame) (items : List ClassTree)
    (s : List Char) : Except Error (ClassTree × Rest s) :=
  let b := afterBlanks space s
  match hb : b.1 with
  | [] => .error .unclosedClass
  | c :: r =>
    match classStep space frames items c r with
    | .error e => .error e
    | .ok (step, t) =>
      have : t.1.length < s.length := by
        have hb' := b.2
        have ht := t.2
        rw [hb, List.length_cons] at hb'
        omega
      match step with
      | .done cls => .ok (cls, ⟨t.1, Nat.le_of_lt this⟩)
      | .more frames items =>
        match classLoop space frames items t.1 with
        | .error e => .error e
        | .ok (cls, u) => .ok (cls, ⟨u.1, Nat.le_trans u.2 (Nat.le_of_lt this)⟩)
termination_by s.length

/-- Reads a class after its opening bracket. -/
def bracketed (space : Bool) : Scan ClassTree := do
  let (negated, first) ← classStart space
  classLoop space [.bracket negated []] first

end Gallery.Regex
