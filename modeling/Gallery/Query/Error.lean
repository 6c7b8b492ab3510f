import Gallery.Query.Expr

/-!
# `Gallery.Query.Error` — why a query has no answer, and what it warns about

An error is kept as its cause; the texts are made from it at the end.  Functions on texts take the
description of expressions' errors as an argument, so that a front end can word them itself.

## Contents
- `SyntaxFault` and `SyntaxError`, with `SyntaxFault.message`, `SyntaxFault.expected` and
  `SyntaxError.message`.
- `QueryError`, `QueryError.message`, and `QueryError.chain`, the message with those of its causes.
- `Warning` and `Warning.message`.
- Results, that is answers or errors, can be compared.
-/

namespace Gallery.Query

/-- What is wrong with the text of a query. -/
inductive SyntaxFault where
  | emptyQuery
  | unexpectedClose
  | unexpectedChar (c : Char)
  | unexpectedEnd
  | expectedOperand
  | danglingPlus
  | danglingMinus
  | emptyGroup
  | unclosedGroup
  | groupTooDeep
  | negationTooDeep
  | unknownMetatag (word : String)
  | missingValue (key : Key)
  | unterminatedQuote
  | unterminatedRegex
  deriving DecidableEq, Repr

namespace SyntaxFault

/-- The description of a fault. -/
def message : SyntaxFault → String
  | emptyQuery => "empty query"
  | unexpectedClose => "unbalanced parentheses: unexpected ')'"
  | unexpectedChar c => s!"unexpected character '{c}'"
  | unexpectedEnd => "unexpected end of query"
  | expectedOperand => "expected an operand"
  | danglingPlus => "dangling '+'"
  | danglingMinus => "dangling '-'"
  | emptyGroup => "empty group"
  | unclosedGroup => "unbalanced parentheses: '(' is never closed"
  | groupTooDeep => "parentheses nested too deeply"
  | negationTooDeep => "negation nested too deeply"
  | unknownMetatag word => s!"unknown metatag '{word}'"
  | missingValue key => s!"missing value for metatag '{key.keyword}'"
  | unterminatedQuote => "unterminated quoted value"
  | unterminatedRegex => "unterminated regular expression"

/-- The tokens that start an operand. -/
def operand : List String := ["tag", "metatag", "'('", "'-'"]

/-- The tokens that could stand where the fault is. -/
def expected : SyntaxFault → List String
  | unexpectedClose | groupTooDeep | negationTooDeep => []
  | unclosedGroup => ["')'"]
  | unknownMetatag _ => Key.keywords
  | missingValue _ => ["'\"'", "'/'", "value"]
  | unterminatedQuote => ["'\"'"]
  | unterminatedRegex => ["'/'"]
  | _ => operand

end SyntaxFault

/-- A fault and its position, counted in characters. -/
structure SyntaxError where
  position : Nat
  fault : SyntaxFault
  deriving DecidableEq, Repr

/-- The description of the fault with its position and what was expected there. -/
def SyntaxError.message (e : SyntaxError) : String :=
  let at_ := s!"{e.fault.message} (at position {e.position})"
  match e.fault.expected with
  | [] => at_
  | tokens => at_ ++ ", expected one of: " ++ ", ".intercalate tokens

/-- Why a query has no answer. -/
inductive QueryError where
  /-- The text is not a query. -/
  | malformed (e : SyntaxError)
  /-- The value of a metatag does not compile. -/
  | invalidPattern (e : PatternError)
  /-- The definition of a compound tag refers to itself; the labels lead back to the first. -/
  | cyclicDefinition (cycle : List String)
  /-- The definition of a compound tag is not a query. -/
  | invalidDefinition (label : String) (cause : QueryError)
  | cancelled
  deriving DecidableEq, Repr

namespace QueryError

variable (describe : Regex.Error → String)

/-- The description of an error. -/
def message : QueryError → String
  | malformed e => "syntax error: " ++ e.message
  | invalidPattern e => "invalid pattern: " ++ e.detail describe
  | cyclicDefinition cycle => "cyclic tag definition: " ++ " -> ".intercalate cycle
  | invalidDefinition label cause => s!"invalid definition of tag '{label}': " ++ cause.message
  | cancelled => "query cancelled"

/-- The description of an error followed by those of its causes, outermost first. -/
def chain : QueryError → List String
  | malformed e => [(malformed e).message describe, e.message]
  | invalidPattern e => List.replicate 2 ((invalidPattern e).message describe)
  | cyclicDefinition cycle => List.replicate 2 ((cyclicDefinition cycle).message describe)
  | invalidDefinition label cause =>
    List.replicate 2 ((invalidDefinition label cause).message describe) ++ cause.chain
  | cancelled => [cancelled.message describe]

end QueryError

/-- Something that a query mentions and that cannot contribute to its answer. -/
inductive Warning where
  /-- There is no such tag, and the query treats it as one without images. -/
  | unknownTag (label : String)
  /-- No image with a fingerprint has a path that matches. -/
  | noReference (pattern : String)
  deriving DecidableEq, Repr

/-- The description of a warning. -/
def Warning.message : Warning → String
  | unknownTag label => s!"unknown tag '{label}'"
  | noReference pattern => s!"no fingerprinted image matches similar_to:{pattern}"

/-! ## Results -/

instance instDecidableEqExcept {ε α : Type} [DecidableEq ε] [DecidableEq α] :
    DecidableEq (Except ε α)
  | .error d, .error e =>
    if h : d = e then isTrue (h ▸ rfl) else isFalse fun hde => h (Except.error.inj hde)
  | .ok a, .ok b =>
    if h : a = b then isTrue (h ▸ rfl) else isFalse fun hab => h (Except.ok.inj hab)
  | .error _, .ok _ => isFalse nofun
  | .ok _, .error _ => isFalse nofun

end Gallery.Query
