import Gallery.Query.Glob
import Gallery.Regex.Compile
import Gallery.Text.Case

/-!
# `Gallery.Query.Pattern` — the values of metatags

A pattern is written between double quotes as a glob, which describes whole texts, or between
slashes as a regular expression, which is searched for.  Only texts that compile become patterns, and
two patterns are equal when they are written alike.

## Contents
- `PatternKind`, `PatternError` with its message, and `Matcher`.
- `Matcher.compile`, how each kind is compiled; a glob without wildcards compares texts.
- `Pattern`, `Pattern.make`, `Pattern.isMatch`, `Pattern.render`.
-/

namespace Gallery.Query

open Gallery.Text

/-- How a pattern is written. -/
inductive PatternKind where
  | glob
  | regex
  deriving DecidableEq, Repr

/-- Why a text is no pattern. -/
inductive PatternError where
  /-- A glob ends in the middle of an escape. -/
  | danglingEscape (source : String)
  | regex (e : Regex.Error)
  deriving DecidableEq, Repr

/-- The description of the error, with that of an expression's error given by `describe`. -/
def PatternError.detail (describe : Regex.Error → String) : PatternError → String
  | danglingEscape source => s!"dangling escape at the end of \"{source}\""
  | regex e => describe e

/-- A compiled pattern. -/
inductive Matcher where
  /-- Texts equal to the given one. -/
  | exact (text : String)
  /-- Texts with the given lowercase form. -/
  | lowered (text : String)
  /-- Texts of which the expression matches a part. -/
  | search (r : Regex)
  deriving DecidableEq, Repr

namespace Matcher

/-- Whether the text is one that the pattern describes. -/
def isMatch : Matcher → String → Bool
  | exact t, text => text == t
  | lowered t, text => lowercase text == t
  | search r, text => r.isMatch text.toList

/-- The matcher of a glob: a comparison if it has no wildcard, else a search for its expression
`r`. -/
def ofGlob (ignoreCase : Bool) (g : Glob) (r : Regex) : Matcher :=
  match g.literal? with
  | none => search r
  | some text =>
    if ignoreCase then lowered (lowercase (String.ofList text)) else exact (String.ofList text)

/-- The text of an expression with its escaped slashes replaced by slashes. -/
def unescapeSlashes : List Char → List Char
  | '\\' :: '/' :: rest => '/' :: unescapeSlashes rest
  | '\\' :: c :: rest => '\\' :: c :: unescapeSlashes rest
  | c :: rest => c :: unescapeSlashes rest
  | [] => []

/-- The matcher of a pattern with the given source. -/
def compile (kind : PatternKind) (source : String) (ignoreCase : Bool) :
    Except PatternError Matcher :=
  match kind with
  | .glob =>
    match Glob.parse source.toList with
    | none => .error (.danglingEscape source)
    | some g =>
      -- The expression is compiled even where the matcher does not search for it.
      match Regex.build ignoreCase g.expression with
      | .error e => .error (.regex e)
      | .ok r => .ok (ofGlob ignoreCase g r)
  | .regex =>
    match Regex.build ignoreCase (unescapeSlashes source.toList) with
    | .error e => .error (.regex e)
    | .ok r => .ok (search r)

end Matcher

/-- A text that compiles, together with the way it is written. -/
structure Pattern where
  kind : PatternKind
  /-- The text between the delimiters. -/
  source : String
  ignoreCase : Bool
  matcher : Matcher
  compiled : Matcher.compile kind source ignoreCase = .ok matcher

namespace Pattern

/-- Patterns are equal when they are written alike. -/
theorem ext_written {p q : Pattern} (hk : p.kind = q.kind) (hs : p.source = q.source)
    (hc : p.ignoreCase = q.ignoreCase) : p = q := by
  obtain ⟨k, s, c, m, h⟩ := p
  obtain ⟨k', s', c', m', h'⟩ := q
  simp only at hk hs hc
  subst hk hs hc
  have : m = m' := by
    rw [h] at h'
    exact Except.ok.inj h'
  subst this
  rfl

instance : DecidableEq Pattern := fun p q =>
  if h : p.kind = q.kind ∧ p.source = q.source ∧ p.ignoreCase = q.ignoreCase then
    isTrue (ext_written h.1 h.2.1 h.2.2)
  else isFalse fun e => h (e ▸ ⟨rfl, rfl, rfl⟩)

/-- The pattern with the given source. -/
def make (kind : PatternKind) (source : String) (ignoreCase : Bool) :
    Except PatternError Pattern :=
  match h : Matcher.compile kind source ignoreCase with
  | .error e => .error e
  | .ok m => .ok ⟨kind, source, ignoreCase, m, h⟩

section

variable {kind : PatternKind} {source : String} {ignoreCase : Bool}

/-- The pattern that is made is the one that is written so. -/
theorem make_eq_ok_iff {p : Pattern} : make kind source ignoreCase = .ok p
    ↔ p.kind = kind ∧ p.source = source ∧ p.ignoreCase = ignoreCase := by
  unfold make
  constructor
  · intro h
    split at h
    · cases h
    · cases h
      exact ⟨rfl, rfl, rfl⟩
  · rintro ⟨rfl, rfl, rfl⟩
    split
    · rename_i err herr
      cases herr.symm.trans p.compiled
    · exact congrArg Except.ok (ext_written rfl rfl rfl)

theorem make_eq_error_iff {e : PatternError} : make kind source ignoreCase = .error e
    ↔ Matcher.compile kind source ignoreCase = .error e := by
  unfold make
  split
  · rename_i e' he
    rw [he, Except.error.injEq, Except.error.injEq]
  · rename_i m hm
    exact ⟨nofun, fun he => by cases hm.symm.trans he⟩

end

/-- Whether the text is one that the pattern describes. -/
def isMatch (p : Pattern) (text : String) : Bool := p.matcher.isMatch text

/-- Whether the pattern is a glob without wildcards. -/
def isLiteral (p : Pattern) : Bool :=
  match p.matcher with
  | .exact _ | .lowered _ => true
  | .search _ => false

/-- The pattern as it is written, delimiters included. -/
def render (p : Pattern) : List Char :=
  match p.kind with
  | .glob => '"' :: p.source.toList ++ ['"']
  | .regex => '/' :: p.source.toList ++ ['/']

instance : ToString Pattern := ⟨fun p => String.ofList p.render⟩

end Pattern

end Gallery.Query
