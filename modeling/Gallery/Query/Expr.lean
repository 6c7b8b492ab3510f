import Gallery.Distinct
import Gallery.Query.Pattern

/-!
# `Gallery.Query.Expr` — queries as trees

A query combines tags and metatags by negation, conjunction and disjunction.  The two constants do
not occur in parsed queries; they appear when compound tags are expanded and when a query is
simplified.

## Contents
- `Key` and `Metatag`.
- `Expr` with decidable equality; `Expr.labels` and `Expr.metatags` list what occurs in it.
- `Expr.render`, the text of a query.
- `joined`, operands under a connective.
-/

namespace Gallery.Query

/-- What a metatag looks at. -/
inductive Key where
  /-- The extension of the file. -/
  | type
  /-- The name of the file without its extension. -/
  | name
  /-- The whole path. -/
  | path
  /-- The images that are similar to those with a matching path. -/
  | similarTo
  deriving DecidableEq, Repr

namespace Key

/-- The words that are keys, in the order in which they are suggested. -/
def keywords : List String := ["type", "ext", "name", "path", "similar_to"]

/-- The key of a word; the extension has two. -/
def ofKeyword? : String → Option Key
  | "type" | "ext" => some type
  | "name" => some name
  | "path" => some path
  | "similar_to" => some similarTo
  | _ => none

/-- The word under which a key is printed. -/
def keyword : Key → String
  | type => "type"
  | name => "name"
  | path => "path"
  | similarTo => "similar_to"

/-- Extensions are compared without regard to case. -/
def ignoresCase : Key → Bool
  | type => true
  | _ => false

end Key

/-- A condition on the metadata of an image. -/
structure Metatag where
  key : Key
  pattern : Pattern
  deriving DecidableEq

/-- The text of a metatag. -/
def Metatag.render (m : Metatag) : List Char := m.key.keyword.toList ++ ':' :: m.pattern.render

/-- A query. -/
inductive Expr where
  /-- No image. -/
  | nothing
  /-- Every image. -/
  | everything
  /-- The images with a tag. -/
  | tag (label : String)
  /-- The images whose metadata satisfy a condition. -/
  | metatag (m : Metatag)
  | neg (e : Expr)
  /-- The images that satisfy all of the queries. -/
  | all (es : List Expr)
  /-- The images that satisfy one of the queries. -/
  | any (es : List Expr)

namespace Expr

instance : Inhabited Expr := ⟨nothing⟩

/-! ## Equality -/

mutual

/-- Whether two queries are the same. -/
def same : Expr → Expr → Bool
  | nothing, nothing => true
  | everything, everything => true
  | tag a, tag b => a == b
  | metatag a, metatag b => a == b
  | neg a, neg b => same a b
  | all as, all bs => sameList as bs
  | any as, any bs => sameList as bs
  | _, _ => false

/-- Whether two lists of queries are the same. -/
def sameList : List Expr → List Expr → Bool
  | [], [] => true
  | a :: as, b :: bs => same a b && sameList as bs
  | _, _ => false

end

mutual

theorem eq_of_same (d e : Expr) (h : same d e = true) : d = e := by
  cases d with
  | nothing => cases e <;> simp_all [same]
  | everything => cases e <;> simp_all [same]
  | tag a => cases e <;> simp_all [same]
  | metatag a => cases e <;> simp_all [same]
  | neg a =>
    cases e with
    | neg b => rw [eq_of_same a b (by simpa [same] using h)]
    | _ => simp [same] at h
  | all as =>
    cases e with
    | all bs => rw [eq_of_sameList as bs (by simpa [same] using h)]
    | _ => simp [same] at h
  | any as =>
    cases e with
    | any bs => rw [eq_of_sameList as bs (by simpa [same] using h)]
    | _ => simp [same] at h

theorem eq_of_sameList (ds es : List Expr) (h : sameList ds es = true) : ds = es := by
  cases ds with
  | nil => cases es <;> simp_all [sameList]
  | cons a as =>
    cases es with
    | nil => simp [sameList] at h
    | cons b bs =>
      simp only [sameList, Bool.and_eq_true] at h
      rw [eq_of_same a b h.1, eq_of_sameList as bs h.2]

end

mutual

theorem same_self (e : Expr) : same e e = true := by
  cases e with
  | nothing => rfl
  | everything => rfl
  | tag a => simp [same]
  | metatag a => simp [same]
  | neg a => simpa [same] using same_self a
  | all as => simpa [same] using sameList_self as
  | any as => simpa [same] using sameList_self as

theorem sameList_self (es : List Expr) : sameList es es = true := by
  cases es with
  | nil => rfl
  | cons a as => simp [sameList, same_self a, sameList_self as]

end

instance : DecidableEq Expr := fun d e =>
  if h : same d e = true then isTrue (eq_of_same d e h)
  else isFalse fun hde => h (hde ▸ same_self d)

/-! ## What occurs in a query -/

mutual

/-- The labels of a query from left to right, each as often as it occurs. -/
def occurrences : Expr → List String
  | nothing | everything | metatag _ => []
  | tag l => [l]
  | neg e => e.occurrences
  | all es => occurrencesList es
  | any es => occurrencesList es

/-- The labels of a list of queries from left to right. -/
def occurrencesList : List Expr → List String
  | [] => []
  | e :: es => e.occurrences ++ occurrencesList es

end

/-- The labels of a query in order of their first occurrence. -/
def labels (e : Expr) : List String := distinct e.occurrences

mutual

/-- The metatags of a query from left to right. -/
def metatags : Expr → List Metatag
  | nothing | everything | tag _ => []
  | metatag m => [m]
  | neg e => e.metatags
  | all es => metatagsList es
  | any es => metatagsList es

/-- The metatags of a list of queries from left to right. -/
def metatagsList : List Expr → List Metatag
  | [] => []
  | e :: es => e.metatags ++ metatagsList es

end

/-! ## Printing -/

/-- Puts parentheses around a text. -/
def parenthesize (text : List Char) : List Char := '(' :: text ++ [')']

mutual

/-- The text of a query: `-` for negation, blanks for conjunction, `+` for disjunction, and
parentheses where a weaker operator stands under a stronger one. -/
def render : Expr → List Char
  | nothing => "<nothing>".toList
  | everything => "<everything>".toList
  | tag l => l.toList
  | metatag m => m.render
  | neg e =>
    match e with
    | all es => '-' :: parenthesize (renderAll es)
    | any es => '-' :: parenthesize (renderAny es)
    | e => '-' :: e.render
  | all es => renderAll es
  | any es => renderAny es

/-- The texts of the operands of a conjunction with blanks between them. -/
def renderAll : List Expr → List Char
  | [] => []
  | [e] => renderFactor e
  | e :: es => renderFactor e ++ ' ' :: renderAll es

/-- The text of an operand of a conjunction. -/
def renderFactor : Expr → List Char
  | any es => parenthesize (renderAny es)
  | e => e.render

/-- The texts of the operands of a disjunction with plus signs between them. -/
def renderAny : List Expr → List Char
  | [] => []
  | [e] => e.render
  | e :: es => e.render ++ " + ".toList ++ renderAny es

end

instance : ToString Expr := ⟨fun e => String.ofList e.render⟩

end Expr

/-- The query that joins the given ones; a single one needs no connective. -/
def joined (connective : List Expr → Expr) : List Expr → Expr
  | [e] => e
  | es => connective es

end Gallery.Query
