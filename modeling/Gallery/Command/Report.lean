import Gallery.Command
import Gallery.Library
import Gallery.Text.Decimal
import Gallery.Text.Json

/-!
# `Gallery.Command.Report` — how answers to queries are written

## Contents
- `tableLine`, an image and its score with two decimals.
- `document`, an answer as a document, with scores as the shortest decimals that read back.
-/

namespace Gallery.Command

open Gallery.Query Gallery.Text

/-- A line of the table: the score, or a hyphen, and the path. -/
def tableLine (i : ScoredImage) : String :=
  (match i.score with
    | some score => fixedDecimal 2 score
    | none => "-") ++ "\t" ++ i.path

/-- An image as a document. -/
def imageDocument (i : ScoredImage) : Json :=
  .object [("id", .number (toString i.id)), ("path", .string i.path),
    ("score", match i.score with
      | some score => .number (shortestDecimal score)
      | none => .null)]

/-- A warning as a document. -/
def warningDocument : Warning → Json
  | .unknownTag label => .object [("kind", .string "unknown_tag"), ("label", .string label)]
  | .noReference pattern => .object [("kind", .string "no_reference"), ("pattern", .string pattern)]

/-- An answer as a document. -/
def document (o : QueryOutput) : Json :=
  .object [("images", .array (o.images.map imageDocument)),
    ("warnings", .array (o.warnings.map warningDocument))]

/-- The lines of an answer in a format. -/
def reportLines (format : OutputFormat) (o : QueryOutput) : List String :=
  match format with
  | .json => [(document o).pretty]
  | .table => o.images.map tableLine

end Gallery.Command
