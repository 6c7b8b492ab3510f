import Gallery.Fingerprint

/-!
# `Gallery.Command` — what can be asked of a gallery

## Contents
- `Command` with `TagMode`, `DefinitionChange` and `OutputFormat`.
-/

namespace Gallery

/-- What happens to the tags that an image has. -/
inductive TagMode where
  | replace
  | append
  | remove
  deriving DecidableEq, Repr

/-- What happens to the definition of a tag. -/
inductive DefinitionChange where
  | keep
  /-- The tag becomes plain. -/
  | drop
  | set (definition : String)
  deriving DecidableEq, Repr

/-- How the answer to a query is written. -/
inductive OutputFormat where
  | json
  | table
  deriving DecidableEq, Repr

/-- A command. -/
inductive Command where
  /-- Registers an image. -/
  | add (path : String) (fingerprint : Option Fingerprint) (tags : List String)
  /-- Gives an image another path. -/
  | move (source target : String)
  /-- Removes images. -/
  | remove (paths : List String)
  /-- Changes the tags of an image. -/
  | tag (path : String) (tags : List String) (mode : TagMode)
  /-- Creates or changes a tag. -/
  | define (label : String) (change : DefinitionChange) (typeLabel : Option String)
  /-- Removes a tag. -/
  | undefine (label : String)
  /-- Creates a tag type. -/
  | defineType (label : String) (symbol : Char) (color : UInt32)
  /-- Answers a query with at most `count` images, or all if `count` is zero. -/
  | query (text : String) (threshold : UInt32) (count : Nat) (format : OutputFormat)
  /-- Checks a query. -/
  | validate (text : String)
  /-- Shows the query that is answered. -/
  | explain (text : String)
  /-- Lists the images without tags. -/
  | untagged
  deriving DecidableEq, Repr

end Gallery
