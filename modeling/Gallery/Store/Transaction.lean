import Gallery.Store

/-!
# `Gallery.Store.Transaction` — the tags of an image as rows of a table

A store keeps the tags of an image with the image.  In its tables they are rows of their own, and the
tags of an image are replaced by a transaction: all its rows are deleted, and then a row is added for
each label, one statement after the other.  A label without a tag selects nothing and a row that is
there is ignored, but a row for an image that does not exist breaks a rule, when everything before has
been done already.  Then the transaction is dropped and the tables are as they were.

## Contents
- `Tables` and `Store.tables`; `Statement` and `Tables.execute`, one statement.
- `Connection.run`, the statements of a transaction, and `Store.replaceTags`, that of the tags of an
  image.
-/

namespace Gallery

/-! ## Tables -/

/-- The tables of a store; a row of `links` says that an image has a tag. -/
structure Tables where
  images : Numbered (String × Option (List UInt8))
  types : Numbered TypeRow
  tags : Numbered TagRow
  links : List (ImageId × TagId)

/-- The rows that say which image has which tag. -/
def Store.links (s : Store) : List (ImageId × TagId) :=
  s.images.rows.entries.flatMap fun e => e.2.tags.toList.map (e.1, ·)

/-- The tables of a store. -/
def Store.tables (s : Store) : Tables where
  images := ⟨s.images.rows.map fun _ r => (r.path, r.fingerprint), s.images.last⟩
  types := s.types
  tags := s.tags
  links := s.links

/-! ## Statements -/

/-- The statements by which the tags of an image are replaced. -/
inductive Statement where
  /-- Delete all rows of the image. -/
  | unlink (id : ImageId)
  /-- Add a row of the image for each tag with the label; a row that is there is ignored. -/
  | linkLabel (id : ImageId) (label : String)

namespace Tables

/-- Adds a row, unless it is there; what it refers to must exist. -/
def link (t : Tables) (row : ImageId × TagId) : Except StoreError Tables :=
  if row ∈ t.links then .ok t
  else if t.images.contains row.1 && t.tags.contains row.2 then
    .ok { t with links := t.links ++ [row] }
  else .error .missingRow

/-- The tags with a label. -/
def select (t : Tables) (label : String) : List TagId :=
  (t.tags.rows.entries.filter fun e => e.2.label == label).map (·.1)

/-- Adds a row of an image for each tag. -/
def linkAll (t : Tables) (id : ImageId) (tags : List TagId) : Except StoreError Tables :=
  tags.foldlM (fun t tag => t.link (id, tag)) t

/-- What a statement makes of the tables; one that is refused changes nothing. -/
def execute (t : Tables) : Statement → Except StoreError Tables
  | .unlink id => .ok { t with links := t.links.filter (·.1 ≠ id) }
  | .linkLabel id label => t.linkAll id (t.select label)

end Tables

/-! ## Transactions -/

/-- A connection in a transaction. -/
structure Connection where
  /-- The tables as they were committed. -/
  saved : Tables
  /-- The tables as the transaction sees them. -/
  working : Tables

/-- The statements of a transaction, one after the other.  If none is refused, all is committed; if one
is, the transaction is dropped, and what it has written is taken back. -/
def Connection.run (c : Connection) : List Statement → Except StoreError Unit × Connection
  | [] => (.ok (), ⟨c.working, c.working⟩)
  | statement :: rest =>
    match c.working.execute statement with
    | .error e => (.error e, ⟨c.saved, c.saved⟩)
    | .ok t => Connection.run { c with working := t } rest

/-- Replaces the tags of an image in a transaction: how it ends, and the tables then. -/
def Store.replaceTags (s : Store) (id : ImageId) (labels : List String) :
    Except StoreError Unit × Tables :=
  let (answer, c) := Connection.run ⟨s.tables, s.tables⟩ (.unlink id :: labels.map (.linkLabel id))
  (answer, c.saved)

end Gallery
