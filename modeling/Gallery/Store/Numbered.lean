import Gallery.Table

/-!
# `Gallery.Store.Numbered` — rows under numbers that are never given twice

A store numbers its rows.  A new row gets the number after the largest one that is in use or was ever
given, so the number of a deleted row does not come back.

## Contents
- `Numbered`, with `next`, the number of the next row, and `append`.
- `erase`, `modify`, and `find?`, the first row with a property.
- One lookup equation per operation.
-/

namespace Gallery

universe u

/-- Rows under numbers. -/
structure Numbered (ν : Type u) where
  rows : Table Int ν := ∅
  /-- The largest number that was ever given. -/
  last : Int := 0
  deriving DecidableEq

namespace Numbered

variable {ν : Type u}

instance : EmptyCollection (Numbered ν) := ⟨⟨∅, 0⟩⟩

instance : Inhabited (Numbered ν) := ⟨∅⟩

/-- The row with a number. -/
def get? (t : Numbered ν) (id : Int) : Option ν := t.rows.get? id

/-- Whether there is a row with a number. -/
def contains (t : Numbered ν) (id : Int) : Bool := t.rows.contains id

/-- The number of the next row. -/
def next (t : Numbered ν) : Int := max t.last (t.rows.lastKey?.getD 0) + 1

/-- Adds a row under the next number. -/
def append (t : Numbered ν) (v : ν) : Numbered ν := ⟨t.rows.insert t.next v, t.next⟩

/-- Deletes the row with a number. -/
def erase (t : Numbered ν) (id : Int) : Numbered ν := { t with rows := t.rows.erase id }

/-- Changes the row with a number. -/
def modify (t : Numbered ν) (id : Int) (f : ν → ν) : Numbered ν :=
  { t with rows := t.rows.modify id f }

/-- Changes every row. -/
def mapRows (t : Numbered ν) (f : ν → ν) : Numbered ν := { t with rows := t.rows.map fun _ => f }

/-- The first row with a property. -/
def find? (t : Numbered ν) (p : ν → Bool) : Option (Int × ν) := t.rows.entries.find? fun e => p e.2

/-- Whether some row has a property. -/
def any (t : Numbered ν) (p : ν → Bool) : Bool := (t.find? p).isSome

@[simp, grind =] theorem get?_append (t : Numbered ν) (v : ν) (id : Int) :
    (t.append v).get? id = if id = t.next then some v else t.get? id :=
  Table.get?_insert ..

@[simp, grind =] theorem get?_erase (t : Numbered ν) (id id' : Int) :
    (t.erase id).get? id' = if id' = id then none else t.get? id' :=
  Table.get?_erase ..

@[simp, grind =] theorem get?_mapRows (t : Numbered ν) (f : ν → ν) (id : Int) :
    (t.mapRows f).get? id = (t.get? id).map f :=
  Table.get?_map ..

end Numbered

end Gallery
