/-!
# `Gallery.Text.CodeRun` — properties and mappings of characters as runs of code points

A property of characters is given as a list of runs.  A run is an arithmetic progression of code
points: step 1 for an interval, step 2 for the alternating upper and lower case of many scripts.  A
case mapping sends most characters to a character at a fixed distance; it is given as a list of runs,
each with its distance.  A property with many values is one list of intervals in order, each with its
value.

## Contents
- `CodeRun`, `CodeRun.contains` and `CodeRun.codes`; `CodeRun.anyContains`, membership of a character
  in a list of runs.
- `CaseRun`, `CaseRun.target?` and its inverse `CaseRun.source?`; `CaseRun.mapChar`, the map of a
  list of runs.
- `ValueRun`, `ValueRun.value?`, the value of a character, and `ValueRun.runsWith`, the characters of
  some values; `ValueRun.ordered`, the check that a list is in order.
-/

namespace Gallery.Text

/-- The code points `first, first + step, …` up to `last`. -/
structure CodeRun where
  first : Nat
  last : Nat
  step : Nat
  deriving DecidableEq, Repr

namespace CodeRun

/-- Whether the run holds the code point `n`. -/
def contains (r : CodeRun) (n : Nat) : Bool :=
  r.first ≤ n && n ≤ r.last && (n - r.first) % r.step == 0

/-- The code points that the run holds. -/
def codes (r : CodeRun) : List Nat :=
  if r.first ≤ r.last then
    (List.range ((r.last - r.first) / r.step + 1)).map fun k => r.first + r.step * k
  else []

/-- Whether some run holds the character. -/
def anyContains (runs : List CodeRun) (c : Char) : Bool := runs.any (·.contains c.toNat)

end CodeRun

/-- A run of code points that all move by `shift`. -/
structure CaseRun where
  run : CodeRun
  shift : Int
  deriving DecidableEq

namespace CaseRun

/-- The character at distance `shift` from the code point `n`. -/
def shifted (shift : Int) (n : Nat) : Char := Char.ofNat (n + shift).toNat

/-- Where the run sends `c`, if it holds it. -/
def target? (r : CaseRun) (c : Char) : Option Char :=
  if r.run.contains c.toNat then some (shifted r.shift c.toNat) else none

/-- The character that the run sends to `c`. -/
def source? (r : CaseRun) (c : Char) : Option Char :=
  let d := shifted (-r.shift) c.toNat
  if r.run.contains d.toNat then some d else none

/-- Where the first run that holds `c` sends it; other characters stay. -/
def mapChar (runs : List CaseRun) (c : Char) : Char := (runs.findSome? (·.target? c)).getD c

end CaseRun

/-- An interval of code points that share the value of a property. -/
structure ValueRun (α : Type) where
  first : Nat
  last : Nat
  value : α

namespace ValueRun

variable {α : Type}

/-- Whether the code point `n` lies in the interval. -/
def holds (r : ValueRun α) (n : Nat) : Bool := r.first ≤ n && n ≤ r.last

/-- The value that the first interval around the character gives it. -/
def value? (runs : List (ValueRun α)) (c : Char) : Option α :=
  (runs.find? (·.holds c.toNat)).map (·.value)

/-- The intervals whose value passes a test. -/
def runsWith (p : α → Bool) (runs : List (ValueRun α)) : List CodeRun :=
  (runs.filter fun r => p r.value).map fun r => ⟨r.first, r.last, 1⟩

/-- Whether the intervals begin at `n` or behind and follow each other. -/
def ordered (n : Nat) : List (ValueRun α) → Bool
  | [] => true
  | r :: rest => n ≤ r.first && r.first ≤ r.last && ordered (r.last + 1) rest

end ValueRun

end Gallery.Text
