import Gallery.Regex.CharClass

/-!
# `Gallery.Regex.Ranges` — the characters of a class in order

A class is compiled from its code points: they are listed as ranges in order, and each range is cut
into pieces whose encodings differ in independent bytes.

## Contents
- `CodeRange`, and the lists of ranges in order: `insertRange`, `insertRanges`, `gaps`.
- `CharClass.ranges`, the ranges of a class.
- `byteSequences`, the encodings of a range, as sequences of ranges of bytes.
-/

namespace Gallery.Regex

open Gallery.Text

/-- The code points, or the bytes, from `first` to `last`. -/
structure CodeRange where
  first : Nat
  last : Nat
  deriving DecidableEq, Repr

/-- The last code point. -/
def maxCode : Nat := 0x10FFFF

/-! ## Lists of ranges -/

/-- Adds a range to a list in order; ranges that touch become one. -/
def insertRange (r : CodeRange) : List CodeRange → List CodeRange
  | [] => [r]
  | s :: rest =>
    if r.last + 1 < s.first then r :: s :: rest
    else if s.last + 1 < r.first then s :: insertRange r rest
    else insertRange ⟨min r.first s.first, max r.last s.last⟩ rest

/-- Adds any ranges to a list in order. -/
def insertRanges (rs : List CodeRange) (list : List CodeRange) : List CodeRange :=
  rs.foldr insertRange list

/-- The code points from `next` on that a list in order leaves out. -/
def gapsFrom (next : Nat) : List CodeRange → List CodeRange
  | [] => if next ≤ maxCode then [⟨next, maxCode⟩] else []
  | r :: rest =>
    if next < r.first then ⟨next, r.first - 1⟩ :: gapsFrom (r.last + 1) rest
    else gapsFrom (r.last + 1) rest

/-- The code points that a list in order leaves out. -/
def gaps (list : List CodeRange) : List CodeRange := gapsFrom 0 list

/-- The code points that two lists in order have in common. -/
def commonRanges (a b : List CodeRange) : List CodeRange := gaps (insertRanges (gaps a) (gaps b))

/-! ## The ranges of a class -/

/-- A run as ranges: its code points one by one, unless they follow each other. -/
def rangesOfRun (r : CodeRun) : List CodeRange :=
  if r.step = 1 ∧ r.first ≤ r.last then [⟨r.first, r.last⟩] else r.codes.map fun n => ⟨n, n⟩

/-- The characters of a list in order. -/
def rangesOfChars (cs : List Char) : List CodeRange :=
  insertRanges (cs.map fun c => ⟨c.toNat, c.toNat⟩) []

/-- All characters that differ from another one in case only. -/
def casedChars : List Char :=
  foldRuns.flatMap fun r =>
    r.run.codes.flatMap fun n => [Char.ofNat n, CaseRun.shifted r.shift n]

/-- The characters of ASCII. -/
def asciiChars : List Char := (List.range 0x80).map Char.ofNat

namespace CharClass

/-- The character of a class that is written as one. -/
def single? : CharClass → Option Char
  | interval first last => if first = last then some first else Option.none
  | _ => Option.none

/-- The code points of a class, as ranges in order that do not touch. -/
def ranges : CharClass → List CodeRange
  | none => []
  | any => [⟨0, maxCode⟩]
  | interval first last => if first ≤ last then [⟨first.toNat, last.toNat⟩] else []
  | table runs => insertRanges (runs.flatMap rangesOfRun) []
  | compl a => gaps a.ranges
  | union a b => insertRanges a.ranges b.ranges
  | inter a b => commonRanges a.ranges b.ranges
  | closeCase a =>
    match a.single? with
    | some c => rangesOfChars (caseClass c)
    -- A character outside these differs from no other one.
    | Option.none => insertRanges (rangesOfChars (casedChars.filter (closeCase a).contains)) a.ranges
  | closeAsciiCase a =>
    insertRanges (rangesOfChars (asciiChars.filter (closeAsciiCase a).contains)) a.ranges

end CharClass

/-! ## Encodings -/

/-- The encodings of the numbers from `a` to `b` with one leading byte, which starts at `tag`, and
`more` bytes of six bits after it. -/
def sequencesOf (tag : Nat) : (more a b : Nat) → List (List CodeRange)
  | 0, a, b => [[⟨tag + a, tag + b⟩]]
  | more + 1, a, b =>
    let unit := Nat.pow 64 (more + 1)
    let from? (high low top : Nat) : List (List CodeRange) :=
      (sequencesOf 0x80 more low top).map (⟨tag + high, tag + high⟩ :: ·)
    let (high, low) := (a / unit, a % unit)
    let (high', low') := (b / unit, b % unit)
    if high = high' then from? high low low'
    else
      -- Between the first and the last leading byte, the bytes that follow are any bytes.
      let first := if low = 0 then high else high + 1
      let stop := if low' + 1 = unit then high' + 1 else high'
      (if low = 0 then [] else from? high low (unit - 1)) ++
        (if first < stop then
          [⟨tag + first, tag + stop - 1⟩ :: List.replicate (more + 1) ⟨0x80, 0xBF⟩] else []) ++
        (if low' + 1 = unit then [] else from? high' 0 low')

/-- The code points whose encodings have the same length, without those that encode no character:
the first and the last, the start of the leading bytes and the number of bytes after it. -/
def encodings : List (CodeRange × Nat × Nat) :=
  [(⟨0, 0x7F⟩, 0, 0), (⟨0x80, 0x7FF⟩, 0xC0, 1), (⟨0x800, 0xD7FF⟩, 0xE0, 2),
    (⟨0xE000, 0xFFFF⟩, 0xE0, 2), (⟨0x10000, 0x10FFFF⟩, 0xF0, 3)]

/-- The encodings of a range, in order. -/
def byteSequences (r : CodeRange) : List (List CodeRange) :=
  encodings.flatMap fun (e, tag, more) =>
    let (a, b) := (max r.first e.first, min r.last e.last)
    if a ≤ b then sequencesOf tag more a b else []

end Gallery.Regex
