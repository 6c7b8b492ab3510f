import Gallery.Regex.Matching
import Gallery.Regex.Ranges
import Gallery.Regex.Tree

/-!
# `Gallery.Regex.Program` — how much memory a compiled expression takes

An expression is compiled to an automaton over the bytes of a text, and refused if that takes more
memory than is allowed.  Every part of the expression adds states, all of one size, and states with
branches take more for each of them.  A class is compiled for reading backwards, where the sequences
of its encodings share the states of the bytes in front.

## Contents
- `stateSize`, `transitionSize` and `branchSize`.
- `CharClass.footprint` and `Regex.footprint`, the memory of a class and of an expression.
- `Regex.Fits`, whether an expression stays within the limit.
-/

namespace Gallery.Regex

/-- The bytes of a state. -/
def stateSize : Nat := 32

/-- The further bytes of a state for each range of bytes that leads out of it. -/
def transitionSize : Nat := 8

/-- The further bytes of a state for each state that it branches to. -/
def branchSize : Nat := 4

/-- How many bytes two sequences have in common at their front. -/
def sharedLength : List CodeRange → List CodeRange → Nat
  | r :: rs, s :: ss => if r = s then sharedLength rs ss + 1 else 0
  | _, _ => 0

/-- The states of sequences in order after `previous`: each shares those of the bytes that it has in
common with the one in front. -/
def statesAfter (previous : List CodeRange) : List (List CodeRange) → Nat
  | [] => 0
  | s :: rest => (s.length - sharedLength previous s) + statesAfter s rest

/-- The memory of a class with the given ranges. -/
def rangesFootprint (rs : List CodeRange) : Nat :=
  if rs.all (·.last < 0x80) then 2 * stateSize + rs.length * transitionSize
  else
    let sequences := rs.flatMap byteSequences
    (2 + statesAfter [] sequences) * stateSize + sequences.length * branchSize

/-- The memory of a class; a single character is compiled to its bytes. -/
def CharClass.footprint (c : CharClass) : Nat :=
  match c.ranges with
  | [r] =>
    if r.first = r.last then (Char.ofNat r.first).utf8Size * stateSize else rangesFootprint [r]
  | rs => rangesFootprint rs

/-! ## Expressions -/

/-- Whether the expression matches without taking a character, wherever its anchors hold. -/
def isNullable : Regex → Bool
  | empty | anchor _ => true
  | char _ => false
  | seq r s => isNullable r && isNullable s
  | alt r s => isNullable r || isNullable s
  | repeated r min _ => min = 0 || isNullable r

/-- Whether no match of the expression takes a character. -/
def isEmptyOnly : Regex → Bool
  | empty | anchor _ => true
  | char _ => false
  | seq r s | alt r s => isEmptyOnly r && isEmptyOnly s
  | repeated r _ max => max = some 0 || isEmptyOnly r

/-- The memory of a loop around a part. -/
def loopFootprint : Nat := stateSize + 2 * branchSize

/-- The memory of a part that may be left out, the part aside. -/
def optionalFootprint : Nat := 2 * stateSize + 2 * branchSize

/-- The memory of between `min` and `max` repetitions of a part that takes `size`. -/
def repeatedFootprint (nullable : Bool) (size min : Nat) : Option Nat → Nat
  | none =>
    if min = 0 ∧ nullable then size + loopFootprint + optionalFootprint
    else Nat.max 1 min * size + loopFootprint
  | some max =>
    if max = min then max * size
    else if max = 1 then size + optionalFootprint
    else Nat.max stateSize (min * size) + stateSize + (max - min) * (size + loopFootprint)

/-- The memory of a part; `choice` if it is the rest of a choice that has begun before it. -/
def partFootprint (choice : Bool) : Regex → Nat
  | empty => 0
  | char c => c.footprint
  | anchor _ => stateSize
  | seq r s => partFootprint false r + partFootprint false s
  | alt r s =>
    -- All alternatives share one state in front and one behind.
    (if choice then 0 else 2 * stateSize + branchSize) + branchSize
      + Nat.max stateSize (partFootprint false r) + Nat.max stateSize (partFootprint true s)
  | repeated r min max =>
    let size := Nat.max stateSize (partFootprint false r)
    if isEmptyOnly r then
      -- Further repetitions of what takes no character change nothing.
      repeatedFootprint false size (Nat.min min 1) (some (max.elim 1 (Nat.min 1)))
    else repeatedFootprint (isNullable r) size min max

/-- The memory of an expression: its parts, the place where a search begins, the two ends of what is
found and the end of the search. -/
def footprint (r : Regex) : Nat := partFootprint false r + 4 * stateSize

/-- Whether the compiled expression stays within the limit. -/
def Fits (r : Regex) : Prop := r.footprint ≤ sizeLimit

instance : DecidablePred Fits := fun r => inferInstanceAs (Decidable (r.footprint ≤ sizeLimit))

end Gallery.Regex
