import Gallery.Regex.Anchor

/-!
# `Gallery.Regex.Matching` — regular expressions and where they match

A regular expression relates a place in a text to the places where a match from there can end.  The
matcher keeps all reachable places at once, as the bits of a number: reading a character class masks
the bits and shifts them by one, a repetition iterates until no place is new.

## Contents
- `Regex`, and the relation `Regex.Spans`: from which place to which place an expression matches.
- `ofBits` with `testBit_ofBits`, and the masks `classMask` and `anchorMask`.
- `Regex.advance`, the matcher on sets of places; `Regex.isMatch`, the search in a whole text.
-/

namespace Gallery

open Gallery.Regex

/-- A regular expression over classes of characters and anchors. -/
inductive Regex where
  | empty
  | char (c : CharClass)
  | anchor (a : Anchor)
  | seq (r s : Regex)
  | alt (r s : Regex)
  /-- At least `min` and at most `max` matches of `r` in a row; no upper bound if `max` is `none`. -/
  | repeated (r : Regex) (min : Nat) (max : Option Nat)
  deriving DecidableEq, Repr

namespace Regex

/-- The expression that never matches. -/
def fail : Regex := .char .none

/-- The expressions of a list in a row. -/
def seqs : List Regex → Regex
  | [] => .empty
  | [r] => r
  | r :: rs => .seq r (seqs rs)

/-- Any of the expressions of a list. -/
def alts : List Regex → Regex
  | [] => fail
  | [r] => r
  | r :: rs => .alt r (alts rs)

/-! ## The relation -/

/-- The character before the place `i`. -/
def before? (text : List Char) (i : Nat) : Option Char := if i = 0 then none else text[i - 1]?

/-- `Iterates R n i j`: `n` steps of `R` lead from `i` to `j`. -/
inductive Iterates (R : Nat → Nat → Prop) : Nat → Nat → Nat → Prop
  | zero (i : Nat) : Iterates R 0 i i
  | succ {n i j k : Nat} (head : R i j) (tail : Iterates R n j k) : Iterates R (n + 1) i k

/-- `r.Spans text i j`: the expression matches the characters of `text` from place `i` to place
`j`. -/
def Spans (text : List Char) : Regex → Nat → Nat → Prop
  | empty, i, j => i = j
  | char c, i, j => j = i + 1 ∧ ∃ x, text[i]? = some x ∧ c.contains x
  | anchor a, i, j => i = j ∧ a.holds (before? text i) text[i]?
  | seq r s, i, j => ∃ k, Spans text r i k ∧ Spans text s k j
  | alt r s, i, j => Spans text r i j ∨ Spans text s i j
  | repeated r min max, i, j =>
    ∃ n, min ≤ n ∧ (∀ m, max = some m → n ≤ m) ∧ Iterates (Spans text r) n i j

/-! ## The matcher -/

/-- The number whose bits are the members of the list, lowest first. -/
def ofBits : List Bool → Nat
  | [] => 0
  | b :: bs => b.toNat + 2 * ofBits bs

theorem testBit_ofBits (bs : List Bool) (i : Nat) : (ofBits bs).testBit i = bs[i]?.getD false := by
  induction bs generalizing i with
  | nil => simp [ofBits]
  | cons b bs ih =>
    cases i with
    | zero => cases b <;> simp [ofBits, Nat.testBit_zero]
    | succ i =>
      have hb : b.toNat < 2 := b.toNat_lt
      have hhalf : (b.toNat + 2 * ofBits bs) / 2 = ofBits bs := by omega
      simp [ofBits, Nat.testBit_succ, hhalf, ih]

/-- The places before a character of the class. -/
def classMask (text : List Char) (c : CharClass) : Nat := ofBits (text.map c.contains)

/-- Which of the places in front of each of the characters and after the last satisfy an anchor,
`before` being the character in front of all. -/
def anchorBits (a : Anchor) (before : Option Char) : List Char → List Bool
  | [] => [a.holds before none]
  | c :: rest => a.holds before (some c) :: anchorBits a (some c) rest

/-- The places that satisfy the anchor. -/
def anchorMask (text : List Char) (a : Anchor) : Nat := ofBits (anchorBits a none text)

/-- `n` steps of `f`. -/
def iterate (f : Nat → Nat) : Nat → Nat → Nat
  | 0, s => s
  | n + 1, s => iterate f n (f s)

/-- Adds the places reached by `f` up to `n` times, or until a step adds none. -/
def closure (f : Nat → Nat) : Nat → Nat → Nat
  | 0, s => s
  | n + 1, s =>
    let t := s ||| f s
    if t = s then s else closure f n t

/-- The places where a match from one of the places `s` can end. -/
def advance (text : List Char) : Regex → Nat → Nat
  | empty, s => s
  | char c, s => (s &&& classMask text c) <<< 1
  | anchor a, s => s &&& anchorMask text a
  | seq r t, s => advance text t (advance text r s)
  | alt r t, s => advance text r s ||| advance text t s
  | repeated r min max, s =>
    closure (advance text r) (max.elim (text.length + 1) (· - min)) (iterate (advance text r) min s)

/-- All places of a text: before each character and at the end. -/
def everyPlace (text : List Char) : Nat := 1 <<< (text.length + 1) - 1

/-- Whether the expression matches some part of the text. -/
def isMatch (r : Regex) (text : List Char) : Bool := r.advance text (everyPlace text) != 0

end Regex

end Gallery
