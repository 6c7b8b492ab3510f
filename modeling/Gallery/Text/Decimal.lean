import Gallery.Text.Numeral

/-!
# `Gallery.Text.Decimal` — numbers of single precision as decimals

A finite number of single precision is a whole number of units of `2 ^ -149`, so its decimals are
computed in natural numbers.  With a fixed number of places it is rounded to the nearest decimal.
The shortest decimal is the one with the fewest places that reads back as the number, and the nearest
of those.

## Contents
- `roundDiv`, a quotient rounded to nearest, with `roundDiv_near`.
- `Magnitude`, the absolute value of a number; `Magnitude.round` and `Magnitude.ReadsAs`.
- `Magnitude.shortest`, and the texts `fixedDecimal` and `shortestDecimal`.
-/

namespace Gallery.Text

/-- The whole number nearest to `num / den`, the even one of two. -/
def roundDiv (num den : Nat) : Nat :=
  let q := num / den
  let r := num % den
  if 2 * r < den ∨ (2 * r = den ∧ q % 2 = 0) then q else q + 1

/-- A rounded quotient is at most half a unit away. -/
theorem roundDiv_near (num : Nat) {den : Nat} (h : 0 < den) :
    2 * num ≤ (2 * roundDiv num den + 1) * den ∧ (2 * roundDiv num den - 1) * den ≤ 2 * num := by
  have hr := Nat.mod_lt num h
  have hq := Nat.div_add_mod num den
  have hm : (2 * (num / den) + 1) * den = 2 * (den * (num / den)) + den := by
    rw [Nat.add_mul, Nat.one_mul, Nat.mul_assoc, Nat.mul_comm den]
  have hl : (2 * (num / den) - 1) * den ≤ 2 * (den * (num / den)) := by
    rw [← Nat.mul_assoc, Nat.mul_comm 2 den, Nat.mul_assoc, Nat.mul_comm]
    exact Nat.mul_le_mul_left den (Nat.sub_le ..)
  unfold roundDiv
  dsimp only
  split
  · omega
  · have he : 2 * (num / den + 1) - 1 = 2 * (num / den) + 1 := by omega
    have ht : (2 * (num / den + 1) + 1) * den = (2 * (num / den) + 1) * den + 2 * den := by
      rw [← Nat.add_mul]
      exact congrArg (· * den) (by omega)
    rw [he]
    omega

/-- The magnitude `significand * 2 ^ exponent` of a number, in units of `2 ^ -149`. -/
structure Magnitude where
  significand : Nat
  exponent : Nat
  deriving DecidableEq, Repr

namespace Magnitude

/-- The number one in units of `2 ^ -149`. -/
def one : Nat := 1 <<< 149

/-- The leading bit that a significand has unless the exponent is the smallest. -/
def leading : Nat := 1 <<< 23

/-- The magnitude of a finite number. -/
def ofFloat (x : Float32) : Magnitude :=
  let bits := x.toBits.toNat
  let fraction := bits % leading
  match bits / leading % 256 with
  -- A field of zero stands for the smallest exponent without the leading bit.
  | 0 => ⟨fraction, 0⟩
  | field + 1 => ⟨leading + fraction, field⟩

/-- The number of units. -/
def units (x : Magnitude) : Nat := x.significand <<< x.exponent

/-- The magnitude in units of `10 ^ -places`, rounded to nearest. -/
def round (x : Magnitude) (places : Nat) : Nat := roundDiv (x.units * Nat.pow 10 places) one

/-- Four times the lower end of what is rounded to the number: the number below is half as far away
where the exponent changes. -/
def lowEnd (x : Magnitude) : Nat :=
  let gap := if x.significand = leading ∧ 0 < x.exponent then 1 else 2
  (4 * x.significand - gap) <<< x.exponent

/-- Four times the upper end of what is rounded to the number. -/
def highEnd (x : Magnitude) : Nat := (4 * x.significand + 2) <<< x.exponent

/-- Whether the decimal `n * 10 ^ -places` is rounded to the number; the ends of the range are if the
significand is even. -/
def ReadsAs (x : Magnitude) (places n : Nat) : Prop :=
  let point := 4 * n * one
  let low := x.lowEnd * Nat.pow 10 places
  let high := x.highEnd * Nat.pow 10 places
  if x.significand % 2 = 0 then low ≤ point ∧ point ≤ high else low < point ∧ point < high

instance (x : Magnitude) (places n : Nat) : Decidable (x.ReadsAs places n) := by
  unfold ReadsAs
  infer_instance

/-- The nearest decimal with the given places that reads back as the number, if there is one. -/
def candidate? (x : Magnitude) (places : Nat) : Option Nat :=
  let below := x.units * Nat.pow 10 places / one
  let nearest := x.round places
  -- If a decimal with these places reads back, so does one of the two neighbours.
  let other := if nearest = below then below + 1 else below
  [nearest, other].find? fun n => x.ReadsAs places n

/-- The fewest places of a decimal that reads back as the number, and the nearest such decimal; with
149 places every number is exact. -/
def shortest (x : Magnitude) : Nat × Nat :=
  ((List.range 149).findSome? fun places => (x.candidate? places).map (places, ·)).getD
    (149, x.round 149)

end Magnitude

/-- The sign in front of a number. -/
def signText (x : Float32) : List Char := if x.toBits < 0x80000000 then [] else ['-']

/-- A number rounded to a fixed number of places. -/
def fixedDecimal (places : Nat) (x : Float32) : String :=
  String.ofList (signText x ++ writePlaces places ((Magnitude.ofFloat x).round places))

/-- The shortest decimal that reads back as the number, with at least one place. -/
def shortestDecimal (x : Float32) : String :=
  let (places, n) := (Magnitude.ofFloat x).shortest
  let digits := if places = 0 then writePlaces 1 (10 * n) else writePlaces places n
  String.ofList (signText x ++ digits)

end Gallery.Text
