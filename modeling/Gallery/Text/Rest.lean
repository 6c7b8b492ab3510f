/-!
# `Gallery.Text.Rest` — what is left of a text after reading

Readers return what they have not read together with the proof that it is no longer than the input,
so that every loop over the remaining input visibly ends.

## Contents
- `Rest s`, at most as long as `s`, and `Shorter s`, shorter than `s`.
- `Rest.all`, `Rest.tail`, `Rest.dropWhile`, and the ways to chain rests: `Rest.trans`,
  `Rest.ofTail`, `Shorter.after`.
-/

namespace Gallery.Text

/-- A text that is no longer than `s`. -/
abbrev Rest (s : List Char) := { r : List Char // r.length ≤ s.length }

/-- A text that is shorter than `s`. -/
abbrev Shorter (s : List Char) := { r : List Char // r.length < s.length }

/-- All of `s` is left. -/
def Rest.all (s : List Char) : Rest s := ⟨s, Nat.le_refl _⟩

/-- All but the first character is left. -/
def Rest.tail {c : Char} (s : List Char) : Rest (c :: s) := ⟨s, Nat.le_succ _⟩

/-- What is left of a rest of the tail of a text is a rest of the text. -/
def Rest.ofTail {c : Char} {s : List Char} (r : Rest s) : Rest (c :: s) :=
  ⟨r.1, Nat.le_succ_of_le r.2⟩

/-- What is left of a rest of `s` is a rest of `s`. -/
def Rest.trans {s : List Char} (r : Rest s) (t : Rest r.1) : Rest s :=
  ⟨t.1, Nat.le_trans t.2 r.2⟩

/-- The characters from the first on that does not satisfy `p`. -/
def Rest.dropWhile (p : Char → Bool) (s : List Char) : Rest s :=
  ⟨s.dropWhile p, (List.dropWhile_sublist p).length_le⟩

/-- What is left of a rest of the tail of a text is shorter than the text. -/
def Shorter.ofTail {c : Char} {s : List Char} (r : Rest s) : Shorter (c :: s) :=
  ⟨r.1, Nat.lt_succ_of_le r.2⟩

/-- What is left of a shorter text is shorter. -/
def Shorter.after {s : List Char} (r : Shorter s) (t : Rest r.1) : Shorter s :=
  ⟨t.1, Nat.lt_of_le_of_lt t.2 r.2⟩

/-- A shorter text is a rest. -/
def Shorter.toRest {s : List Char} (r : Shorter s) : Rest s := ⟨r.1, Nat.le_of_lt r.2⟩

end Gallery.Text
