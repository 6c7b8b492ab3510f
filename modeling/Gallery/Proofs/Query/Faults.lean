import Gallery.Proofs.Query.Parsing
import Gallery.Proofs.Query.Wildcards

/-!
# `Gallery.Proofs.Query.Faults` — why a text is no query

The readers of values and the compiler of globs pair backslashes alike, so what is read as a glob is
one.  That leaves two reasons for which a text is no query: a fault at a place in it, and a value
whose expression does not compile.

## Contents
- `Delimited.not_dangles` and `not_dangles_takeWhile`, the sources of globs.
- `Reported`, the errors of a text; `Reports`, a reader has no others.
- One lemma for each reader, from `reports_metatag` to the mutual `reports_parseAny`.
- `parse_error`, the errors of a whole text.
-/

namespace Gallery.Query

open Gallery.Text

variable {size depth : Nat} {s r source : List Char} {close : Char}

/-! ## Sources -/

/-- What stands in front of a closing delimiter ends with no open escape. -/
theorem Delimited.not_dangles (h : Delimited close source s r) : ¬Glob.Dangles source := by
  induction h with
  | closed r => decide
  | escaped c _ ih => rwa [Glob.dangles_escaped_iff]
  | char _ hescape _ ih => rwa [Glob.dangles_cons_iff hescape]

/-- A value without delimiters has no backslash. -/
theorem not_dangles_takeWhile (s : List Char) : ¬Glob.Dangles (s.takeWhile isValueChar) := by
  induction s with
  | nil => decide
  | cons c s ih =>
    rw [List.takeWhile_cons]
    split
    · rename_i hc
      rw [Glob.dangles_cons_iff]
      · exact ih
      · rintro rfl
        revert hc
        decide
    · decide

/-! ## Errors -/

/-- The errors of a text with `size` characters. -/
inductive Reported (size : Nat) : QueryError → Prop
  | malformed {position : Nat} (fault : SyntaxFault) (h : position ≤ size) :
      Reported size (.malformed ⟨position, fault⟩)
  | regex (e : Regex.Error) : Reported size (.invalidPattern (.regex e))

/-- A reader of a text with `size` characters fails with no other errors. -/
def Reports {α : Type} (size : Nat) (x : Except QueryError α) : Prop :=
  ∀ err, x = .error err → Reported size err

section

variable {α β : Type}

theorem reports_ok (a : α) : Reports size (.ok a : Except QueryError α) := nofun

theorem reports_faultAt (s : List Char) (fault : SyntaxFault) :
    Reports size (faultAt size s fault : Except QueryError α) := by
  rintro err ⟨⟩
  exact .malformed fault (Nat.sub_le _ _)

/-- An error is passed on as it is. -/
theorem Reports.error {x : Except QueryError α} {err : QueryError} (h : Reports size x)
    (hx : x = .error err) : Reports size (.error err : Except QueryError β) := by
  rintro _ ⟨⟩
  exact h err hx

end

/-! ## Words and values -/

/-- Without an open escape, only an expression can fail to compile. -/
theorem reports_metatag (key : Key) (kind : PatternKind) (h : ¬Glob.Dangles source) :
    Reports size (metatag key kind source) := by
  unfold metatag
  rw [← String.toList_ofList (l := source)] at h
  split
  · rename_i hmake
    obtain ⟨e, rfl⟩ := Pattern.regex_of_make_error hmake h
    rintro err ⟨⟩
    exact .regex e
  · exact reports_ok _

theorem reports_metatagWith (key : Key) (kind : PatternKind) (t : Rest s)
    (h : ¬Glob.Dangles source) : Reports size (metatagWith key kind source t) := by
  unfold metatagWith
  split
  · rename_i hmetatag
    exact (reports_metatag key kind h).error hmetatag
  · exact reports_ok _

theorem reports_enclosed {key : Key} {kind : PatternKind} {fault : SyntaxFault} {c : Char}
    (hclose : close ≠ '\\') : Reports size (match delimited close s with
      | none => faultAt size (c :: s) fault
      | some (source, t) => metatagWith key kind source (t.ofTail : Rest (c :: s))) := by
  split
  · exact reports_faultAt _ _
  · rename_i source t ht
    have hsource : Delimited close source s t.1 := (gives_delimited_iff hclose).mp ⟨t.2, ht⟩
    exact reports_metatagWith key kind t.ofTail hsource.not_dangles

theorem reports_value (key : Key) (s : List Char) : Reports size (value size key s) := by
  unfold value
  split
  · exact reports_faultAt _ _
  · rename_i c s
    split
    · exact reports_enclosed (by decide)
    split
    · exact reports_enclosed (by decide)
    split
    · exact reports_metatagWith key .glob _ (not_dangles_takeWhile _)
    · exact reports_faultAt _ _

theorem reports_word (c : Char) (s : List Char) : Reports size (word size c s) := by
  unfold word
  dsimp only
  split
  · split
    · exact reports_faultAt _ _
    · split
      · rename_i hvalue
        exact (reports_value _ _).error hvalue
      · exact reports_ok _
  · exact reports_ok _

/-! ## The grammar -/

mutual

theorem reports_parseAny (size depth : Nat) (s : List Char) :
    Reports size (parseAny size depth s) := by
  rw [parseAny]
  split
  · rename_i h
    exact (reports_parseAll size depth s).error h
  · rename_i e t _
    have ht := t.2
    split
    · rename_i h
      exact (reports_parseAlternatives size depth t.1).error h
    · exact reports_ok _
termination_by 4 * s.length + 3

theorem reports_parseAlternatives (size depth : Nat) (s : List Char) :
    Reports size (parseAlternatives size depth s) := by
  rw [parseAlternatives]
  dsimp only
  split
  · rename_i t ht
    have hnext : (skipSpace t).1.length < s.length := by
      have hs := (skipSpace s).2
      rw [ht, List.length_cons] at hs
      exact Nat.lt_of_le_of_lt (skipSpace t).2 hs
    split
    · exact reports_faultAt _ _
    split
    · rename_i h
      exact (reports_parseAll size depth (skipSpace t).1).error h
    · rename_i e u _
      have hu := u.2
      split
      · rename_i h
        exact (reports_parseAlternatives size depth u.1).error h
      · exact reports_ok _
  · exact reports_ok _
termination_by 4 * s.length + 2

theorem reports_parseAll (size depth : Nat) (s : List Char) :
    Reports size (parseAll size depth s) := by
  rw [parseAll]
  dsimp only
  have hs := (skipSpace s).2
  split
  · exact reports_faultAt _ _
  split
  · rename_i h
    exact (reports_parseUnary size depth (skipSpace s).1).error h
  · rename_i e t _
    have ht := t.2
    split
    · rename_i h
      exact (reports_parseFactors size depth t.1).error h
    · exact reports_ok _
termination_by 4 * s.length + 2

theorem reports_parseFactors (size depth : Nat) (s : List Char) :
    Reports size (parseFactors size depth s) := by
  rw [parseFactors]
  dsimp only
  have hs := (skipSpace s).2
  split
  · exact reports_ok _
  split
  · rename_i h
    exact (reports_parseUnary size depth (skipSpace s).1).error h
  · rename_i e t _
    have ht := t.2
    split
    · rename_i h
      exact (reports_parseFactors size depth t.1).error h
    · exact reports_ok _
termination_by 4 * s.length + 2

theorem reports_parseUnary (size depth : Nat) (s : List Char) :
    Reports size (parseUnary size depth s) := by
  cases s with
  | nil =>
    rw [parseUnary]
    exact reports_faultAt _ _
  | cons c t =>
    rw [parseUnary]
    split
    · split
      · exact reports_faultAt _ _
      split
      · exact reports_faultAt _ _
      split
      · rename_i h
        exact (reports_parseUnary size (depth + 1) t).error h
      · exact reports_ok _
    split
    · split
      · rename_i h
        exact (reports_parseGroup size depth t).error h
      · exact reports_ok _
    split
    · exact reports_word c t
    · exact reports_faultAt _ _
termination_by 4 * s.length + 1

theorem reports_parseGroup (size depth : Nat) (s : List Char) :
    Reports size (parseGroup size depth s) := by
  rw [parseGroup]
  have hs := (skipSpace s).2
  split
  · exact reports_faultAt _ _
  split
  · exact reports_faultAt _ _
  split
  · exact reports_faultAt _ _
  split
  · rename_i h
    exact (reports_parseAny size (depth + 1) (skipSpace s).1).error h
  · split
    · exact reports_ok _
    · exact reports_faultAt _ _
termination_by 4 * s.length + 4

end

/-- **A text is no query** because of a fault at a place in it, or because the expression of a value in
it does not compile. -/
theorem parse_error {text : String} {err : QueryError} (h : parse text = .error err) :
    Reported text.toList.length err := by
  revert err
  show Reports text.toList.length (parse text)
  unfold parse
  dsimp only
  split
  · exact reports_faultAt _ _
  split
  · rename_i h
    exact (reports_parseAny _ _ _).error h
  · split
    · exact reports_ok _
    · exact reports_faultAt _ _
    · exact reports_faultAt _ _

end Gallery.Query
