import Mathlib.Algebra.Ring.Parity
import Mathlib.Data.List.DropRight
import Gallery.Query.Pattern

/-!
# `Gallery.Proofs.Query.Wildcards` — globs read character by character

Two notions say what a glob is without a parser: which texts have an escape that protects nothing,
and which texts a written glob accepts.

## Contents
- `Glob.Dangles`, a text ends in the middle of an escape; `Glob.parse_eq_none_iff`.
- `Glob.Accepts`, how the source of a glob is read against a text; `Glob.accepts_iff_describes`.
- `Glob.describes_iff_eq`, a glob without wildcards describes one text.
- `Pattern.regex_of_make_error`, why a source without a dangling escape does not compile.
-/

namespace Gallery.Query

namespace Glob

/-- The last backslash protects nothing: as all others are used up in pairs, an odd number of
backslashes stands at the end. -/
def Dangles (source : List Char) : Prop := Odd (source.rtakeWhile (· = '\\')).length

/-- `Accepts source text`: the text matches the source of a glob, both read character by
character. -/
inductive Accepts : List Char → List Char → Prop
  | nil : Accepts [] []
  | star {source text : List Char} (run : List Char) (rest : Accepts source text) :
      Accepts ('*' :: source) (run ++ text)
  | question {source text : List Char} (c : Char) (rest : Accepts source text) :
      Accepts ('?' :: source) (c :: text)
  | escaped {source text : List Char} (c : Char) (rest : Accepts source text) :
      Accepts ('\\' :: c :: source) (c :: text)
  | char {source text : List Char} {c : Char} (hstar : c ≠ '*') (hquestion : c ≠ '?')
      (hescape : c ≠ '\\') (rest : Accepts source text) : Accepts (c :: source) (c :: text)

variable {source text s t : List Char} {c : Char} {g : Glob}

/-! ## Dangling escapes -/

instance : DecidablePred Dangles := fun source =>
  inferInstanceAs (Decidable (Odd (source.rtakeWhile (· = '\\')).length))

/-- A front without a dangling escape does not matter. -/
theorem dangles_append_iff (h : ¬Dangles s) (t : List Char) : Dangles (s ++ t) ↔ Dangles t := by
  induction t using List.reverseRecOn with
  | nil =>
    rw [List.append_nil]
    exact iff_of_false h (by decide)
  | append_singleton t c ih =>
    unfold Dangles at ih ⊢
    rw [← List.append_assoc, List.rtakeWhile_concat, List.rtakeWhile_concat]
    split
    · rw [List.length_append, List.length_append, List.length_singleton, Nat.odd_add_one,
        Nat.odd_add_one, ih]
    · exact Iff.rfl

theorem dangles_escaped_iff (c : Char) (s : List Char) :
    Dangles ('\\' :: c :: s) ↔ Dangles s := by
  refine dangles_append_iff (s := ['\\', c]) ?_ s
  by_cases hc : c = '\\'
  · subst hc
    decide
  · simp [Dangles, List.rtakeWhile, hc]

theorem dangles_cons_iff (hc : c ≠ '\\') (s : List Char) : Dangles (c :: s) ↔ Dangles s := by
  refine dangles_append_iff (s := [c]) ?_ s
  simp [Dangles, List.rtakeWhile, hc]

/-- A character that is neither a wildcard nor a backslash stands for itself. -/
theorem parse_cons (hstar : c ≠ '*') (hquestion : c ≠ '?') (hescape : c ≠ '\\') (s : List Char) :
    parse (c :: s) = (parse s).map (.char c :: ·) := by
  rw [parse]
  · exact fun h _ => hescape h
  · exact fun _ _ h _ => hescape h
  · exact hstar
  · exact hquestion

/-- A backslash with something behind it does not reach the last case of the reading. -/
theorem ne_escape (hlone : c = '\\' → s = [] → False)
    (hescape : ∀ (d : Char) (t : List Char), c = '\\' → s = d :: t → False) : c ≠ '\\' := by
  rintro rfl
  cases s with
  | nil => exact hlone rfl rfl
  | cons d t => exact hescape d t rfl rfl

/-- Only a dangling escape keeps a text from being a glob. -/
theorem parse_eq_none_iff : parse source = none ↔ Dangles source := by
  fun_induction parse source with
  | case1 => exact iff_of_false nofun (by decide)
  | case2 => exact iff_of_true rfl (by decide)
  | case3 c rest ih => rw [Option.map_eq_none_iff, ih, dangles_escaped_iff]
  | case4 rest ih => rw [Option.map_eq_none_iff, ih, dangles_cons_iff (by decide)]
  | case5 rest ih => rw [Option.map_eq_none_iff, ih, dangles_cons_iff (by decide)]
  | case6 c rest hlone hescape _ _ ih =>
    rw [Option.map_eq_none_iff, ih, dangles_cons_iff (ne_escape hlone hescape)]

/-! ## Reading a source against a text -/

theorem Accepts.describes (h : Accepts source text) (hg : parse source = some g) :
    Describes g text := by
  induction h generalizing g with
  | nil =>
    obtain rfl := Option.some.inj hg
    exact .nil
  | star run _ ih =>
    obtain ⟨g, hrest, rfl⟩ := Option.map_eq_some_iff.mp hg
    exact .many (ih hrest)
  | question c _ ih =>
    obtain ⟨g, hrest, rfl⟩ := Option.map_eq_some_iff.mp hg
    exact .one (ih hrest)
  | escaped c _ ih =>
    obtain ⟨g, hrest, rfl⟩ := Option.map_eq_some_iff.mp hg
    exact .char (ih hrest)
  | char hstar hquestion hescape _ ih =>
    rw [parse_cons hstar hquestion hescape] at hg
    obtain ⟨g, hrest, rfl⟩ := Option.map_eq_some_iff.mp hg
    exact .char (ih hrest)

theorem Describes.accepts (hg : parse source = some g) (h : Describes g text) :
    Accepts source text := by
  fun_induction parse source generalizing g text with
  | case1 =>
    obtain rfl := Option.some.inj hg
    cases h
    exact .nil
  | case2 => cases hg
  | case3 c rest ih =>
    obtain ⟨g, hrest, rfl⟩ := Option.map_eq_some_iff.mp hg
    cases h with
    | char h => exact .escaped c (ih hrest h)
  | case4 rest ih =>
    obtain ⟨g, hrest, rfl⟩ := Option.map_eq_some_iff.mp hg
    cases h with
    | many h => exact .star _ (ih hrest h)
  | case5 rest ih =>
    obtain ⟨g, hrest, rfl⟩ := Option.map_eq_some_iff.mp hg
    cases h with
    | one h => exact .question _ (ih hrest h)
  | case6 c rest hlone hescape hstar hquestion ih =>
    obtain ⟨g, hrest, rfl⟩ := Option.map_eq_some_iff.mp hg
    cases h with
    | char h => exact .char hstar hquestion (ne_escape hlone hescape) (ih hrest h)

/-- **The parts of a glob describe what its source accepts.** -/
theorem accepts_iff_describes (hg : parse source = some g) :
    Accepts source text ↔ Describes g text :=
  ⟨fun h => h.describes hg, fun h => h.accepts hg⟩

/-! ## Globs without wildcards -/

/-- A glob without wildcards describes one text. -/
theorem describes_iff_eq (h : g.literal? = some s) : Describes g text ↔ text = s := by
  fun_induction literal? g generalizing s text with
  | case1 =>
    obtain rfl := Option.some.inj h
    constructor
    · rintro ⟨⟩
      rfl
    · rintro rfl
      exact .nil
  | case2 c rest ih =>
    obtain ⟨s, hs, rfl⟩ := Option.map_eq_some_iff.mp h
    constructor
    · rintro (_ | h)
      rw [(ih hs).mp h]
    · rintro rfl
      exact .char ((ih hs).mpr rfl)
  | case3 => cases h
  | case4 => cases h

end Glob

/-! ## Sources that do not compile -/

/-- Without an open escape, only an expression can fail to compile. -/
theorem Pattern.regex_of_make_error {kind : PatternKind} {source : String} {ignoreCase : Bool}
    {e : PatternError} (h : Pattern.make kind source ignoreCase = .error e)
    (hsource : ¬Glob.Dangles source.toList) : ∃ e', e = .regex e' := by
  rw [make_eq_error_iff] at h
  cases kind with
  | glob =>
    obtain ⟨g, hg⟩ := Option.ne_none_iff_exists'.mp (mt Glob.parse_eq_none_iff.mp hsource)
    rw [Matcher.compile, hg] at h
    dsimp only at h
    split at h
    · cases h
      exact ⟨_, rfl⟩
    · cases h
  | regex =>
    rw [Matcher.compile] at h
    split at h
    · cases h
      exact ⟨_, rfl⟩
    · cases h

end Gallery.Query
