import Gallery.Proofs.Query.GlobExpression
import Gallery.Proofs.Query.Wildcards
import Gallery.Proofs.Regex.Matching
import Gallery.Proofs.Regex.Program

/-!
# `Gallery.Proofs.Query.GlobMatching` — globs match what they describe

A glob is matched in two ways, by a comparison if it has no wildcard and by a regular expression
otherwise.  Both accept the texts that the source describes character by character.

## Contents
- `spans_seqs_cons` and `spans_char_cons_iff`, and how the expression of each part spans;
  `spans_items_iff`, all parts up to the end of the text.
- `isMatch_toRegex_iff_spans`, the anchors; `isMatch_toRegex_iff`, the whole expression;
  `isMatch_ofGlob_iff`, both ways.
- `Pattern.exists_glob`, compiled sources.
-/

namespace Gallery

open Gallery.Regex Gallery.Query

variable {text t : List Char} {g : Glob} {c x : Char} {i j k : Nat}

/-! ## Parts of texts -/

theorem drop_eq_cons_iff : text.drop i = x :: t ↔ text[i]? = some x ∧ text.drop (i + 1) = t := by
  constructor
  · intro h
    refine ⟨?_, ?_⟩
    · rw [← List.head?_drop, h]
      rfl
    · rw [← List.tail_drop, h]
      rfl
  · rintro ⟨hx, rfl⟩
    obtain ⟨hi, rfl⟩ := List.getElem?_eq_some_iff.mp hx
    exact List.drop_eq_getElem_cons hi

namespace Query.Glob

theorem describes_nil_iff : Describes [] t ↔ t = [] := by
  constructor
  · rintro ⟨⟩
    rfl
  · rintro rfl
    exact .nil

theorem describes_char_iff :
    Describes (.char c :: g) t ↔ ∃ s, t = c :: s ∧ Describes g s := by
  constructor
  · rintro (_ | rest)
    exact ⟨_, rfl, rest⟩
  · rintro ⟨s, rfl, rest⟩
    exact .char rest

theorem describes_one_iff : Describes (.one :: g) t ↔ ∃ x s, t = x :: s ∧ Describes g s := by
  constructor
  · rintro (_ | _ | rest)
    exact ⟨_, _, rfl, rest⟩
  · rintro ⟨x, s, rfl, rest⟩
    exact .one rest

/-- A star describes the text up to any place that is not behind the end. -/
theorem describes_many_drop_iff (hi : i ≤ text.length) :
    Describes (.many :: g) (text.drop i)
      ↔ ∃ k, i ≤ k ∧ k ≤ text.length ∧ Describes g (text.drop k) := by
  constructor
  · generalize hrest : text.drop i = s
    rintro (_ | _ | _ | @⟨run, _, s, rest⟩)
    have hlength := congrArg List.length hrest
    rw [List.length_drop, List.length_append] at hlength
    refine ⟨i + run.length, Nat.le_add_right _ _, by omega, ?_⟩
    rw [← List.drop_drop, hrest, List.drop_left]
    exact rest
  · rintro ⟨k, hik, hk, h⟩
    obtain ⟨n, rfl⟩ := Nat.exists_eq_add_of_le hik
    rw [← List.drop_drop] at h
    rw [← List.take_append_drop n (text.drop i)]
    exact .many h

end Query.Glob

namespace Regex

/-! ## The expression of a glob -/

open Glob

theorem spans_seqs_cons (r : Regex) (rs : List Regex) :
    Spans text (seqs (r :: rs)) i j ↔ ∃ k, Spans text r i k ∧ Spans text (seqs rs) k j := by
  cases rs with
  | nil => exact ⟨fun h => ⟨j, h, rfl⟩, fun ⟨k, h, hk⟩ => hk ▸ h⟩
  | cons s rs => exact Iff.rfl

/-- A class in front takes one character. -/
theorem spans_char_cons_iff {a : CharClass} {rs : List Regex} :
    Spans text (seqs (.char a :: rs)) i j
      ↔ ∃ x, text[i]? = some x ∧ a.contains x = true ∧ Spans text (seqs rs) (i + 1) j := by
  rw [spans_seqs_cons]
  constructor
  · rintro ⟨_, ⟨rfl, x, hx, ha⟩, hrest⟩
    exact ⟨x, hx, ha, hrest⟩
  · rintro ⟨x, hx, ha, hrest⟩
    exact ⟨i + 1, ⟨rfl, x, hx, ha⟩, hrest⟩

/-- Any characters lead to any place that is not behind the end. -/
theorem iterates_any_iff (hi : i ≤ text.length) :
    (∃ n, Iterates (Spans text (.char .any)) n i k) ↔ i ≤ k ∧ k ≤ text.length := by
  constructor
  · rintro ⟨n, h⟩
    exact (forward_spans text (.char .any)).iterates n i k hi h
  · rintro ⟨hik, hk⟩
    obtain ⟨n, rfl⟩ := Nat.exists_eq_add_of_le hik
    refine ⟨n, ?_⟩
    clear hik
    induction n generalizing i with
    | zero => exact .zero i
    | succ n ih =>
      have hlt : i < text.length := by omega
      have hstep : Spans text (.char .any) i (i + 1) := ⟨rfl, _, List.getElem?_eq_getElem hlt, rfl⟩
      have hrest := ih (i := i + 1) hlt (by omega)
      rw [Nat.add_assoc, Nat.add_comm 1] at hrest
      exact .succ hstep hrest

theorem spans_many_iff (hi : i ≤ text.length) :
    Spans text (itemRegex false .many) i k ↔ i ≤ k ∧ k ≤ text.length := by
  rw [← iterates_any_iff hi]
  exact exists_congr fun n => ⟨fun h => h.2.2, fun h => ⟨Nat.zero_le n, nofun, h⟩⟩

/-- The parts of a glob span the rest of a text as the glob describes it. -/
theorem spans_items_iff (hi : i ≤ text.length) :
    Spans text (seqs (g.map (itemRegex false))) i text.length ↔ Describes g (text.drop i) := by
  induction g generalizing i with
  | nil =>
    rw [describes_nil_iff, List.drop_eq_nil_iff]
    exact ⟨fun h => Nat.le_of_eq h.symm, fun h => Nat.le_antisymm hi h⟩
  | cons x g ih =>
    have hlt : ∀ {y}, text[i]? = some y → i + 1 ≤ text.length := fun hy =>
      (List.getElem?_eq_some_iff.mp hy).1
    rw [List.map_cons]
    cases x with
    | char c =>
      simp only [describes_char_iff, drop_eq_cons_iff]
      constructor
      · intro h
        obtain ⟨y, hy, hc, hrest⟩ := spans_char_cons_iff.mp h
        obtain rfl := CharClass.contains_single_iff.mp hc
        exact ⟨_, ⟨hy, rfl⟩, (ih (hlt hy)).mp hrest⟩
      · rintro ⟨_, ⟨hy, rfl⟩, h⟩
        exact spans_char_cons_iff.mpr ⟨c, hy, CharClass.contains_single_iff.mpr rfl, (ih (hlt hy)).mpr h⟩
    | one =>
      simp only [describes_one_iff, drop_eq_cons_iff]
      constructor
      · intro h
        obtain ⟨y, hy, -, hrest⟩ := spans_char_cons_iff.mp h
        exact ⟨y, _, ⟨hy, rfl⟩, (ih (hlt hy)).mp hrest⟩
      · rintro ⟨y, _, ⟨hy, rfl⟩, h⟩
        exact spans_char_cons_iff.mpr ⟨y, hy, rfl, (ih (hlt hy)).mpr h⟩
    | many =>
      simp only [spans_seqs_cons, describes_many_drop_iff hi, spans_many_iff hi]
      constructor
      · rintro ⟨k, ⟨hik, hk⟩, hrest⟩
        exact ⟨k, hik, hk, (ih hk).mp hrest⟩
      · rintro ⟨k, hik, hk, h⟩
        exact ⟨k, ⟨hik, hk⟩, (ih hk).mpr h⟩

theorem bounded_toRegex (ignoreCase : Bool) (g : Glob) : (g.toRegex ignoreCase).Bounded := by
  have hitem : ∀ x, (itemRegex ignoreCase x).Bounded := by
    rintro (_ | _ | _)
    · trivial
    · trivial
    · exact ⟨trivial, nofun⟩
  have hitems : (seqs (g.map (itemRegex ignoreCase))).Bounded := by
    induction g with
    | nil => trivial
    | cons x g ih =>
      cases g with
      | nil => exact hitem x
      | cons y g => exact ⟨hitem x, ih⟩
  exact ⟨trivial, hitems, trivial⟩

/-- A match of the anchored expression is the whole text. -/
theorem isMatch_toRegex_iff_spans (ignoreCase : Bool) : (g.toRegex ignoreCase).isMatch text = true
    ↔ Spans text (seqs (g.map (itemRegex ignoreCase))) 0 text.length := by
  rw [isMatch_iff (bounded_toRegex ignoreCase g)]
  constructor
  · -- The search may start anywhere, but the anchors hold at the ends of the text only.
    rintro ⟨i, j, hi, _, ⟨rfl, hstart⟩, l, hitems, rfl, hend⟩
    have hi0 : i = 0 := by
      by_contra hne
      simp only [Anchor.holds, before?, if_neg hne, Option.isNone_iff_eq_none,
        List.getElem?_eq_none_iff] at hstart
      omega
    obtain ⟨-, hl⟩ := forward_spans text _ i l hi hitems
    have hlast : l = text.length := by
      rw [Anchor.holds, Option.isNone_iff_eq_none, List.getElem?_eq_none_iff] at hend
      exact Nat.le_antisymm hl hend
    rwa [hi0, hlast] at hitems
  · intro h
    refine ⟨0, text.length, Nat.zero_le _, 0, ⟨rfl, rfl⟩, text.length, h, rfl, ?_⟩
    rw [List.getElem?_eq_none (Nat.le_refl _)]
    rfl

theorem isMatch_toRegex_iff : (g.toRegex false).isMatch text = true ↔ Describes g text :=
  (isMatch_toRegex_iff_spans false).trans (spans_items_iff (Nat.zero_le _))

end Regex

/-! ## Compiled globs -/

namespace Query

open Glob

/-- Both ways to match a glob accept what it describes. -/
theorem isMatch_ofGlob_iff (g : Glob) (text : String) :
    (Matcher.ofGlob false g (g.toRegex false)).isMatch text = true ↔ Describes g text.toList := by
  rw [Matcher.ofGlob]
  cases hg : g.literal? with
  | none => exact Regex.isMatch_toRegex_iff
  | some s =>
    show (text == String.ofList s) = true ↔ _
    rw [beq_iff_eq, ← String.toList_inj, String.toList_ofList, describes_iff_eq hg]

/-- A glob that does not compare texts searches for its expression. -/
theorem ofGlob_of_not_literal {p : Pattern} (hp : p.matcher = .ofGlob false g (g.toRegex false))
    (h : p.isLiteral = false) : p.matcher = .search (g.toRegex false) := by
  rw [Pattern.isLiteral, hp, Matcher.ofGlob] at h
  rw [hp, Matcher.ofGlob]
  cases hg : g.literal? with
  | none => rfl
  | some s =>
    rw [hg] at h
    cases h

/-- **Globs match the texts that their sources accept.**  A source without a dangling escape
compiles unless its expression is beyond the size limit; its pattern, and the expression that is
written for it, match exactly the texts that the source accepts character by character, and where the
pattern does not compare texts it searches for that expression. -/
theorem Pattern.exists_glob (source : String) (h : ¬Dangles source.toList) :
    ∃ g r, Glob.parse source.toList = some g
      ∧ Regex.parse false g.expression = .ok r
      ∧ (¬r.Fits → Pattern.make .glob source false = .error (.regex .tooLarge))
      ∧ (r.Fits → ∃ p, Pattern.make .glob source false = .ok p
          ∧ (p.isLiteral = false → p.matcher = .search r)
          ∧ ∀ text : String, p.isMatch text = true ↔ Accepts source.toList text.toList)
      ∧ ∀ text : List Char, r.isMatch text = true ↔ Accepts source.toList text := by
  obtain ⟨g, hg⟩ := Option.ne_none_iff_exists'.mp (mt parse_eq_none_iff.mp h)
  refine ⟨g, g.toRegex false, hg, parse_expression false g, make_tooLarge hg, fun hfits => ?_,
    fun text => ?_⟩
  · obtain ⟨p, hp, hmatcher⟩ := Pattern.exists_make hg hfits
    refine ⟨p, hp, ofGlob_of_not_literal hmatcher, fun text => ?_⟩
    rw [Pattern.isMatch, hmatcher, isMatch_ofGlob_iff, accepts_iff_describes hg]
  · rw [Regex.isMatch_toRegex_iff, accepts_iff_describes hg]

/-- Wildcards, an escaped star and a character with a meaning in expressions, matched across a line
break. -/
theorem Pattern.exists_glob_wildcards :
    ∃ p, Pattern.make .glob "?*.\\*" false = .ok p ∧ p.isMatch "a\nb.*" = true
      ∧ ¬Dangles "?*.\\*".toList := by
  have h : ¬Dangles "?*.\\*".toList := by decide +kernel
  have hg : Glob.parse "?*.\\*".toList = some [.one, .many, .char '.', .char '*'] := by
    decide +kernel
  have hfits : (toRegex false [.one, .many, .char '.', .char '*']).Fits := by decide +kernel
  obtain ⟨g, r, hparse, hr, -, hmake, -⟩ := Pattern.exists_glob "?*.\\*" h
  obtain rfl := Option.some.inj (hparse.symm.trans hg)
  obtain rfl := Except.ok.inj (hr.symm.trans (parse_expression false _))
  obtain ⟨p, hp, -, hmatch⟩ := hmake hfits
  refine ⟨p, hp, (hmatch "a\nb.*").mpr ?_, h⟩
  show Accepts ['?', '*', '.', '\\', '*'] ('a' :: (['\n', 'b'] ++ ['.', '*']))
  exact .question 'a' (.star _ (.char (by decide) (by decide) (by decide) (.escaped '*' .nil)))

end Query

end Gallery
