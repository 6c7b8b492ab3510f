import Gallery.Proofs.Query.GlobMatching
import Gallery.Proofs.Query.Quoting
import Gallery.Proofs.Text.Case

/-!
# `Gallery.Proofs.Query.Literals` — globs without wildcards, without regard to case

A glob that ignores case and has no wildcard is compiled twice: it compares the lowercase form of
texts, and an expression is written for it, whose characters stand for their classes.  The two agree
where the lowercase form of a character is that of its folding.  They part on the dotted capital I,
whose form has two characters, on sigma, whose form depends on its place, and on the few characters
such as the long s that are lowercase themselves and fold to another character.

## Contents
- `contains_charClass_iff`, one character; `isMatch_search_iff`, the expression of a literal.
- `Literal`, a source with what it is compiled to; `Literal.isMatch_iff`, the comparison.
- `Parts`, a character on which the two differ; `literals_agree`, where they agree.
- `not_isMatch_literal_eq`, a Greek word on which they differ.
-/

namespace Gallery

open Gallery.Regex Gallery.Query Gallery.Text

variable {s text : List Char} {c x : Char} {i : Nat}

namespace Regex

open Glob

/-- A character of a glob that ignores case stands for the characters with its folding. -/
theorem contains_charClass_iff :
    (charClass true c).contains x = true ↔ foldChar x = foldChar c := by
  simp only [charClass, if_true, CharClass.contains, List.any_eq_true, CharClass.contains_single_iff,
    exists_eq_right, mem_caseClass_iff]
  exact eq_comm

/-- The characters of a literal span texts with its folding. -/
theorem spans_chars_iff (hi : i ≤ text.length) :
    Spans text (seqs ((s.map GlobItem.char).map (itemRegex true))) i text.length
      ↔ (text.drop i).map foldChar = s.map foldChar := by
  induction s generalizing i with
  | nil =>
    rw [List.map_nil (f := foldChar), List.map_eq_nil_iff, List.drop_eq_nil_iff]
    exact ⟨fun h => Nat.le_of_eq h.symm, fun h => Nat.le_antisymm hi h⟩
  | cons c s ih =>
    rw [List.map_cons, List.map_cons, List.map_cons]
    constructor
    · intro h
      obtain ⟨x, hx, hc, hrest⟩ := spans_char_cons_iff.1 h
      have hlt : i + 1 ≤ text.length := (List.getElem?_eq_some_iff.1 hx).1
      rw [drop_eq_cons_iff.2 ⟨hx, rfl⟩, List.map_cons, contains_charClass_iff.1 hc,
        (ih hlt).1 hrest]
    · intro h
      obtain ⟨x, rest, hdrop, hc, hrest⟩ := List.map_eq_cons_iff.1 h
      obtain ⟨hx, rfl⟩ := drop_eq_cons_iff.1 hdrop
      have hlt : i + 1 ≤ text.length := (List.getElem?_eq_some_iff.1 hx).1
      exact spans_char_cons_iff.2 ⟨x, hx, contains_charClass_iff.2 hc, (ih hlt).2 hrest⟩

theorem isMatch_search_iff :
    (Glob.toRegex true (s.map .char)).isMatch text = true ↔ text.map foldChar = s.map foldChar :=
  (isMatch_toRegex_iff_spans true).trans (spans_chars_iff (Nat.zero_le _))

end Regex

namespace Query

/-- A glob without wildcards is a list of characters. -/
theorem Glob.exists_map_char {g : Glob} (hone : .one ∉ g) (hmany : .many ∉ g) :
    ∃ s : List Char, g = s.map .char := by
  induction g with
  | nil => exact ⟨[], rfl⟩
  | cons x g ih =>
    obtain ⟨s, rfl⟩ := ih (mt (List.mem_cons_of_mem x) hone) (mt (List.mem_cons_of_mem x) hmany)
    cases x with
    | char c => exact ⟨c :: s, rfl⟩
    | one => exact absurd List.mem_cons_self hone
    | many => exact absurd List.mem_cons_self hmany

/-- What a source without wildcards is compiled to without regard to case, if `s` is the text that
it stands for: a pattern, and the expression that is written for it. -/
structure Literal (source : String) (s : List Char) (p : Pattern) (r : Regex) : Prop where
  parsed : Glob.parse source.toList = some (s.map .char)
  made : Pattern.make .glob source true = .ok p
  compiled : Regex.parse true (Glob.expression (s.map .char)) = .ok r

namespace Literal

variable {source t : String} {p : Pattern} {r : Regex}

theorem exists_of_made (h : Glob.parse source.toList = some (s.map .char))
    (hp : Pattern.make .glob source true = .ok p) : ∃ r, Literal source s p r :=
  ⟨_, h, hp, Glob.parse_expression true _⟩

/-- Every short text is that of a source. -/
theorem exists_of_length_le (h : Glob.parse source.toList = some (s.map .char))
    (hs : s.length ≤ 8) : ∃ p r, Literal source s p r := by
  obtain ⟨p, hp, -⟩ := Pattern.exists_make h (fits_of_length_le true hs)
  exact ⟨p, exists_of_made h hp⟩

theorem matcher_eq (h : Literal source s p r) :
    p.matcher = .lowered (lowercase (String.ofList s)) := by
  rw [Pattern.matcher_of_make h.parsed h.made, Matcher.ofGlob, Glob.literal?_map_char]
  rfl

theorem isLiteral (h : Literal source s p r) : p.isLiteral = true := by
  rw [Pattern.isLiteral, h.matcher_eq]

/-- The pattern compares lowercase forms. -/
theorem isMatch_iff (h : Literal source s p r) :
    p.isMatch t = true ↔ lowerFrom [] t.toList = lowerFrom [] s := by
  rw [Pattern.isMatch, h.matcher_eq]
  show (lowercase t == lowercase (String.ofList s)) = true ↔ _
  rw [beq_iff_eq, lowercase, lowercase, String.ofList_inj, String.toList_ofList]

/-- The expression compares foldings. -/
theorem isMatch_search_iff (h : Literal source s p r) :
    r.isMatch text = true ↔ text.map foldChar = s.map foldChar := by
  obtain rfl := Except.ok.inj (h.compiled.symm.trans (Glob.parse_expression true _))
  exact Regex.isMatch_search_iff

/-- Texts with one lowercase form have one folding. -/
theorem search_of_isMatch (h : Literal source s p r) (hs : 'İ' ∉ s) (ht : 'İ' ∉ t.toList)
    (hmatch : p.isMatch t = true) : r.isMatch t.toList = true := by
  rw [h.isMatch_search_iff, ← map_foldChar_lowerFrom ht [], ← map_foldChar_lowerFrom hs [],
    h.isMatch_iff.1 hmatch]

/-- Texts of steady characters with one folding have one lowercase form. -/
theorem isMatch_of_search (h : Literal source s p r) (hs : ∀ c ∈ s, Steady c)
    (ht : ∀ c ∈ t.toList, Steady c) (hmatch : r.isMatch t.toList = true) : p.isMatch t = true := by
  rw [h.isMatch_iff, lowerFrom_of_steady hs, lowerFrom_of_steady ht, h.isMatch_search_iff.1 hmatch]

theorem isMatch_eq (h : Literal source s p r) (hs : ∀ c ∈ s, Steady c)
    (ht : ∀ c ∈ t.toList, Steady c) : p.isMatch t = r.isMatch t.toList := by
  rw [Bool.eq_iff_iff]
  exact ⟨h.search_of_isMatch (fun hi => (hs _ hi).2.1 rfl) fun hi => (ht _ hi).2.1 rfl,
    h.isMatch_of_search hs ht⟩

theorem isMatch_ne (h : Literal source s p r)
    (hne : ¬(lowerFrom [] t.toList = lowerFrom [] s ↔ t.toList.map foldChar = s.map foldChar)) :
    p.isMatch t ≠ r.isMatch t.toList := by
  intro heq
  rw [← h.isMatch_iff, ← h.isMatch_search_iff, heq] at hne
  exact hne Iff.rfl

end Literal

/-! ## Where the two agree -/

/-- With none but steady characters beside it, the character is enough for a source and a text on
which the comparison and the expression differ. -/
def Parts (c : Char) : Prop := ∃ source s p r, ∃ t : String, Literal source s p r
  ∧ (∀ d ∈ s ++ t.toList, d = c ∨ Steady d) ∧ p.isMatch t ≠ r.isMatch t.toList

theorem parts_of_texts (s : List Char) (t : String) (hs : s.length ≤ 8)
    (hsteady : ((s ++ t.toList).all fun d => decide (d = c ∨ Steady d)) = true)
    (hne : ¬(lowerFrom [] t.toList = lowerFrom [] s ↔ t.toList.map foldChar = s.map foldChar)) :
    Parts c := by
  have hparsed : Glob.parse (String.ofList (quoted s)).toList = some (s.map .char) := by
    rw [String.toList_ofList, Glob.parse_quoted]
  obtain ⟨p, r, h⟩ := Literal.exists_of_length_le hparsed hs
  exact ⟨_, s, p, r, t, h, fun d hd => of_decide_eq_true (List.all_eq_true.1 hsteady d hd),
    h.isMatch_ne hne⟩

/-- **Steady characters are those on which the two agree.** -/
theorem parts_iff : Parts c ↔ ¬Steady c := by
  constructor
  · rintro ⟨source, s, p, r, t, h, hsteady, hne⟩ hc
    have hall : ∀ d ∈ s ++ t.toList, Steady d := fun d hd =>
      (hsteady d hd).elim (fun heq => heq ▸ hc) id
    rw [List.forall_mem_append] at hall
    exact hne (h.isMatch_eq hall.1 hall.2)
  intro hc
  by_cases hdotted : c = 'İ'
  · -- The two characters of the form have a folding of two characters.
    subst hdotted
    exact parts_of_texts ['i', '\u0307'] "İ" (by decide) (by decide +kernel) (by decide +kernel)
  by_cases hsigma : c = 'Σ'
  · -- At the end of a word the form is the final sigma.
    subst hsigma
    exact parts_of_texts ['α', 'σ'] "ΑΣ" (by decide) (by decide +kernel) (by decide +kernel)
  -- Any other character has a form other than that of its own folding.
  have hfold : Steady (foldChar c) := steady_foldChar hdotted
  have hlower : lowerChar c ≠ lowerChar (foldChar c) := fun h => hc ⟨h, hdotted, hsigma⟩
  refine parts_of_texts [foldChar c] (String.ofList [c]) (by decide : 1 ≤ 8) ?_ ?_
  · simp [hfold]
  · rw [String.toList_ofList, List.map_singleton, List.map_singleton, foldChar_foldChar,
      lowerFrom_singleton hsigma, lowerFrom_singleton hfold.2.2]
    exact fun h => hlower (h.2 rfl)

/-- **Where the comparison agrees with the expression.**  A source without wildcards that compiles is
compiled to a pattern that compares lowercase forms and to an expression that compares foldings.
What the pattern accepts without a dotted capital I, the expression accepts too; on steady
characters, all of ASCII among them, the two answer alike, and any other character parts them. -/
theorem literals_agree {source : String} {g : Glob} {p : Pattern}
    (hp : Pattern.make .glob source true = .ok p) (hg : Glob.parse source.toList = some g)
    (hone : .one ∉ g) (hmany : .many ∉ g) :
    (∃ s r, Literal source s p r ∧ p.isLiteral = true ∧ ∀ t : String,
      (p.isMatch t = true ↔ lowercase t = lowercase (String.ofList s)) ∧
      (r.isMatch t.toList = true ↔ t.toList.map foldChar = s.map foldChar) ∧
      ('İ' ∉ s ++ t.toList → p.isMatch t = true → r.isMatch t.toList = true) ∧
      ((∀ c ∈ s ++ t.toList, Steady c) → p.isMatch t = r.isMatch t.toList)) ∧
    (∀ c : Char, c.toNat < 128 → Steady c) ∧
    (∀ c : Char, Parts c ↔ ¬Steady c) := by
  refine ⟨?_, fun c => steady_of_ascii, fun c => parts_iff⟩
  obtain ⟨s, rfl⟩ := Glob.exists_map_char hone hmany
  obtain ⟨r, h⟩ := Literal.exists_of_made hg hp
  refine ⟨s, r, h, h.isLiteral, fun t => ⟨?_, h.isMatch_search_iff, ?_, ?_⟩⟩
  · rw [h.isMatch_iff, lowercase, lowercase, String.ofList_inj, String.toList_ofList]
  · intro hdotted
    rw [List.mem_append, not_or] at hdotted
    exact h.search_of_isMatch hdotted.1 hdotted.2
  · intro hsteady
    rw [List.forall_mem_append] at hsteady
    exact h.isMatch_eq hsteady.1 hsteady.2

/-- A value and an extension that differ in case only. -/
theorem literals_agree_jpg :
    Glob.parse "jpg".toList = some ("jpg".toList.map .char) ∧
    ∃ p r, Literal "jpg" "jpg".toList p r
      ∧ p.isMatch "Jpg" = true ∧ r.isMatch "Jpg".toList = true := by
  have hparsed : Glob.parse "jpg".toList = some ("jpg".toList.map .char) := by decide +kernel
  have hfits : (Glob.toRegex true ("jpg".toList.map .char)).Fits := fits_of_length_le true (by decide)
  obtain ⟨p, hp, -⟩ := Pattern.exists_make hparsed hfits
  obtain ⟨⟨s, r, h, -, hmatch⟩, hascii, -⟩ :=
    literals_agree hp hparsed (by decide +kernel) (by decide +kernel)
  have hs : "jpg".toList = s := by
    have hmap := Option.some.inj (hparsed.symm.trans h.parsed)
    exact (List.map_injective_iff.2 fun _ _ => GlobItem.char.inj) hmap
  subst hs
  have hall : (("jpg".toList ++ "Jpg".toList).all (·.toNat < 128)) = true := by decide +kernel
  have hsteady : ∀ c ∈ "jpg".toList ++ "Jpg".toList, Steady c := fun c hc =>
    hascii c (of_decide_eq_true (List.all_eq_true.1 hall c hc))
  obtain ⟨hlower, -, -, heq⟩ := hmatch "Jpg"
  have htrue : p.isMatch "Jpg" = true := hlower.2 (by decide +kernel)
  exact ⟨hparsed, p, r, h, htrue, (heq hsteady) ▸ htrue⟩

/-- They do not agree on all texts: the only lowercase form of a Greek word in capitals has a final
sigma, while its folding has none. -/
theorem not_isMatch_literal_eq :
    ¬∀ (source : String) (s : List Char) (p : Pattern) (r : Regex) (t : String),
      Literal source s p r → p.isMatch t = r.isMatch t.toList := by
  intro h
  have hparsed : Glob.parse "ΑΣ".toList = some (['Α', 'Σ'].map .char) := by decide +kernel
  obtain ⟨p, r, hliteral⟩ := Literal.exists_of_length_le hparsed (by decide)
  have hne : ¬(lowerFrom [] "ασ".toList = lowerFrom [] ['Α', 'Σ'] ↔
      "ασ".toList.map foldChar = ['Α', 'Σ'].map foldChar) := by decide +kernel
  exact hliteral.isMatch_ne hne (h _ _ p r "ασ" hliteral)

end Query

end Gallery
