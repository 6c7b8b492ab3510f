import Gallery.Proofs.Text.Case
import Gallery.Regex.Ranges

/-!
# `Gallery.Proofs.Regex.Ranges` — the ranges of a class hold its characters

The operations on lists of ranges keep the ranges apart and in order, and on such lists they are the
operations on sets.  So the ranges of a class hold exactly the code points of its characters.

## Contents
- `Covers`, a code point is in a list of ranges; `OrderedFrom`, a list in order.
- `OrderedFrom.insertRange` with `covers_insertRange_iff`, and `OrderedFrom.gapsFrom` with
  `covers_gapsFrom_iff`.
- `CharClass.ordered_ranges` and `CharClass.covers_ranges_iff`, the ranges of a class.
-/

namespace Gallery.Regex

open Gallery.Text

variable {r : CodeRange} {rs list : List CodeRange} {m n : Nat} {c x : Char}

/-- The code point lies in one of the ranges. -/
def Covers (list : List CodeRange) (n : Nat) : Prop := ∃ r ∈ list, r.first ≤ n ∧ n ≤ r.last

/-- The ranges begin at `n` or behind, follow each other and do not touch. -/
def OrderedFrom (n : Nat) : List CodeRange → Prop
  | [] => True
  | r :: rest => n ≤ r.first ∧ r.first ≤ r.last ∧ OrderedFrom (r.last + 2) rest

theorem ordered_nil : OrderedFrom n [] := trivial

theorem not_covers_nil : ¬Covers [] n := by
  rintro ⟨r, hr, -⟩
  exact List.not_mem_nil hr

theorem covers_cons_iff :
    Covers (r :: list) n ↔ (r.first ≤ n ∧ n ≤ r.last) ∨ Covers list n := by
  simp only [Covers, List.mem_cons, or_and_right, exists_or, exists_eq_left]

theorem OrderedFrom.mono (h : OrderedFrom n list) (hm : m ≤ n) : OrderedFrom m list := by
  cases list with
  | nil => trivial
  | cons r list => exact ⟨hm.trans h.1, h.2⟩

/-- The ranges of a list in order are none of them empty. -/
theorem OrderedFrom.le (h : OrderedFrom n list) (hr : r ∈ list) : r.first ≤ r.last := by
  induction list generalizing n with
  | nil => exact absurd hr List.not_mem_nil
  | cons s rest ih =>
    obtain rfl | hr := List.mem_cons.1 hr
    · exact h.2.1
    · exact ih h.2.2 hr

theorem OrderedFrom.le_of_covers (h : OrderedFrom n list) (hm : Covers list m) : n ≤ m := by
  induction list generalizing n with
  | nil => exact absurd hm not_covers_nil
  | cons r rest ih =>
    obtain ⟨hn, hr, hrest⟩ := h
    obtain hm | hm := covers_cons_iff.1 hm
    · exact hn.trans hm.1
    · have hbehind := ih hrest hm
      omega

/-! ## Insertion -/

theorem OrderedFrom.insertRange (h : OrderedFrom n list) (hr : r.first ≤ r.last)
    (hn : n ≤ r.first) : OrderedFrom n (insertRange r list) := by
  induction list generalizing n r with
  | nil => exact ⟨hn, hr, trivial⟩
  | cons s rest ih =>
    obtain ⟨hfirst, hs, hrest⟩ := h
    rw [Regex.insertRange]
    split
    · rename_i hbefore
      exact ⟨hn, hr, by omega, hs, hrest⟩
    split
    · rename_i hbehind
      exact ⟨hfirst, hs, ih hrest hr (by omega)⟩
    · exact ih (hrest.mono (by omega)) (by dsimp only; omega) (by dsimp only; omega)

theorem covers_insertRange_iff (h : OrderedFrom m list) (hr : r.first ≤ r.last) :
    Covers (insertRange r list) n ↔ (r.first ≤ n ∧ n ≤ r.last) ∨ Covers list n := by
  induction list generalizing m r with
  | nil => rw [insertRange, covers_cons_iff]
  | cons s rest ih =>
    obtain ⟨-, hs, hrest⟩ := h
    rw [insertRange]
    split
    · exact covers_cons_iff
    split
    · rw [covers_cons_iff, ih hrest hr, covers_cons_iff]
      exact or_left_comm
    · -- The two ranges touch, so the range around both holds nothing else.
      rw [ih hrest (by dsimp only; omega), covers_cons_iff, ← or_assoc]
      refine or_congr_left ?_
      dsimp only
      omega

theorem OrderedFrom.insertRanges (h : OrderedFrom n list)
    (hrs : ∀ r ∈ rs, n ≤ r.first ∧ r.first ≤ r.last) : OrderedFrom n (insertRanges rs list) := by
  induction rs with
  | nil => exact h
  | cons r rs ih =>
    obtain ⟨⟨hn, hr⟩, hrs⟩ := List.forall_mem_cons.1 hrs
    exact (ih hrs).insertRange hr hn

theorem covers_insertRanges_iff (h : OrderedFrom 0 list) (hrs : ∀ r ∈ rs, r.first ≤ r.last) :
    Covers (insertRanges rs list) n ↔ Covers rs n ∨ Covers list n := by
  induction rs with
  | nil => exact (or_iff_right not_covers_nil).symm
  | cons r rs ih =>
    obtain ⟨hr, hrs⟩ := List.forall_mem_cons.1 hrs
    have hordered : OrderedFrom 0 (insertRanges rs list) :=
      h.insertRanges fun s hs => ⟨Nat.zero_le _, hrs s hs⟩
    show Covers (insertRange r (insertRanges rs list)) n ↔ _
    rw [covers_insertRange_iff hordered hr, ih hrs, covers_cons_iff, or_assoc]

/-! ## Gaps -/

theorem OrderedFrom.gapsFrom (h : OrderedFrom n list) : OrderedFrom n (gapsFrom n list) := by
  induction list generalizing n with
  | nil =>
    rw [Regex.gapsFrom]
    split
    · rename_i hn
      exact ⟨Nat.le_refl n, hn, trivial⟩
    · trivial
  | cons r rest ih =>
    obtain ⟨hn, hr, hrest⟩ := h
    have hgaps := ih (hrest.mono (Nat.le_succ _))
    rw [Regex.gapsFrom]
    split
    · exact ⟨Nat.le_refl n, by dsimp only; omega, hgaps.mono (by dsimp only; omega)⟩
    · exact hgaps.mono (by omega)

theorem covers_gapsFrom_iff (h : OrderedFrom n list) (hm : m ≤ maxCode) :
    Covers (gapsFrom n list) m ↔ n ≤ m ∧ ¬Covers list m := by
  induction list generalizing n with
  | nil =>
    rw [gapsFrom, and_iff_left not_covers_nil]
    split
    · rw [covers_cons_iff, or_iff_left not_covers_nil, and_iff_left hm]
    · rename_i hn
      exact iff_of_false not_covers_nil fun h => hn (h.trans hm)
  | cons r rest ih =>
    obtain ⟨hn, hr, hrest⟩ := h
    have hgaps := ih (hrest.mono (Nat.le_succ _))
    have hbehind : Covers rest m → r.last + 2 ≤ m := hrest.le_of_covers
    rw [gapsFrom]
    split
    · rw [covers_cons_iff, hgaps, covers_cons_iff, not_or]
      dsimp only
      by_cases hc : Covers rest m
      · have hlast := hbehind hc
        simp only [hc, not_true_eq_false, and_false, or_false, iff_false]
        omega
      · simp only [hc, not_false_eq_true, and_true]
        omega
    · rw [hgaps, covers_cons_iff, not_or]
      by_cases hc : Covers rest m
      · simp only [hc, not_true_eq_false, and_false]
      · simp only [hc, not_false_eq_true, and_true]
        omega

theorem OrderedFrom.gaps (h : OrderedFrom 0 list) : OrderedFrom 0 (gaps list) := h.gapsFrom

theorem covers_gaps_iff (h : OrderedFrom 0 list) (hm : m ≤ maxCode) :
    Covers (gaps list) m ↔ ¬Covers list m := by
  rw [gaps, covers_gapsFrom_iff h hm, and_iff_right (Nat.zero_le m)]

theorem OrderedFrom.insertOrdered {other : List CodeRange} (h : OrderedFrom 0 list)
    (ho : OrderedFrom 0 other) : OrderedFrom 0 (Regex.insertRanges other list) :=
  h.insertRanges fun _ hr => ⟨Nat.zero_le _, ho.le hr⟩

theorem covers_commonRanges_iff {other : List CodeRange} (h : OrderedFrom 0 list)
    (ho : OrderedFrom 0 other) (hm : m ≤ maxCode) :
    Covers (commonRanges list other) m ↔ Covers list m ∧ Covers other m := by
  rw [commonRanges, covers_gaps_iff (ho.gaps.insertOrdered h.gaps) hm,
    covers_insertRanges_iff ho.gaps fun _ hr => h.gaps.le hr, covers_gaps_iff h hm,
    covers_gaps_iff ho hm, not_or, not_not, not_not]

/-! ## Runs and characters -/

theorem le_of_mem_rangesOfRun {run : CodeRun} (hr : r ∈ rangesOfRun run) : r.first ≤ r.last := by
  rw [rangesOfRun] at hr
  split at hr
  · rename_i hrun
    obtain rfl := List.mem_singleton.1 hr
    exact hrun.2
  · obtain ⟨n, -, rfl⟩ := List.mem_map.1 hr
    exact Nat.le_refl n

theorem covers_rangesOfRun_iff {run : CodeRun} :
    Covers (rangesOfRun run) n ↔ run.contains n = true := by
  rw [rangesOfRun]
  split
  · rename_i hrun
    rw [covers_cons_iff, or_iff_left not_covers_nil]
    simp [CodeRun.contains, hrun.1, Nat.mod_one]
  · rw [← CodeRun.mem_codes_iff]
    constructor
    · rintro ⟨r, hr, hfirst, hlast⟩
      obtain ⟨k, hk, rfl⟩ := List.mem_map.1 hr
      exact Nat.le_antisymm hfirst hlast ▸ hk
    · intro hn
      exact ⟨⟨n, n⟩, List.mem_map_of_mem hn, Nat.le_refl n, Nat.le_refl n⟩

theorem covers_flatMap_rangesOfRun_iff {runs : List CodeRun} :
    Covers (runs.flatMap rangesOfRun) c.toNat ↔ CodeRun.anyContains runs c = true := by
  simp only [Covers, List.mem_flatMap, CodeRun.anyContains, List.any_eq_true,
    ← covers_rangesOfRun_iff]
  constructor
  · rintro ⟨r, ⟨run, hrun, hr⟩, hbounds⟩
    exact ⟨run, hrun, r, hr, hbounds⟩
  · rintro ⟨run, hrun, r, hr, hbounds⟩
    exact ⟨r, ⟨run, hrun, hr⟩, hbounds⟩

/-- The range of one character. -/
theorem le_of_mem_map_toNat {cs : List Char}
    (hr : r ∈ cs.map fun c => (⟨c.toNat, c.toNat⟩ : CodeRange)) : r.first ≤ r.last := by
  obtain ⟨c, -, rfl⟩ := List.mem_map.1 hr
  exact Nat.le_refl _

theorem ordered_rangesOfChars (cs : List Char) : OrderedFrom 0 (rangesOfChars cs) :=
  ordered_nil.insertRanges fun _ hr =>
    ⟨Nat.zero_le _, le_of_mem_map_toNat hr⟩

theorem covers_rangesOfChars_iff {cs : List Char} : Covers (rangesOfChars cs) c.toNat ↔ c ∈ cs := by
  rw [rangesOfChars, covers_insertRanges_iff ordered_nil fun _ hr => le_of_mem_map_toNat hr,
    or_iff_left not_covers_nil]
  constructor
  · rintro ⟨r, hr, hfirst, hlast⟩
    obtain ⟨d, hd, rfl⟩ := List.mem_map.1 hr
    exact Char.toNat_inj.1 (Nat.le_antisymm hfirst hlast) ▸ hd
  · intro hc
    exact ⟨⟨c.toNat, c.toNat⟩, List.mem_map_of_mem hc, Nat.le_refl _, Nat.le_refl _⟩

/-- A character in the case class of another one is one of those that differ in case. -/
theorem mem_casedChars (hx : x ∈ caseClass c) (hne : x ≠ c) : c ∈ casedChars := by
  have hfold : foldChar x = foldChar c := mem_caseClass_iff.1 hx
  have hmoved : ∀ {a b : Char}, foldChar a = b → a ≠ b → a ∈ casedChars ∧ b ∈ casedChars := by
    rintro a _ rfl hab
    obtain ⟨r, hr, ht⟩ | hself := CaseRun.mapChar_cases foldRuns a
    · rw [CaseRun.target?] at ht
      split at ht
      · rename_i hcontains
        have hcode := CodeRun.mem_codes_iff.2 hcontains
        have hmem : ∀ d ∈ [Char.ofNat a.toNat, CaseRun.shifted r.shift a.toNat], d ∈ casedChars :=
          fun d hd => List.mem_flatMap.2 ⟨r, hr, List.mem_flatMap.2 ⟨a.toNat, hcode, hd⟩⟩
        refine ⟨hmem a (by simp), hmem _ ?_⟩
        rw [foldChar, ← Option.some.inj ht]
        simp
      · cases ht
    · exact absurd hself.symm hab
  by_cases hc : foldChar c = c
  · -- Then the other character is folded to it.
    exact (hmoved (hfold.trans hc) hne).2
  · exact (hmoved rfl fun h => hc h.symm).1

theorem toNat_le_maxCode (c : Char) : c.toNat ≤ maxCode := by
  obtain h | ⟨-, h⟩ := c.valid
  · exact (Nat.le_of_lt h).trans (by decide)
  · exact Nat.le_of_lt_succ h

namespace CharClass

theorem contains_single_iff : (single c).contains x = true ↔ x = c := by
  simp only [single, contains, Bool.and_eq_true, decide_eq_true_iff]
  exact ⟨fun ⟨h, h'⟩ => Char.le_antisymm h' h, fun h => h ▸ ⟨Char.le_refl _, Char.le_refl _⟩⟩

theorem eq_single_of_single? {a : CharClass} (h : a.single? = some c) : a = single c := by
  cases a with
  | interval first last =>
    rw [single?] at h
    split at h
    · rename_i heq
      obtain rfl := Option.some.inj h
      rw [single, heq]
    · cases h
  | _ => cases h

theorem closeCase_of_contains {a : CharClass} (h : a.contains c = true) :
    (closeCase a).contains c = true :=
  List.any_eq_true.2 ⟨c, mem_caseClass_iff.2 rfl, h⟩

/-- Without regard to case a class holds its own characters and some that differ in case. -/
theorem contains_closeCase_iff {a : CharClass} : (closeCase a).contains c = true
    ↔ c ∈ casedChars.filter (closeCase a).contains ∨ a.contains c = true := by
  rw [List.mem_filter]
  constructor
  · intro h
    obtain ⟨x, hx, ha⟩ := List.any_eq_true.1 h
    by_cases hne : x = c
    · exact .inr (hne ▸ ha)
    · exact .inl ⟨mem_casedChars hx hne, h⟩
  · rintro (⟨-, h⟩ | h)
    · exact h
    · exact closeCase_of_contains h

theorem swapAsciiCase_of_le (h : 0x80 ≤ c.toNat) : swapAsciiCase c = c := by
  have hval : ∀ d : Char, d.toNat < 0x80 → ¬c.val ≤ d.val := by
    intro d hd hle
    have : c.toNat ≤ d.toNat := hle
    omega
  have hupper : c.isUpper = false := decide_eq_false fun hupper => hval 'Z' (by decide) hupper.2
  rw [swapAsciiCase, hupper, if_neg Bool.false_ne_true]
  exact dif_neg fun hlower => hval 'z' (by decide) hlower.2

/-- The same for the letters of ASCII. -/
theorem contains_closeAsciiCase_iff {a : CharClass} : (closeAsciiCase a).contains c = true
    ↔ c ∈ asciiChars.filter (closeAsciiCase a).contains ∨ a.contains c = true := by
  rw [List.mem_filter]
  constructor
  · intro h
    by_cases ha : a.contains c = true
    · exact .inr ha
    · refine .inl ⟨List.mem_map.2 ⟨c.toNat, List.mem_range.2 ?_, Char.ofNat_toNat c⟩, h⟩
      -- No other character has another case in ASCII.
      by_contra hlarge
      rw [contains, swapAsciiCase_of_le (Nat.le_of_not_lt hlarge), Bool.or_self] at h
      exact ha h
  · rintro (⟨-, h⟩ | h)
    · exact h
    · rw [contains, h, Bool.true_or]

/-! ## Classes -/

theorem ordered_ranges (a : CharClass) : OrderedFrom 0 a.ranges := by
  induction a with
  | none => exact ordered_nil
  | any => exact ⟨Nat.le_refl 0, Nat.zero_le _, ordered_nil⟩
  | interval first last =>
    rw [ranges]
    split
    · rename_i hle
      exact ⟨Nat.zero_le _, hle, ordered_nil⟩
    · exact ordered_nil
  | table runs =>
    refine ordered_nil.insertRanges fun r hr => ⟨Nat.zero_le _, ?_⟩
    obtain ⟨run, -, hr⟩ := List.mem_flatMap.1 hr
    exact le_of_mem_rangesOfRun hr
  | compl a ih => exact ih.gaps
  | union a b iha ihb => exact ihb.insertOrdered iha
  | inter a b iha ihb => exact (ihb.gaps.insertOrdered iha.gaps).gaps
  | closeCase a ih =>
    rw [ranges]
    split
    · exact ordered_rangesOfChars _
    · exact ih.insertOrdered (ordered_rangesOfChars _)
  | closeAsciiCase a ih => exact ih.insertOrdered (ordered_rangesOfChars _)

/-- **The ranges of a class hold exactly its characters.** -/
theorem covers_ranges_iff {a : CharClass} : Covers a.ranges c.toNat ↔ a.contains c = true := by
  have hcode : c.toNat ≤ maxCode := toNat_le_maxCode c
  induction a with
  | none => exact iff_of_false not_covers_nil Bool.false_ne_true
  | any => exact iff_of_true ⟨_, List.mem_singleton_self _, Nat.zero_le _, hcode⟩ rfl
  | interval first last =>
    rw [ranges, contains, Bool.and_eq_true, decide_eq_true_iff, decide_eq_true_iff]
    split
    · rw [covers_cons_iff, or_iff_left not_covers_nil]
      exact Iff.rfl
    · rename_i hempty
      exact iff_of_false not_covers_nil fun h => hempty (Char.le_trans h.1 h.2)
  | table runs =>
    rw [ranges, covers_insertRanges_iff ordered_nil, or_iff_left not_covers_nil]
    · exact covers_flatMap_rangesOfRun_iff
    · intro r hr
      obtain ⟨run, -, hr⟩ := List.mem_flatMap.1 hr
      exact le_of_mem_rangesOfRun hr
  | compl a ih =>
    rw [ranges, covers_gaps_iff a.ordered_ranges hcode, contains, Bool.not_eq_true',
      ← Bool.not_eq_true]
    exact not_congr ih
  | union a b iha ihb =>
    rw [ranges, covers_insertRanges_iff b.ordered_ranges fun _ hr => a.ordered_ranges.le hr,
      contains, Bool.or_eq_true]
    exact or_congr iha ihb
  | inter a b iha ihb =>
    rw [ranges, covers_commonRanges_iff a.ordered_ranges b.ordered_ranges hcode, contains,
      Bool.and_eq_true]
    exact and_congr iha ihb
  | closeCase a ih =>
    rw [ranges]
    split
    · rename_i d hd
      obtain rfl := eq_single_of_single? hd
      rw [covers_rangesOfChars_iff]
      simp only [contains, List.any_eq_true, contains_single_iff, exists_eq_right]
      exact mem_caseClass_iff.trans (eq_comm.trans mem_caseClass_iff.symm)
    · rw [covers_insertRanges_iff a.ordered_ranges fun _ hr => (ordered_rangesOfChars _).le hr,
        covers_rangesOfChars_iff, contains_closeCase_iff]
      exact or_congr_right ih
  | closeAsciiCase a ih =>
    rw [ranges, covers_insertRanges_iff a.ordered_ranges fun _ hr =>
      (ordered_rangesOfChars _).le hr, covers_rangesOfChars_iff, contains_closeAsciiCase_iff]
    exact or_congr_right ih

end CharClass

end Gallery.Regex
