import Gallery.Text.Case
import Mathlib.Data.Nat.Bitwise

/-!
# `Gallery.Proofs.Text.Case` — folding and lower-casing

Texts are compared without regard to case in two ways: character by character through their folding,
or as a whole through their lowercase form.  Both are given as tables of runs.  What the proofs use
of the tables is checked on sets of code points; the rest follows for any tables like them.

## Contents
- `CodeRun.mem_codes_iff`; `bits` and `union?`, sets of code points, which tell runs apart.
- `CaseRun.Lands`, `CaseRun.target?_eq_some_iff` and `CaseRun.source?_eq_some_iff`, one run.
- `CaseRun.Settles`, tables whose map is settled after one step; `foldRuns_settles`.
- `mem_caseClass_iff`, the characters with one folding.
- `foldChar_lower` and `map_foldChar_lowerFrom`, a lowercase form has the folding of its text.
- `Steady`, the characters with the lowercase form of their folding; `lowerFrom_of_steady`.
-/

namespace Gallery.Text

variable {c d : Char} {n : Nat}

/-! ## Sets of code points -/

namespace CodeRun

theorem mem_codes_iff {r : CodeRun} : n ∈ r.codes ↔ r.contains n = true := by
  simp only [codes, contains, Bool.and_eq_true, decide_eq_true_eq, beq_iff_eq]
  split
  · rename_i hle
    simp only [List.mem_map, List.mem_range, Nat.lt_succ_iff]
    constructor
    · rintro ⟨k, hk, rfl⟩
      have hstep : r.step * k ≤ r.last - r.first :=
        (Nat.mul_comm ..).trans_le (Nat.mul_le_of_le_div _ _ _ hk)
      refine ⟨⟨Nat.le_add_right .., by omega⟩, ?_⟩
      rw [Nat.add_sub_cancel_left, Nat.mul_mod_right]
    · rintro ⟨⟨hfirst, hlast⟩, hstep⟩
      refine ⟨(n - r.first) / r.step, Nat.div_le_div_right (Nat.sub_le_sub_right hlast _), ?_⟩
      rw [Nat.mul_div_cancel' (Nat.dvd_of_mod_eq_zero hstep), Nat.add_sub_cancel' hfirst]
  · rename_i hgt
    refine iff_of_false List.not_mem_nil ?_
    rintro ⟨⟨hfirst, hlast⟩, -⟩
    exact hgt (hfirst.trans hlast)

theorem bounds_of_contains {r : CodeRun} (h : r.contains n = true) : r.first ≤ n ∧ n ≤ r.last := by
  simp only [contains, Bool.and_eq_true, decide_eq_true_eq] at h
  exact h.1

/-- No code point is in both runs. -/
def Apart (r q : CodeRun) : Prop := ∀ n, r.contains n = true → ¬q.contains n = true

end CodeRun

/-- The set of some code points, as the number with these bits. -/
def bits (codes : List Nat) : Nat := codes.foldr (fun n set => 2 ^ n ||| set) 0

theorem testBit_bits {codes : List Nat} (h : n ∈ codes) : (bits codes).testBit n = true := by
  induction codes with
  | nil => exact absurd h List.not_mem_nil
  | cons m codes ih =>
    rw [bits, List.foldr_cons, Nat.testBit_or, Nat.testBit_two_pow, Bool.or_eq_true]
    obtain rfl | h := List.mem_cons.1 h
    · exact .inl (decide_eq_true rfl)
    · exact .inr (ih h)

/-- A code point of one set is in no set without common bits. -/
theorem not_testBit_of_land_eq_zero {s t : Nat} (h : s &&& t = 0) (hn : s.testBit n = true) :
    ¬t.testBit n = true := by
  have hbit := congrArg (Nat.testBit · n) h
  simpa [Nat.testBit_and, hn] using hbit

/-- The set of all code points of runs, unless two of them share one. -/
def union? : List CodeRun → Option Nat
  | [] => some 0
  | r :: runs => (union? runs).bind fun set =>
    if bits r.codes &&& set = 0 then some (bits r.codes ||| set) else none

theorem union?_spec {runs : List CodeRun} {set : Nat} (h : union? runs = some set) :
    (∀ r ∈ runs, ∀ n, r.contains n = true → set.testBit n = true)
      ∧ runs.Pairwise CodeRun.Apart := by
  induction runs generalizing set with
  | nil => exact ⟨fun r hr => absurd hr List.not_mem_nil, .nil⟩
  | cons r runs ih =>
    obtain ⟨rest, hrest, h⟩ := Option.bind_eq_some_iff.1 h
    obtain ⟨hmem, hpairwise⟩ := ih hrest
    split at h
    case isFalse => cases h
    case isTrue hapart =>
      cases h
      refine ⟨fun q hq n hn => ?_, .cons (fun q hq n hn hqn => ?_) hpairwise⟩
      · rw [Nat.testBit_or, Bool.or_eq_true]
        obtain rfl | hq := List.mem_cons.1 hq
        · exact .inl (testBit_bits (CodeRun.mem_codes_iff.2 hn))
        · exact .inr (hmem q hq n hn)
      · have hbit := testBit_bits (CodeRun.mem_codes_iff.2 hn)
        exact not_testBit_of_land_eq_zero hapart hbit (hmem q hq n hqn)

/-! ## Runs -/

namespace CaseRun

variable {r : CaseRun} {runs : List CaseRun}

/-- The code points that the run moves to. -/
def moved (r : CaseRun) : CodeRun :=
  ⟨(r.run.first + r.shift).toNat, (r.run.last + r.shift).toNat, r.run.step⟩

/-- The run from there back. -/
def back (r : CaseRun) : CaseRun := ⟨r.moved, -r.shift⟩

/-- The run moves code points other than 0 to code points of characters. -/
structure Lands (r : CaseRun) : Prop where
  pos : 0 < r.run.first
  nonneg : 0 < r.run.first + r.shift
  scalar : r.run.last + r.shift < 0xD800 ∨
    0xDFFF < r.run.first + r.shift ∧ r.run.last + r.shift < 0x110000

instance (r : CaseRun) : Decidable r.Lands :=
  decidable_of_iff (0 < r.run.first ∧ 0 < r.run.first + r.shift ∧
    (r.run.last + r.shift < 0xD800 ∨
      0xDFFF < r.run.first + r.shift ∧ r.run.last + r.shift < 0x110000))
    ⟨fun ⟨h, h', h''⟩ => ⟨h, h', h''⟩, fun ⟨h, h', h''⟩ => ⟨h, h', h''⟩⟩

/-- A shift that does not end at the code point 0, where those that are no characters go. -/
theorem toNat_shifted {shift : Int} (h : 0 < (shifted shift n).toNat) :
    ((shifted shift n).toNat : Int) = n + shift := by
  by_cases hvalid : (n + shift).toNat.isValidChar
  · have heq : (shifted shift n).toNat = (n + shift).toNat := by
      rw [shifted, Char.ofNat, dif_pos hvalid]
      rfl
    omega
  · rw [shifted, Char.ofNat, dif_neg hvalid] at h
    exact absurd h (by decide)

theorem shifted_eq {shift : Int} (h : (d.toNat : Int) = n + shift) : shifted shift n = d := by
  rw [shifted, ← h, Int.toNat_natCast, Char.ofNat_toNat]

theorem Lands.target?_eq_some_iff (h : r.Lands) :
    r.target? c = some d ↔ r.run.contains c.toNat = true ∧ (d.toNat : Int) = c.toNat + r.shift := by
  rw [target?]
  split
  · rename_i hc
    rw [Option.some_inj]
    refine ⟨?_, fun hd => shifted_eq hd.2⟩
    rintro rfl
    obtain ⟨hfirst, hlast⟩ := CodeRun.bounds_of_contains hc
    have hnonneg := h.nonneg
    have hscalar := h.scalar
    have hvalid : (c.toNat + r.shift).toNat.isValidChar := by
      unfold Nat.isValidChar
      omega
    refine ⟨hc, toNat_shifted ?_⟩
    rw [shifted, Char.ofNat, dif_pos hvalid]
    show 0 < (c.toNat + r.shift).toNat
    omega
  · rename_i hc
    simp [hc]

/-- **A run is undone by its inverse.** -/
theorem Lands.source?_eq_some_iff (h : r.Lands) : r.source? d = some c ↔ r.target? c = some d := by
  have hback : ∀ e : Char,
      (e.toNat : Int) = d.toNat + -r.shift ↔ (d.toNat : Int) = e.toNat + r.shift := by
    intro e
    omega
  rw [h.target?_eq_some_iff, source?]
  constructor
  · split
    · rename_i hc
      rintro ⟨⟩
      have hpos : 0 < (shifted (-r.shift) d.toNat).toNat :=
        h.pos.trans_le (CodeRun.bounds_of_contains hc).1
      exact ⟨hc, (hback _).1 (toNat_shifted hpos)⟩
    · rintro ⟨⟩
  · rintro ⟨hc, hd⟩
    have hshift : shifted (-r.shift) d.toNat = c := shifted_eq ((hback c).2 hd)
    rw [hshift, if_pos hc]

theorem moved_first : r.moved.first = (r.run.first + r.shift).toNat := rfl

theorem moved_last : r.moved.last = (r.run.last + r.shift).toNat := rfl

/-- What the run moves is where the run goes. -/
theorem Lands.contains_moved (h : r.Lands) (ht : r.target? c = some d) :
    r.moved.contains d.toNat = true := by
  obtain ⟨hc, hd⟩ := h.target?_eq_some_iff.1 ht
  have hnonneg := h.nonneg
  simp only [CodeRun.contains, Bool.and_eq_true, decide_eq_true_eq, beq_iff_eq] at hc ⊢
  obtain ⟨⟨hfirst, hlast⟩, hstep⟩ := hc
  rw [moved_first, moved_last]
  refine ⟨⟨by omega, by omega⟩, ?_⟩
  have hdistance : d.toNat - (r.run.first + r.shift).toNat = c.toNat - r.run.first := by omega
  rw [hdistance]
  exact hstep

theorem Lands.target?_back (h : r.Lands) (hb : r.back.Lands) (ht : r.target? c = some d) :
    r.back.target? d = some c := by
  have hd : (c.toNat : Int) = d.toNat + -r.shift := by
    have hd := (h.target?_eq_some_iff.1 ht).2
    omega
  exact hb.target?_eq_some_iff.2 ⟨h.contains_moved ht, hd⟩

/-! ## Tables -/

theorem mapChar_cons (r : CaseRun) (runs : List CaseRun) (c : Char) :
    mapChar (r :: runs) c = (r.target? c).getD (mapChar runs c) := by
  rw [mapChar, List.findSome?_cons]
  cases r.target? c <;> rfl

theorem target?_eq_none_iff : r.target? c = none ↔ ¬r.run.contains c.toNat = true := by
  rw [target?]
  cases r.run.contains c.toNat <;> simp

theorem contains_of_target? (h : r.target? c = some d) : r.run.contains c.toNat = true := by
  by_contra hne
  rw [target?_eq_none_iff.2 hne] at h
  cases h

/-- A character that is in no run stays. -/
theorem mapChar_eq_self (h : ∀ r ∈ runs, ¬r.run.contains c.toNat = true) : mapChar runs c = c := by
  have hnone : runs.findSome? (·.target? c) = none :=
    List.findSome?_eq_none_iff.2 fun r hr => target?_eq_none_iff.2 (h r hr)
  rw [mapChar, hnone, Option.getD_none]

theorem mapChar_cases (runs : List CaseRun) (c : Char) :
    (∃ r ∈ runs, r.target? c = some (mapChar runs c)) ∨ mapChar runs c = c := by
  cases h : runs.findSome? (·.target? c) with
  | none => exact .inr (by rw [mapChar, h, Option.getD_none])
  | some d =>
    obtain ⟨r, hr, ht⟩ := List.exists_of_findSome?_eq_some h
    exact .inl ⟨r, hr, by rw [mapChar, h, Option.getD_some, ht]⟩

/-- A table of runs that share no code point and whose code points move to places in no run. -/
structure Settles (runs : List CaseRun) : Prop where
  lands : ∀ r ∈ runs, r.Lands
  apart : runs.Pairwise fun r q => r.run.Apart q.run
  settled : ∀ r ∈ runs, ∀ q ∈ runs, r.moved.Apart q.run

namespace Settles

/-- The map goes by any run that holds the character. -/
theorem mapChar_eq (h : Settles runs) (hr : r ∈ runs) (ht : r.target? c = some d) :
    mapChar runs c = d := by
  have hapart := h.apart
  clear h
  induction runs with
  | nil => exact absurd hr List.not_mem_nil
  | cons q runs ih =>
    rw [mapChar_cons]
    obtain ⟨hq, hruns⟩ := List.pairwise_cons.1 hapart
    obtain rfl | hr := List.mem_cons.1 hr
    · rw [ht, Option.getD_some]
    · have hnone : q.target? c = none :=
        target?_eq_none_iff.2 fun hqc => hq r hr _ hqc (contains_of_target? ht)
      rw [hnone, Option.getD_none]
      exact ih hr hruns

/-- Where a run goes, nothing moves. -/
theorem mapChar_target (h : Settles runs) (hr : r ∈ runs) (ht : r.target? c = some d) :
    mapChar runs d = d :=
  mapChar_eq_self fun q hq => h.settled r hr q hq _ ((h.lands r hr).contains_moved ht)

theorem mapChar_mapChar (h : Settles runs) (c : Char) :
    mapChar runs (mapChar runs c) = mapChar runs c := by
  obtain ⟨r, hr, ht⟩ | hself := mapChar_cases runs c
  · exact h.mapChar_target hr ht
  · rw [hself, hself]

end Settles

/-- The check of a table on sets of code points. -/
def settles (runs : List CaseRun) : Bool :=
  runs.all (fun r => decide r.Lands) && match union? (runs.map (·.run)) with
    | some set => bits (runs.flatMap (·.moved.codes)) &&& set == 0
    | none => false

theorem settles_sound (h : settles runs = true) : Settles runs := by
  rw [settles, Bool.and_eq_true, List.all_eq_true] at h
  obtain ⟨hlands, hsets⟩ := h
  split at hsets
  case h_2 => cases hsets
  case h_1 set hset =>
    obtain ⟨hmem, hapart⟩ := union?_spec hset
    refine ⟨fun r hr => of_decide_eq_true (hlands r hr), List.pairwise_map.1 hapart, ?_⟩
    intro r hr q hq n hn hqn
    have hmoved : n ∈ runs.flatMap (·.moved.codes) :=
      List.mem_flatMap.2 ⟨r, hr, CodeRun.mem_codes_iff.2 hn⟩
    exact not_testBit_of_land_eq_zero (beq_iff_eq.1 hsets) (testBit_bits hmoved)
      (hmem _ (List.mem_map_of_mem hq) n hqn)

end CaseRun

/-! ## Folding -/

open CaseRun

theorem foldRuns_settles : Settles foldRuns := settles_sound (by decide +kernel)

theorem foldChar_foldChar (c : Char) : foldChar (foldChar c) = foldChar c :=
  foldRuns_settles.mapChar_mapChar c

/-- **A class holds the characters with one folding.** -/
theorem mem_caseClass_iff : c ∈ caseClass d ↔ foldChar c = foldChar d := by
  have hsource : (∃ r ∈ foldRuns, r.source? (foldChar d) = some c) ↔
      ∃ r ∈ foldRuns, r.target? c = some (foldChar d) :=
    exists_congr fun r => and_congr_right fun hr =>
      (foldRuns_settles.lands r hr).source?_eq_some_iff
  rw [caseClass, List.mem_cons, List.mem_filterMap, hsource]
  constructor
  · rintro (rfl | ⟨r, hr, ht⟩)
    · exact foldChar_foldChar d
    · exact foldRuns_settles.mapChar_eq hr ht
  · intro h
    obtain ⟨r, hr, ht⟩ | hself := mapChar_cases foldRuns c
    · exact .inr ⟨r, hr, ht.trans (congrArg some h)⟩
    · exact .inl (hself.symm.trans h)

/-! ## Lower-casing -/

/-- The lowercase runs of Cherokee, whose small letters fold to capitals. -/
def cherokee : List CaseRun := [⟨⟨0x13A0, 0x13EF, 1⟩, 38864⟩, ⟨⟨0x13F0, 0x13F5, 1⟩, 8⟩]

/-- Lower-casing goes with folding, except that it goes against it in Cherokee. -/
theorem mem_foldRuns_of_lowercaseRuns {r : CaseRun} (h : r ∈ lowercaseRuns) :
    r.Lands ∧ (r ∈ foldRuns ∨ r.back ∈ foldRuns) := by
  have hlands : ∀ r ∈ lowercaseRuns, r.Lands := by decide +kernel
  have hforth : (lowercaseRuns.filter fun r => !cherokee.contains r).Sublist foldRuns := by
    decide +kernel
  have hback : ∀ r ∈ cherokee, r.back ∈ foldRuns := by decide +kernel
  refine ⟨hlands r h, ?_⟩
  by_cases hr : r ∈ cherokee
  · exact .inr (hback r hr)
  · exact .inl (hforth.subset (List.mem_filter.2 ⟨h, by simpa using hr⟩))

theorem foldChar_lower (c : Char) : foldChar (mapChar lowercaseRuns c) = foldChar c := by
  obtain ⟨r, hr, ht⟩ | hself := mapChar_cases lowercaseRuns c
  · obtain ⟨hlands, hfold | hback⟩ := mem_foldRuns_of_lowercaseRuns hr
    · rw [← foldRuns_settles.mapChar_eq hfold ht]
      exact foldChar_foldChar c
    · have hd := hlands.target?_back (foldRuns_settles.lands _ hback) ht
      have hc : foldChar c = c := foldRuns_settles.mapChar_target hback hd
      rw [hc]
      exact foldRuns_settles.mapChar_eq hback hd
  · rw [hself]

/-- **A lowercase form has the folding of its text.**  The dotted capital I is left out, whose form
has two characters. -/
theorem map_foldChar_lowerFrom {text : List Char} (h : 'İ' ∉ text) (before : List Char) :
    (lowerFrom before text).map foldChar = text.map foldChar := by
  induction text generalizing before with
  | nil => rfl
  | cons c text ih =>
    obtain ⟨hc, htext⟩ := not_or.1 (mt List.mem_cons.2 h)
    rw [lowerFrom, List.map_append, ih htext, List.map_cons]
    split
    · rename_i hsigma
      have hfinal : foldChar 'ς' = foldChar 'Σ' := by decide +kernel
      have hsmall : foldChar 'σ' = foldChar 'Σ' := by decide +kernel
      subst hsigma
      split
      · rw [List.map_singleton, hfinal, List.singleton_append]
      · rw [List.map_singleton, hsmall, List.singleton_append]
    · rw [lowerChar, if_neg (Ne.symm hc), List.map_singleton, foldChar_lower, List.singleton_append]

theorem lowerFrom_singleton (h : c ≠ 'Σ') (before : List Char) :
    lowerFrom before [c] = lowerChar c := by
  rw [lowerFrom, if_neg h, lowerFrom, List.append_nil]

/-! ## Steady characters -/

/-- The character has the lowercase form of its folding, and neither the text around it nor a second
character of the form has a part in that. -/
def Steady (c : Char) : Prop := lowerChar c = lowerChar (foldChar c) ∧ c ≠ 'İ' ∧ c ≠ 'Σ'

instance : DecidablePred Steady := fun c =>
  inferInstanceAs (Decidable (lowerChar c = lowerChar (foldChar c) ∧ c ≠ 'İ' ∧ c ≠ 'Σ'))

/-- **The lowercase form of steady characters is that of their folding.** -/
theorem lowerFrom_of_steady {text : List Char} (h : ∀ c ∈ text, Steady c) (before : List Char) :
    lowerFrom before text = (text.map foldChar).flatMap lowerChar := by
  induction text generalizing before with
  | nil => rfl
  | cons c text ih =>
    obtain ⟨⟨hlower, -, hsigma⟩, htext⟩ := List.forall_mem_cons.1 h
    rw [lowerFrom, if_neg hsigma, ih htext, List.map_cons, List.flatMap_cons, ← hlower]

/-- The run of ASCII, with which both tables begin. -/
def asciiRun : CaseRun := ⟨⟨0x41, 0x5A, 1⟩, 32⟩

theorem mapChar_of_ascii {runs : List CaseRun} (hhead : runs = asciiRun :: runs.tail)
    (htail : ∀ r ∈ runs.tail, 128 ≤ r.run.first) (hc : c.toNat < 128) :
    mapChar runs c = (asciiRun.target? c).getD c := by
  rw [hhead, mapChar_cons, mapChar_eq_self]
  intro r hr hcontains
  have hfirst := (CodeRun.bounds_of_contains hcontains).1
  have hlarge := htail r hr
  omega

theorem steady_of_ascii (h : c.toNat < 128) : Steady c := by
  have hfold : ∀ {d : Char}, d.toNat < 128 → foldChar d = (asciiRun.target? d).getD d :=
    mapChar_of_ascii rfl (by decide +kernel)
  have hlower : ∀ {d : Char}, d.toNat < 128 → mapChar lowercaseRuns d = foldChar d := fun hd =>
    (mapChar_of_ascii rfl (by decide +kernel) hd).trans (hfold hd).symm
  have hsmall : (foldChar c).toNat < 128 := by
    have hall : ∀ n : Fin 128,
        ((asciiRun.target? (Char.ofNat n)).getD (Char.ofNat n)).toNat < 128 := by decide +kernel
    have hc := hall ⟨c.toNat, h⟩
    rwa [Char.ofNat_toNat, ← hfold h] at hc
  have hne : ∀ d : Char, 128 ≤ d.toNat → c ≠ d := by
    rintro d hd rfl
    omega
  refine ⟨?_, hne _ (by decide), hne _ (by decide)⟩
  have hdotted : foldChar c ≠ 'İ' := fun hd => absurd (hd ▸ hsmall) (by decide)
  rw [lowerChar, lowerChar, if_neg (hne _ (by decide)), if_neg hdotted, hlower h, hlower hsmall,
    foldChar_foldChar]

theorem foldChar_eq_dotted (h : foldChar c = 'İ') : c = 'İ' := by
  have houtside : ∀ r ∈ foldRuns, ¬r.moved.contains ('İ').toNat = true := by decide +kernel
  obtain ⟨r, hr, ht⟩ | hself := mapChar_cases foldRuns c
  · have hmoved := (foldRuns_settles.lands r hr).contains_moved ht
    rw [show mapChar foldRuns c = 'İ' from h] at hmoved
    exact (houtside r hr hmoved).elim
  · exact hself.symm.trans h

/-- A folding is steady, but for the dotted capital I, which is its own folding. -/
theorem steady_foldChar (h : c ≠ 'İ') : Steady (foldChar c) := by
  refine ⟨by rw [foldChar_foldChar], mt foldChar_eq_dotted h, fun hsigma => ?_⟩
  have hfold := foldChar_foldChar c
  rw [hsigma] at hfold
  exact absurd hfold (by decide +kernel)

end Gallery.Text
