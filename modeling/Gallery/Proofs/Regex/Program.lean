import Gallery.Proofs.Regex.Ranges
import Gallery.Query.Glob
import Gallery.Regex.Program

/-!
# `Gallery.Proofs.Regex.Program` — the memory of the expressions of globs

A glob adds up: the memory of its expression is that of its parts and of six further states.  A part
that stands for one character takes the bytes of its encoding; without regard to case it takes at most
as much as a bounded number of ranges, so short sources always compile.

## Contents
- `footprint_toRegex`, the parts of a glob; `footprint_single` and `fits_literal_iff`, a glob without
  wildcards.
- `length_sequencesOf_lt` and `rangesFootprint_le`, bounds by the number of ranges.
- `footprint_charClass_le`, a character without regard to case; `fits_of_length_le`, short sources.
-/

namespace Gallery.Regex

open Gallery.Query Gallery.Query.Glob Gallery.Text

variable {rs : List CodeRange} {c : Char}

/-! ## Globs -/

theorem partFootprint_seqs (rs : List Regex) :
    partFootprint false (seqs rs) = (rs.map (partFootprint false)).sum := by
  induction rs with
  | nil => rfl
  | cons r rs ih =>
    rw [List.map_cons, List.sum_cons, ← ih]
    cases rs with
    | nil => rfl
    | cons s rs => rfl

/-- Two anchors and the four states of a whole expression come on top of the parts. -/
theorem footprint_toRegex (ignoreCase : Bool) (g : Glob) : (g.toRegex ignoreCase).footprint
    = (g.map fun x => partFootprint false (itemRegex ignoreCase x)).sum + 6 * stateSize := by
  simp only [footprint, toRegex, partFootprint, partFootprint_seqs, List.map_map]
  show stateSize + (_ + stateSize) + 4 * stateSize = _ + 6 * stateSize
  rw [Function.comp_def]
  omega

theorem footprint_single (c : Char) :
    (CharClass.single c).footprint = c.utf8Size * stateSize := by
  have hranges : (CharClass.single c).ranges = [⟨c.toNat, c.toNat⟩] := if_pos (Char.le_refl c)
  rw [CharClass.footprint, hranges]
  simp [Char.ofNat_toNat]

theorem utf8ByteSize_eq_sum (text : String) :
    text.utf8ByteSize = (text.toList.map Char.utf8Size).sum := by
  obtain ⟨s, rfl⟩ : ∃ s, text = String.ofList s := ⟨text.toList, String.ofList_toList.symm⟩
  rw [String.toList_ofList]
  induction s with
  | nil => rfl
  | cons c s ih =>
    have happend : String.ofList (c :: s) = String.singleton c ++ String.ofList s := by
      rw [← String.toList_inj]
      simp
    rw [happend, String.utf8ByteSize_append, String.utf8ByteSize_singleton, ih, List.map_cons,
      List.sum_cons]

/-- **The expression of a text** takes a state for each byte of the text, and six more. -/
theorem footprint_literal (text : String) :
    (toRegex false (text.toList.map .char)).footprint
      = (text.utf8ByteSize + 6) * stateSize := by
  rw [footprint_toRegex, List.map_map, utf8ByteSize_eq_sum, Nat.add_mul, Nat.add_right_cancel_iff]
  induction text.toList with
  | nil => rfl
  | cons c s ih =>
    have hc : partFootprint false (itemRegex false (.char c)) = c.utf8Size * stateSize :=
      footprint_single c
    rw [List.map_cons, List.sum_cons, ih, List.map_cons, List.sum_cons, Nat.add_mul,
      Function.comp_apply, hc]

theorem fits_literal_iff (text : String) :
    (toRegex false (text.toList.map .char)).Fits ↔ (text.utf8ByteSize + 6) * stateSize ≤ sizeLimit := by
  rw [Fits, footprint_literal]

/-! ## Bounds -/

/-- Cutting at a leading byte leaves at most two shorter encodings to cut further. -/
theorem length_sequencesOf_lt (tag more a b : Nat) :
    (sequencesOf tag more a b).length < 2 ^ (more + 1) := by
  induction more generalizing tag a b with
  | zero => exact Nat.lt_two_pow_self
  | succ more ih =>
    have hpow : 2 ^ (more + 1 + 1) = 2 * 2 ^ (more + 1) := Nat.pow_succ'
    have hlow := ih 0x80 (a % Nat.pow 64 (more + 1)) (b % Nat.pow 64 (more + 1))
    have hfirst := ih 0x80 (a % Nat.pow 64 (more + 1)) (Nat.pow 64 (more + 1) - 1)
    have hlast := ih 0x80 0 (b % Nat.pow 64 (more + 1))
    rw [sequencesOf]
    dsimp only
    split
    · rw [List.length_map]
      omega
    · simp only [List.length_append, apply_ite List.length, List.length_map, List.length_nil,
        List.length_singleton]
      split <;> split <;> split <;> omega

theorem length_of_mem_sequencesOf {tag more a b : Nat} {s : List CodeRange}
    (hs : s ∈ sequencesOf tag more a b) : s.length = more + 1 := by
  induction more generalizing tag a b s with
  | zero =>
    obtain rfl := List.mem_singleton.1 hs
    rfl
  | succ more ih =>
    have hfrom : ∀ {high low top : Nat},
        s ∈ (sequencesOf 0x80 more low top).map (⟨tag + high, tag + high⟩ :: ·) →
          s.length = more + 1 + 1 := by
      intro high low top hs
      obtain ⟨t, ht, rfl⟩ := List.mem_map.1 hs
      rw [List.length_cons, ih ht]
    rw [sequencesOf] at hs
    dsimp only at hs
    split at hs
    · exact hfrom hs
    rw [List.mem_append, List.mem_append, List.mem_ite_nil_left, List.mem_ite_nil_right,
      List.mem_ite_nil_left, List.mem_singleton] at hs
    obtain (⟨-, hs⟩ | ⟨-, rfl⟩) | ⟨-, hs⟩ := hs
    · exact hfrom hs
    · rw [List.length_cons, List.length_replicate]
    · exact hfrom hs

theorem length_byteSequences_le (r : CodeRange) : (byteSequences r).length ≤ 33 := by
  have hpart : ∀ tag more a b : Nat,
      (if a ≤ b then sequencesOf tag more a b else []).length < 2 ^ (more + 1) := by
    intro tag more a b
    split
    · exact length_sequencesOf_lt ..
    · exact Nat.two_pow_pos _
  have h0 := hpart 0 0 (max r.first 0) (min r.last 0x7F)
  have h1 := hpart 0xC0 1 (max r.first 0x80) (min r.last 0x7FF)
  have h2 := hpart 0xE0 2 (max r.first 0x800) (min r.last 0xD7FF)
  have h3 := hpart 0xE0 2 (max r.first 0xE000) (min r.last 0xFFFF)
  have h4 := hpart 0xF0 3 (max r.first 0x10000) (min r.last 0x10FFFF)
  simp only [byteSequences, encodings, List.flatMap_cons, List.flatMap_nil, List.length_append,
    List.length_nil]
  omega

theorem length_flatMap_byteSequences_le (rs : List CodeRange) :
    (rs.flatMap byteSequences).length ≤ 33 * rs.length := by
  induction rs with
  | nil => exact Nat.le_refl 0
  | cons r rs ih =>
    have hr := length_byteSequences_le r
    rw [List.flatMap_cons, List.length_append, List.length_cons]
    omega

theorem length_le_of_mem_byteSequences {r : CodeRange} {s : List CodeRange}
    (hs : s ∈ byteSequences r) : s.length ≤ 4 := by
  have hmore : ∀ e ∈ encodings, e.2.2 + 1 ≤ 4 := by decide
  obtain ⟨e, he, hs⟩ := List.mem_flatMap.1 hs
  dsimp only at hs
  split at hs
  · rw [length_of_mem_sequencesOf hs]
    exact hmore e he
  · exact absurd hs List.not_mem_nil

/-- A sequence adds at most the states of all its bytes. -/
theorem statesAfter_le {previous : List CodeRange} {sequences : List (List CodeRange)}
    (h : ∀ s ∈ sequences, s.length ≤ 4) : statesAfter previous sequences ≤ 4 * sequences.length := by
  induction sequences generalizing previous with
  | nil => exact Nat.le_refl 0
  | cons s rest ih =>
    obtain ⟨hs, hrest⟩ := List.forall_mem_cons.1 h
    have hafter : statesAfter s rest ≤ 4 * rest.length := ih hrest
    rw [statesAfter, List.length_cons]
    omega

/-- The memory of a class goes by the number of its ranges. -/
theorem rangesFootprint_le (rs : List CodeRange) :
    rangesFootprint rs ≤ 2 * stateSize + 33 * (4 * stateSize + branchSize) * rs.length := by
  rw [rangesFootprint]
  split
  · simp only [stateSize, transitionSize, branchSize]
    omega
  · have hlength := length_flatMap_byteSequences_le rs
    have hstates : statesAfter [] (rs.flatMap byteSequences)
        ≤ 4 * (rs.flatMap byteSequences).length := by
      refine statesAfter_le fun s hs => ?_
      obtain ⟨r, -, hs⟩ := List.mem_flatMap.1 hs
      exact length_le_of_mem_byteSequences hs
    simp only [stateSize, branchSize]
    omega

/-- The same for any class, single characters included. -/
theorem CharClass.footprint_le (a : CharClass) :
    a.footprint ≤ 2 * stateSize + 33 * (4 * stateSize + branchSize) * a.ranges.length := by
  rw [CharClass.footprint]
  split
  · rename_i r hr
    rw [hr]
    split
    · have := (Char.ofNat r.first).utf8Size_le_four
      simp only [stateSize, branchSize, List.length_singleton]
      omega
    · exact rangesFootprint_le [r]
  · exact rangesFootprint_le _

/-! ## Short sources -/

theorem length_insertRange_le (r : CodeRange) (list : List CodeRange) :
    (insertRange r list).length ≤ list.length + 1 := by
  induction list generalizing r with
  | nil => exact Nat.le_refl 1
  | cons s rest ih =>
    rw [insertRange]
    split
    · exact Nat.le_refl _
    split
    · exact Nat.succ_le_succ (ih r)
    · exact (ih _).trans (Nat.le_succ _)

theorem length_rangesOfChars_le (cs : List Char) : (rangesOfChars cs).length ≤ cs.length := by
  induction cs with
  | nil => exact Nat.le_refl 0
  | cons c cs ih => exact (length_insertRange_le _ _).trans (Nat.succ_le_succ ih)

theorem length_caseClass_le (c : Char) : (caseClass c).length ≤ 215 := by
  have hruns : foldRuns.length = 214 := by decide +kernel
  exact Nat.succ_le_succ ((List.length_filterMap_le _ _).trans (Nat.le_of_eq hruns))

theorem length_ranges_charClass_le (ignoreCase : Bool) (c : Char) :
    (charClass ignoreCase c).ranges.length ≤ 215 := by
  cases ignoreCase with
  | false =>
    rw [charClass, if_neg Bool.false_ne_true, CharClass.single, CharClass.ranges,
      if_pos (Char.le_refl c), List.length_singleton]
    decide
  | true =>
    have hsingle : (CharClass.single c).single? = some c := if_pos rfl
    rw [charClass, if_pos rfl, CharClass.ranges, hsingle]
    exact (length_rangesOfChars_le _).trans (length_caseClass_le c)

/-- **A short text without wildcards compiles**, with or without regard to case. -/
theorem fits_of_length_le (ignoreCase : Bool) {s : List Char} (hs : s.length ≤ 8) :
    (toRegex ignoreCase (s.map .char)).Fits := by
  have hpart : ∀ c : Char, partFootprint false (itemRegex ignoreCase (.char c)) ≤ 1000000 := by
    intro c
    have hlength := length_ranges_charClass_le ignoreCase c
    have hclass := (charClass ignoreCase c).footprint_le
    show (charClass ignoreCase c).footprint ≤ 1000000
    simp only [stateSize, branchSize] at hclass
    omega
  have hsum : ∀ s : List Char, ((s.map GlobItem.char).map fun x =>
      partFootprint false (itemRegex ignoreCase x)).sum ≤ 1000000 * s.length := by
    intro s
    induction s with
    | nil => exact Nat.zero_le _
    | cons c s ih =>
      have hc := hpart c
      simp only [List.map_cons, List.sum_cons, List.length_cons]
      omega
  have htotal := hsum s
  rw [Fits, footprint_toRegex]
  simp only [stateSize, sizeLimit]
  omega

end Gallery.Regex
