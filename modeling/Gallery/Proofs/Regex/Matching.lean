import Gallery.Regex.Matching

/-!
# `Gallery.Proofs.Regex.Matching` — the matcher computes the relation

An operation on sets of places is judged by the relation along which it moves places.  All relations
here lead forward and stay in the text; that is why a repetition without bound needs no more steps
than the text has characters.

## Contents
- `Iterates` split, and shortened where its steps lead forward.
- `Regex.Bounded`, no repetition asks for more than it allows.
- `Forward` relations, with `forward_spans`; `Moves`, the judgement, with one rule for each way to
  build an operation.
- `moves_advance`, and `isMatch_iff` for whole texts.
-/

namespace Gallery.Regex

/-- In every repetition the least count is at most the greatest. -/
def Bounded : Regex → Prop
  | seq r s | alt r s => r.Bounded ∧ s.Bounded
  | repeated r min max => r.Bounded ∧ ∀ m, max = some m → min ≤ m
  | _ => True

/-- The set has places of the text only. -/
def Places (text : List Char) (s : Nat) : Prop := ∀ i, s.testBit i = true → i ≤ text.length

/-- From a place of the text the relation leads to the same place or forward, and to no place behind
the text. -/
def Forward (text : List Char) (R : Nat → Nat → Prop) : Prop :=
  ∀ i j, i ≤ text.length → R i j → i ≤ j ∧ j ≤ text.length

/-- The operation leads from a set of places to all places to which the relation leads from it. -/
def Moves (text : List Char) (f : Nat → Nat) (R : Nat → Nat → Prop) : Prop :=
  ∀ s, Places text s → ∀ j, (f s).testBit j = true ↔ ∃ i, s.testBit i = true ∧ R i j

variable {text : List Char} {R S : Nat → Nat → Prop} {f g : Nat → Nat} {i j k m n s : Nat}
  {r : Regex}

/-! ## Steps in a row -/

theorem iterates_zero_iff : Iterates R 0 i j ↔ i = j := by
  constructor
  · rintro ⟨⟩
    rfl
  · rintro rfl
    exact .zero i

theorem iterates_succ_iff : Iterates R (n + 1) i j ↔ ∃ k, R i k ∧ Iterates R n k j := by
  constructor
  · rintro (_ | ⟨head, tail⟩)
    exact ⟨_, head, tail⟩
  · rintro ⟨k, head, tail⟩
    exact .succ head tail

theorem iterates_add_iff :
    Iterates R (m + n) i j ↔ ∃ k, Iterates R m i k ∧ Iterates R n k j := by
  induction m generalizing i with
  | zero => simp [iterates_zero_iff]
  | succ m ih =>
    rw [Nat.add_right_comm]
    simp only [iterates_succ_iff, ih]
    constructor
    · rintro ⟨l, hl, k, hm, hn⟩
      exact ⟨k, ⟨l, hl, hm⟩, hn⟩
    · rintro ⟨k, ⟨l, hl, hm⟩, hn⟩
      exact ⟨l, hl, k, hm, hn⟩

theorem Forward.iterates (hR : Forward text R) (n : Nat) : Forward text (Iterates R n) := by
  intro i j hi h
  induction h with
  | zero i => exact ⟨Nat.le_refl i, hi⟩
  | succ head _ ih =>
    obtain ⟨hle, hk⟩ := hR _ _ hi head
    obtain ⟨hle', hj⟩ := ih hk
    exact ⟨Nat.le_trans hle hle', hj⟩

/-- Steps that stay where they are can be left out. -/
theorem Forward.exists_iterates_le (hR : Forward text R) (hi : i ≤ text.length)
    (h : Iterates R n i j) : ∃ k, k ≤ j - i ∧ Iterates R k i j := by
  induction h with
  | zero i => exact ⟨0, Nat.zero_le _, .zero i⟩
  | @succ _ i l j head tail ih =>
    obtain ⟨hle, hl⟩ := hR i l hi head
    obtain ⟨k, hk, hiterates⟩ := ih hl
    obtain ⟨hle', -⟩ := hR.iterates k l j hl hiterates
    rcases Nat.eq_or_lt_of_le hle with rfl | hlt
    · exact ⟨k, hk, hiterates⟩
    · exact ⟨k + 1, by omega, .succ head hiterates⟩

/-! ## Expressions lead forward -/

theorem forward_spans (text : List Char) (r : Regex) : Forward text (Spans text r) := by
  induction r with
  | empty =>
    rintro i _ hi rfl
    exact ⟨Nat.le_refl i, hi⟩
  | char c =>
    rintro i _ - ⟨rfl, x, hx, -⟩
    exact ⟨Nat.le_succ i, (List.getElem?_eq_some_iff.mp hx).1⟩
  | anchor a =>
    rintro i _ hi ⟨rfl, -⟩
    exact ⟨Nat.le_refl i, hi⟩
  | seq r s ihr ihs =>
    rintro i j hi ⟨k, hr, hs⟩
    obtain ⟨hle, hk⟩ := ihr i k hi hr
    obtain ⟨hle', hj⟩ := ihs k j hk hs
    exact ⟨Nat.le_trans hle hle', hj⟩
  | alt r s ihr ihs =>
    rintro i j hi (hr | hs)
    · exact ihr i j hi hr
    · exact ihs i j hi hs
  | repeated r min max ih =>
    rintro i j hi ⟨n, -, -, h⟩
    exact ih.iterates n i j hi h

/-! ## Operations on sets of places -/

theorem Moves.places (hf : Moves text f R) (hR : Forward text R) (hs : Places text s) :
    Places text (f s) := by
  intro j hj
  obtain ⟨i, hi, hij⟩ := (hf s hs j).mp hj
  exact (hR i j (hs i hi) hij).2

theorem Moves.congr (hf : Moves text f R) (h : ∀ i j, i ≤ text.length → (R i j ↔ S i j)) :
    Moves text f S := by
  intro s hs j
  rw [hf s hs j]
  exact exists_congr fun i => and_congr_right fun hi => h i j (hs i hi)

theorem moves_id : Moves text id Eq := by
  intro s _ j
  simp

theorem Moves.comp (hg : Moves text g S) (hf : Moves text f R) (hR : Forward text R) :
    Moves text (g ∘ f) fun i j => ∃ k, R i k ∧ S k j := by
  intro s hs j
  rw [Function.comp_apply, hg (f s) (hf.places hR hs) j]
  simp only [hf s hs]
  constructor
  · rintro ⟨k, ⟨i, hi, hik⟩, hkj⟩
    exact ⟨i, hi, k, hik, hkj⟩
  · rintro ⟨i, hi, k, hik, hkj⟩
    exact ⟨k, ⟨i, hi, hik⟩, hkj⟩

theorem moves_iterate (hf : Moves text f R) (hR : Forward text R) (n : Nat) :
    Moves text (iterate f n) (Iterates R n) := by
  induction n with
  | zero => exact moves_id.congr fun i j _ => iterates_zero_iff.symm
  | succ n ih => exact (ih.comp hf hR).congr fun i j _ => iterates_succ_iff.symm

/-- No steps lead out of a set that a single step does not leave. -/
theorem testBit_of_iterates (hclosed : ∀ i j, s.testBit i = true → R i j → s.testBit j = true)
    (hi : s.testBit i = true) (h : Iterates R n i j) : s.testBit j = true := by
  induction h with
  | zero => exact hi
  | succ head _ ih => exact ih (hclosed _ _ hi head)

/-- It makes no difference that the loop stops where a step adds no place. -/
theorem moves_closure (hf : Moves text f R) (hR : Forward text R) (n : Nat) :
    Moves text (closure f n) fun i j => ∃ k, k ≤ n ∧ Iterates R k i j := by
  induction n with
  | zero => exact moves_id.congr fun i j _ => by simp [iterates_zero_iff]
  | succ n ih =>
    intro s hs j
    have hunion : ∀ j, (s ||| f s).testBit j = true
        ↔ s.testBit j = true ∨ ∃ i, s.testBit i = true ∧ R i j := by
      intro j
      rw [Nat.testBit_or, Bool.or_eq_true, hf s hs j]
    rw [closure]
    dsimp only
    split
    · -- No place is new, so however many steps are allowed, none leads out of the set.
      rename_i hstop
      have hclosed : ∀ i j, s.testBit i = true → R i j → s.testBit j = true := by
        intro i j hi hij
        rw [← hstop, hunion]
        exact .inr ⟨i, hi, hij⟩
      constructor
      · intro hj
        exact ⟨j, hj, 0, Nat.zero_le _, .zero j⟩
      · rintro ⟨i, hi, k, -, h⟩
        exact testBit_of_iterates hclosed hi h
    · have hplaces : Places text (s ||| f s) := by
        intro i hi
        rcases (hunion i).mp hi with hi | ⟨l, hl, hli⟩
        · exact hs i hi
        · exact (hR l i (hs l hl) hli).2
      rw [ih (s ||| f s) hplaces j]
      constructor
      · rintro ⟨i, hi, k, hk, h⟩
        rcases (hunion i).mp hi with hi | ⟨l, hl, hli⟩
        · exact ⟨i, hi, k, Nat.le_succ_of_le hk, h⟩
        · exact ⟨l, hl, k + 1, Nat.succ_le_succ hk, .succ hli h⟩
      · rintro ⟨i, hi, k, hk, h⟩
        cases h with
        | zero => exact ⟨j, (hunion j).mpr (.inl hi), 0, Nat.zero_le n, .zero j⟩
        | @succ k _ l _ head tail =>
          exact ⟨l, (hunion l).mpr (.inr ⟨i, hi, head⟩), k, Nat.le_of_succ_le_succ hk, tail⟩

/-! ## Masks -/

theorem testBit_classMask (text : List Char) (c : CharClass) (i : Nat) :
    (classMask text c).testBit i = true ↔ ∃ x, text[i]? = some x ∧ c.contains x = true := by
  rw [classMask, testBit_ofBits, List.getElem?_map]
  cases text[i]? <;> simp

theorem getElem?_anchorBits (a : Anchor) (before : Option Char) (text : List Char) (i : Nat) :
    (anchorBits a before text)[i]?.getD false = true ↔ i ≤ text.length
      ∧ a.holds (if i = 0 then before else text[i - 1]?) text[i]? = true := by
  induction text generalizing before i with
  | nil =>
    cases i with
    | zero => simp [anchorBits]
    | succ i => simp [anchorBits]
  | cons c text ih =>
    cases i with
    | zero => simp [anchorBits]
    | succ i =>
      rw [anchorBits, List.getElem?_cons_succ, ih]
      cases i with
      | zero => simp
      | succ i => simp

theorem testBit_anchorMask (text : List Char) (a : Anchor) (i : Nat) :
    (anchorMask text a).testBit i = true ↔
      i ≤ text.length ∧ a.holds (before? text i) text[i]? = true := by
  rw [anchorMask, testBit_ofBits, getElem?_anchorBits, before?]

/-! ## The matcher -/

/-- As many steps are enough as the greatest count allows, or the length of the text. -/
theorem iterates_repeated_iff (hR : Forward text R) {min : Nat} {max : Option Nat}
    (hbound : ∀ m, max = some m → min ≤ m) (hi : i ≤ text.length) :
    (∃ k, Iterates R min i k
        ∧ ∃ n, n ≤ max.elim (text.length + 1) (· - min) ∧ Iterates R n k j)
      ↔ ∃ n, min ≤ n ∧ (∀ m, max = some m → n ≤ m) ∧ Iterates R n i j := by
  constructor
  · rintro ⟨k, hmin, n, hn, h⟩
    refine ⟨min + n, Nat.le_add_right min n, ?_, iterates_add_iff.mpr ⟨k, hmin, h⟩⟩
    rintro m rfl
    have hm := hbound m rfl
    simp only [Option.elim_some] at hn
    omega
  · rintro ⟨n, hmin, hmax, h⟩
    obtain ⟨d, rfl⟩ := Nat.exists_eq_add_of_le hmin
    obtain ⟨k, hfirst, hrest⟩ := iterates_add_iff.mp h
    refine ⟨k, hfirst, ?_⟩
    cases max with
    | some m =>
      have hm := hmax m rfl
      exact ⟨d, by simp only [Option.elim_some]; omega, hrest⟩
    | none =>
      -- Without a greatest count it is the text that bounds the steps which lead forward.
      obtain ⟨-, hk⟩ := hR.iterates min i k hi hfirst
      obtain ⟨-, hj⟩ := hR.iterates d k j hk hrest
      obtain ⟨l, hl, hshort⟩ := hR.exists_iterates_le hk hrest
      exact ⟨l, by simp only [Option.elim_none]; omega, hshort⟩

/-- **The matcher moves places as the expression spans them.** -/
theorem moves_advance (text : List Char) (hr : r.Bounded) :
    Moves text (r.advance text) (Spans text r) := by
  induction r with
  | empty => exact moves_id
  | char c =>
    intro s _ j
    rw [advance, Nat.testBit_shiftLeft, Bool.and_eq_true, decide_eq_true_iff, Nat.testBit_and,
      Bool.and_eq_true, testBit_classMask]
    constructor
    · rintro ⟨hj, hs, h⟩
      exact ⟨j - 1, hs, (Nat.sub_add_cancel hj).symm, h⟩
    · rintro ⟨i, hs, rfl, h⟩
      exact ⟨Nat.le_add_left 1 i, hs, h⟩
  | anchor a =>
    intro s hs j
    rw [advance, Nat.testBit_and, Bool.and_eq_true, testBit_anchorMask]
    constructor
    · rintro ⟨hj, -, h⟩
      exact ⟨j, hj, rfl, h⟩
    · rintro ⟨i, hi, rfl, h⟩
      exact ⟨hi, hs i hi, h⟩
  | seq r s ihr ihs => exact (ihs hr.2).comp (ihr hr.1) (forward_spans text r)
  | alt r s ihr ihs =>
    intro t ht j
    rw [advance, Nat.testBit_or, Bool.or_eq_true, ihr hr.1 t ht j, ihs hr.2 t ht j]
    simp only [Spans, and_or_left, exists_or]
  | repeated r min max ih =>
    have hmoves := ih hr.1
    have hforward := forward_spans text r
    refine Moves.congr ?_ fun i j hi => iterates_repeated_iff hforward hr.2 hi
    exact (moves_closure hmoves hforward _).comp (moves_iterate hmoves hforward min)
      (hforward.iterates min)

theorem testBit_everyPlace (text : List Char) (i : Nat) :
    (everyPlace text).testBit i = true ↔ i ≤ text.length := by
  rw [everyPlace, Nat.one_shiftLeft, Nat.testBit_two_pow_sub_one, decide_eq_true_iff,
    Nat.lt_succ_iff]

/-- **The search finds a match if there is one**, anywhere in the text. -/
theorem isMatch_iff (hr : r.Bounded) :
    r.isMatch text = true ↔ ∃ i j, i ≤ text.length ∧ Spans text r i j := by
  have hplaces : Places text (everyPlace text) := fun i hi => (testBit_everyPlace text i).mp hi
  have hmoves := moves_advance text hr (everyPlace text) hplaces
  rw [isMatch, bne_iff_ne]
  constructor
  · intro hne
    obtain ⟨j, hj⟩ := Nat.exists_testBit_of_ne_zero hne
    obtain ⟨i, hi, h⟩ := (hmoves j).mp hj
    exact ⟨i, j, hplaces i hi, h⟩
  · rintro ⟨i, j, hi, h⟩ hzero
    have hj := (hmoves j).mpr ⟨i, (testBit_everyPlace text i).mpr hi, h⟩
    rw [hzero, Nat.zero_testBit] at hj
    exact Bool.false_ne_true hj

end Gallery.Regex
