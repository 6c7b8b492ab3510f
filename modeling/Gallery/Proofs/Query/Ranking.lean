import Gallery.Proofs.Query.Satisfaction
import Gallery.Proofs.ScoreOrder

/-!
# `Gallery.Proofs.Query.Ranking` — the order in which the images of an answer are presented

The list is put together from two selections of the images, those with a score and those without.
Here it is described as a whole: which images it holds, with which scores, and which of two comes
first.  The description leaves one list, so nothing else can be read into the order.

## Contents
- `Precedes`, which of two images comes first, a strict order.
- `ranked_perm` and `mem_ranked_iff`, the images of the list; `pairwise_ranked`, their order.
- The result: the list is the only one with its images in their order.
-/

namespace Gallery.Query.Matches

/-- Which of two images comes first: one with a score before one without, the one with the larger
score, and otherwise the one with the smaller number. -/
inductive Precedes : ImageId × Option Float32 → ImageId × Option Float32 → Prop
  | scored {i j : ImageId} {s : Float32} : Precedes (i, some s) (j, .none)
  | better {i j : ImageId} {s t : Float32} (h : scoreKey t < scoreKey s) :
      Precedes (i, some s) (j, some t)
  | tied {i j : ImageId} {s : Float32} (h : i < j) : Precedes (i, some s) (j, some s)
  | unscored {i j : ImageId} (h : i < j) : Precedes (i, .none) (j, .none)

theorem Precedes.asymm {a b : ImageId × Option Float32} (h : Precedes a b) : ¬Precedes b a := by
  intro h'
  cases h with
  | scored => cases h'
  | better h =>
    cases h' with
    | better h' => exact Int.lt_asymm h h'
    | tied => exact Int.lt_irrefl _ h
  | tied h =>
    cases h' with
    | better h' => exact Int.lt_irrefl _ h'
    | tied h' => exact Int.lt_asymm h h'
  | unscored h =>
    cases h' with
    | unscored h' => exact Int.lt_asymm h h'

theorem Precedes.ne {a b : ImageId × Option Float32} (h : Precedes a b) : a ≠ b := by
  rintro rfl
  exact h.asymm h

/-! ## The images of the list -/

theorem map_scored (m : Matches) : m.scored.map (·.1) = m.ids.toList.filter m.scores.contains := by
  unfold scored
  induction m.ids.toList with
  | nil => rfl
  | cons id ids ih =>
    rw [List.filterMap_cons, List.filter_cons, Table.contains]
    cases m.scores.get? id with
    | none => exact ih
    | some s => exact congrArg (id :: ·) ih

/-- The images with a score followed by the others are all images of an answer. -/
theorem ranked_perm (m : Matches) : (m.ranked.map (·.1)).Perm m.ids.toList := by
  have hsorted := (List.mergeSort_perm m.scored rankedBefore).map (·.1)
  unfold ranked
  rw [List.map_append, List.map_map, List.map_map]
  show ((m.scored.mergeSort rankedBefore).map (·.1) ++ m.unscored.map id).Perm m.ids.toList
  rw [List.map_id]
  exact (hsorted.append_right m.unscored).trans
    (m.map_scored ▸ List.filter_append_perm m.scores.contains m.ids.toList)

theorem nodup_ranked (m : Matches) : (m.ranked.map (·.1)).Nodup :=
  m.ranked_perm.nodup_iff.mpr m.ids.keys_nodup

/-- Every image stands in the list with its score. -/
theorem mem_ranked_iff {m : Matches} {id : ImageId} {o : Option Float32} :
    (id, o) ∈ m.ranked ↔ m.ids.has id = true ∧ m.scores.get? id = o := by
  unfold ranked scored unscored
  simp only [List.mem_append, List.mem_map, List.mem_mergeSort, List.mem_filterMap,
    Option.map_eq_some_iff, List.mem_filter, KeySet.mem_toList, Prod.mk.injEq]
  constructor
  · rintro (⟨_, ⟨id, hid, s, hs, rfl⟩, rfl, rfl⟩ | ⟨id, ⟨hid, hs⟩, rfl, rfl⟩)
    · exact ⟨hid, hs⟩
    · refine ⟨hid, ?_⟩
      rwa [Table.contains, Bool.not_eq_true', Option.isSome_eq_false_iff, Option.isNone_iff_eq_none]
        at hs
  · rintro ⟨hid, rfl⟩
    cases hs : m.scores.get? id with
    | some s => exact .inl ⟨_, ⟨id, hid, s, hs, rfl⟩, rfl, rfl⟩
    | none => exact .inr ⟨id, ⟨hid, by rw [Table.contains, hs]; rfl⟩, rfl, rfl⟩

/-! ## Their order -/

theorem rankedBefore_iff {a b : ImageId × Float32} : rankedBefore a b = true
    ↔ scoreKey b.2 < scoreKey a.2 ∨ scoreKey a.2 = scoreKey b.2 ∧ a.1 ≤ b.1 := by
  unfold rankedBefore
  split
  · rename_i heq
    rw [decide_eq_true_eq, heq]
    simp
  · rename_i hne
    rw [decide_eq_true_eq]
    simp [hne]

/-- The images with scores are put in order. -/
theorem pairwise_mergeSort_rankedBefore (l : List (ImageId × Float32)) :
    (l.mergeSort rankedBefore).Pairwise fun a b => rankedBefore a b = true := by
  refine List.pairwise_mergeSort ?_ ?_ l
  · intro a b c hab hbc
    rw [rankedBefore_iff] at *
    rcases hab with hab | ⟨hab, hid⟩
    · rcases hbc with hbc | ⟨hbc, -⟩
      · exact .inl (Int.lt_trans hbc hab)
      · exact .inl (hbc ▸ hab)
    · rcases hbc with hbc | ⟨hbc, hid'⟩
      · exact .inl (hab ▸ hbc)
      · exact .inr ⟨hab.trans hbc, Int.le_trans hid hid'⟩
  · intro a b
    rw [Bool.or_eq_true, rankedBefore_iff, rankedBefore_iff]
    rcases Int.lt_trichotomy (scoreKey a.2) (scoreKey b.2) with h | h | h
    · exact .inr (.inl h)
    · exact (Int.le_total a.1 b.1).imp (fun hid => .inr ⟨h, hid⟩) fun hid => .inr ⟨h.symm, hid⟩
    · exact .inl (.inl h)

theorem precedes_of_rankedBefore {a b : ImageId × Float32} (h : rankedBefore a b = true)
    (hne : a.1 ≠ b.1) : Precedes (a.1, some a.2) (b.1, some b.2) := by
  rcases rankedBefore_iff.mp h with hlt | ⟨heq, hle⟩
  · exact .better hlt
  · rw [scoreKey_injective heq]
    exact .tied (Int.lt_iff_le_and_ne.mpr ⟨hle, hne⟩)

theorem pairwise_ranked (m : Matches) : m.ranked.Pairwise Precedes := by
  have hids : ((m.scored.mergeSort rankedBefore).map (·.1)).Nodup :=
    m.nodup_ranked.sublist (by
      unfold ranked
      rw [List.map_append, List.map_map]
      exact List.sublist_append_left ..)
  refine List.pairwise_append.mpr ⟨?_, ?_, ?_⟩
  · refine List.pairwise_map.mpr ?_
    exact ((pairwise_mergeSort_rankedBefore _).and (List.pairwise_map.mp hids)).imp
      fun h => precedes_of_rankedBefore h.1 h.2
  · refine List.pairwise_map.mpr ((m.ids.keys_pairwise.filter _).imp fun h => ?_)
    exact .unscored (Int.compare_eq_lt.mp h)
  · intro a ha b hb
    obtain ⟨-, -, rfl⟩ := List.mem_map.mp ha
    obtain ⟨-, -, rfl⟩ := List.mem_map.mp hb
    exact .scored

/-- As numbers, too, scores do not increase. -/
theorem Precedes.le {i j : ImageId} {s t : Float32} (h : Precedes (i, some s) (j, some t))
    (hs : s.isNaN = false) (ht : t.isNaN = false) : t ≤ s := by
  cases h with
  | better h => exact le_of_scoreKey_le ht hs (Int.le_of_lt h)
  | tied => exact le_of_scoreKey_le ht hs (Int.le_refl _)

/-- **The order of presentation.**  One list has every image of an answer once, with its score if it
has one, and in this order: scored images first, larger scores before smaller ones and equal ones by
number, then the others by number.  If no score is `NaN`, the scores do not increase as numbers. -/
theorem ranked_order (m : Matches) :
    (∀ l : List (ImageId × Option Float32), l = m.ranked ↔
      (l.map (·.1)).Nodup
        ∧ (∀ id o, (id, o) ∈ l ↔ m.ids.has id = true ∧ m.scores.get? id = o)
        ∧ l.Pairwise Precedes)
    ∧ ((∀ id s, m.scores.get? id = some s → s.isNaN = false) →
      (m.ranked.filterMap (·.2)).Pairwise fun s t => t ≤ s) := by
  refine ⟨fun l => ⟨?_, ?_⟩, fun hnumbers => ?_⟩
  · rintro rfl
    exact ⟨m.nodup_ranked, fun _ _ => mem_ranked_iff, m.pairwise_ranked⟩
  · rintro ⟨-, hmem, hsorted⟩
    have hperm : l.Perm m.ranked :=
      (List.perm_ext_iff_of_nodup (hsorted.imp Precedes.ne)
        (m.pairwise_ranked.imp Precedes.ne)).mpr
        fun e => (hmem e.1 e.2).trans mem_ranked_iff.symm
    -- A strict order arranges the same images in one way only.
    exact hperm.eq_of_pairwise (fun _ _ _ _ h h' => absurd h' h.asymm) hsorted m.pairwise_ranked
  · refine List.pairwise_filterMap.mpr (m.pairwise_ranked.imp_of_mem fun {a b} ha hb hab => ?_)
    rintro s hs t ht
    obtain ⟨i, _⟩ := a
    obtain ⟨j, _⟩ := b
    cases hs
    cases ht
    exact hab.le (hnumbers i s (mem_ranked_iff.mp ha).2) (hnumbers j t (mem_ranked_iff.mp hb).2)

/-- Four images, two of them with one score and one without, and a score that no image has. -/
def tiedAnswer : Matches where
  ids := KeySet.ofList [4, 2, 1, 3]
  scores := .ofList [(9, 1), (3, 1), (2, 0.5), (1, 0.5)]

theorem get?_tiedAnswer (id : ImageId) : tiedAnswer.scores.get? id
    = if id = 1 ∨ id = 2 then some 0.5 else if id = 3 ∨ id = 9 then some 1 else .none := by
  have h : tiedAnswer.scores
      = ((((∅ : Table ImageId Float32).insert 9 1).insert 3 1).insert 2 0.5).insert 1 0.5 := rfl
  rw [h]
  simp only [Table.get?_insert, Table.get?_emptyCollection]
  grind

theorem ranked_order_tied :
    (∀ id s, tiedAnswer.scores.get? id = some s → s.isNaN = false)
      ∧ (tiedAnswer.ranked.filterMap (·.2)).Pairwise (fun s t => t ≤ s)
      ∧ tiedAnswer.ranked = [(3, some 1), (1, some 0.5), (2, some 0.5), (4, .none)] := by
  have hnumbers : ∀ id s, tiedAnswer.scores.get? id = some s → s.isNaN = false := by
    intro id s hs
    rw [get?_tiedAnswer] at hs
    split at hs
    · cases hs
      decide +kernel
    · split at hs <;> cases hs
      decide +kernel
  have hscores : scoreKey 0.5 < scoreKey 1 := by decide +kernel
  refine ⟨hnumbers, (ranked_order tiedAnswer).2 hnumbers,
    (((ranked_order tiedAnswer).1 _).mpr ⟨by decide, fun id o => ?_, ?_⟩).symm⟩
  · rw [get?_tiedAnswer, tiedAnswer, KeySet.has_ofList, List.contains_iff_mem]
    simp only [List.mem_cons, List.not_mem_nil, or_false, Prod.mk.injEq]
    constructor
    · rintro (⟨rfl, rfl⟩ | ⟨rfl, rfl⟩ | ⟨rfl, rfl⟩ | ⟨rfl, rfl⟩) <;> simp
    · rintro ⟨rfl | rfl | rfl | rfl, rfl⟩ <;> simp
  · simp only [List.pairwise_cons, List.mem_cons, List.not_mem_nil, or_false, forall_eq_or_imp,
      forall_eq]
    exact ⟨⟨.better hscores, .better hscores, .scored⟩, ⟨.tied (by decide), .scored⟩, .scored, nofun,
      .nil⟩

end Gallery.Query.Matches
