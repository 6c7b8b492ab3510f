import Gallery.Proofs.Query.Equivalence
import Gallery.Proofs.Query.Leaves

/-!
# `Gallery.Proofs.Query.Scores` — what simplifying does to scores

Scores come from comparisons.  A negation has none, whatever it negates, and neither has a constant.
So a query and its simplification may rank the same images differently: a comparison under two
negations gets its scores back when the negations cancel each other, and loses them when the
disjunction around it turns out to be a tautology.  Both are read off the query here, without
simplifying it, and so is a condition under which neither happens.

## Contents
- `Attains`, the scores of a query at an image with those of all its parts; the best of them is the
  best that the query offers (`isBest_attains`).
- `Shows`, the scores that a rewritten query attains, by polarity: `attains_rewrite`, from
  `attains_conjunction` and `attains_disjunction`.
- `Expr.isMute` and `Expr.keepsScores`, no comparison counts for a score and all count as before.
- The result: the scores of a query and of its simplification, and a query whose images are ranked
  differently once it is simplified.
-/

namespace Gallery.Query

/-! ## Scores of all parts -/

section

variable (x : Index) (sim : Similarity) (image : Image)

mutual

/-- Whether some part of a query has the score for an image.  Parts under a negation do not count,
and a connective that does not hold has no score. -/
def Attains : Expr → Float32 → Prop
  | .metatag m, t => m.key = .similarTo ∧ Compares x sim m.pattern image t
  | .all es, t => satisfies x sim image (.all es) = true ∧ AttainsAmong es t
  | .any es, t => satisfies x sim image (.any es) = true ∧ AttainsAmong es t
  | _, _ => False

/-- Whether some part of a query of the list has the score. -/
def AttainsAmong : List Expr → Float32 → Prop
  | [], _ => False
  | e :: es, t => Attains e t ∨ AttainsAmong es t

end

end

variable {x : Index} {sim : Similarity} {image : Image} {e : Expr} {es : List Expr} {t : Float32}

theorem attainsAmong_iff :
    AttainsAmong x sim image es t ↔ ∃ e ∈ es, Attains x sim image e t := by
  induction es with
  | nil => simp [AttainsAmong]
  | cons e es ih => simp [AttainsAmong, ih]

theorem attains_all_iff : Attains x sim image (.all es) t
    ↔ satisfies x sim image (.all es) = true ∧ ∃ e ∈ es, Attains x sim image e t :=
  and_congr_right fun _ => attainsAmong_iff

theorem attains_any_iff : Attains x sim image (.any es) t
    ↔ satisfies x sim image (.any es) = true ∧ ∃ e ∈ es, Attains x sim image e t :=
  and_congr_right fun _ => attainsAmong_iff

/-- Only images that satisfy a query have scores. -/
theorem Attains.satisfies (h : Attains x sim image e t) : satisfies x sim image e = true := by
  cases e with
  | metatag m =>
    obtain ⟨hkey, hscore⟩ := h
    show metadataFit x sim image m = true
    rw [metadataFit, hkey]
    exact resembles_iff.mpr ⟨t, hscore⟩
  | all es => exact h.1
  | any es => exact h.1
  | _ => exact absurd h id

theorem Attains.ne_everything (h : Attains x sim image e t) : e ≠ .everything := by
  rintro rfl
  exact h

/-! ## The best score -/

/-- A best score stays the best among further scores that are not better. -/
theorem IsBest.extend {P Q : Float32 → Prop} {o : Option Float32} (h : IsBest P o)
    (hPQ : ∀ t, P t → Q t) (hQP : ∀ t, Q t → ∃ s, P s ∧ scoreKey t ≤ scoreKey s) : IsBest Q o := by
  cases o with
  | none =>
    intro t ht
    obtain ⟨s, hs, -⟩ := hQP t ht
    exact h s hs
  | some best =>
    refine ⟨hPQ best h.1, fun t ht => ?_⟩
    obtain ⟨s, hs, hts⟩ := hQP t ht
    exact Int.le_trans hts (h.2 s hs)

theorem attains_of_offers (h : Offers x sim image e t) : Attains x sim image e t := by
  induction e using Expr.induction generalizing t with
  | metatag m => exact h
  | all es ih =>
    obtain ⟨e, he, hbest⟩ := offersAmong_iff.mp h.2
    exact attains_all_iff.mpr ⟨h.1, e, he, ih e he hbest.1⟩
  | any es ih =>
    obtain ⟨e, he, hbest⟩ := offersAmong_iff.mp h
    have ht := ih e he hbest.1
    refine attains_any_iff.mpr ⟨?_, e, he, ht⟩
    rw [satisfies_any, List.any_eq_true]
    exact ⟨e, he, ht.satisfies⟩
  | nothing | everything | tag | neg => exact h

/-- A part has no better score than the query offers. -/
theorem Attains.exists_offer (hbest : ∀ d, ∃ o, IsBest (Offers x sim image d) o)
    (h : Attains x sim image e t) : ∃ s, Offers x sim image e s ∧ scoreKey t ≤ scoreKey s := by
  -- A connective offers the best score of the operand that `t` comes from.
  have hoperand : ∀ d, (∃ s, Offers x sim image d s ∧ scoreKey t ≤ scoreKey s) →
      ∃ s, IsBest (Offers x sim image d) (some s) ∧ scoreKey t ≤ scoreKey s := by
    rintro d ⟨s, hs, hts⟩
    obtain ⟨o, ho⟩ := hbest d
    cases o with
    | none => exact absurd hs (ho s)
    | some best => exact ⟨best, ho, Int.le_trans hts (ho.2 s hs)⟩
  induction e using Expr.induction with
  | metatag m => exact ⟨t, h, Int.le_refl _⟩
  | all es ih =>
    obtain ⟨hholds, d, hd, ht⟩ := attains_all_iff.mp h
    obtain ⟨s, hs, hts⟩ := hoperand d (ih d hd ht)
    exact ⟨s, ⟨hholds, offersAmong_iff.mpr ⟨d, hd, hs⟩⟩, hts⟩
  | any es ih =>
    obtain ⟨-, d, hd, ht⟩ := attains_any_iff.mp h
    obtain ⟨s, hs, hts⟩ := hoperand d (ih d hd ht)
    exact ⟨s, offersAmong_iff.mpr ⟨d, hd, hs⟩, hts⟩
  | nothing | everything | tag | neg => exact absurd h id

/-- **The score of an answer is the best of all parts of the query.** -/
theorem isBest_attains {o : Option Float32} (hbest : ∀ d, ∃ o, IsBest (Offers x sim image d) o)
    (h : IsBest (Offers x sim image e) o) : IsBest (Attains x sim image e) o :=
  h.extend (fun _ => attains_of_offers) fun _ => Attains.exists_offer hbest

/-! ## Joining operands -/

theorem exists_attains_factors (h : satisfies x sim image e = true) :
    (∃ d ∈ e.factors, Attains x sim image d t) ↔ Attains x sim image e t := by
  cases e with
  | everything => simp [Expr.factors, Attains]
  | all es => rw [Expr.factors, attains_all_iff, and_iff_right h]
  | _ => simp [Expr.factors]

theorem exists_attains_alternatives :
    (∃ d ∈ e.alternatives, Attains x sim image d t) ↔ Attains x sim image e t := by
  cases e with
  | nothing => simp [Expr.alternatives, Attains]
  | any es =>
    refine Iff.trans ?_ attains_any_iff.symm
    refine (and_iff_right_of_imp ?_).symm
    rintro ⟨d, hd, ht⟩
    rw [satisfies_any, List.any_eq_true]
    exact ⟨d, hd, ht.satisfies⟩
  | _ => simp [Expr.alternatives]

/-- What has been flattened has the scores of the conjunction, if it holds. -/
theorem exists_attains_flat_conjunction
    (h : satisfies x sim image (Expr.conjunction es) = true) :
    (∃ d ∈ distinct (es.flatMap Expr.factors), Attains x sim image d t)
      ↔ Attains x sim image (Expr.conjunction es) t := by
  revert h
  unfold Expr.conjunction
  split
  · exact fun h => nomatch h
  · dsimp only
    split
    · exact fun h => nomatch h
    · generalize distinct (es.flatMap Expr.factors) = flat
      intro h
      split at h
      · simp [Attains]
      · simp
      · rw [attains_all_iff, and_iff_right h]
        simp only [List.mem_mergeSort]

/-- What has been flattened has the scores of the disjunction, if it is not the constant. -/
theorem exists_attains_flat_disjunction (h : Expr.disjunction es ≠ .everything) :
    (∃ d ∈ distinct (es.flatMap Expr.alternatives), Attains x sim image d t)
      ↔ Attains x sim image (Expr.disjunction es) t := by
  revert h
  unfold Expr.disjunction
  split
  · exact fun h => absurd rfl h
  · dsimp only
    split
    · exact fun h => absurd rfl h
    · generalize distinct (es.flatMap Expr.alternatives) = flat
      intro _
      split
      · simp [Attains]
      · simp
      · exact exists_attains_alternatives (e := .any flat)

/-- A conjunction has the scores of its operands unless it does not hold or is a constant. -/
theorem attains_conjunction :
    Attains x sim image (Expr.conjunction es) t
      ↔ satisfies x sim image (Expr.conjunction es) = true ∧ Expr.conjunction es ≠ .everything
        ∧ ∃ e ∈ es, Attains x sim image e t := by
  have hflat : satisfies x sim image (Expr.conjunction es) = true →
      (Attains x sim image (Expr.conjunction es) t ↔ ∃ e ∈ es, Attains x sim image e t) := by
    intro h
    have hes : ∀ e ∈ es, satisfies x sim image e = true := by
      rw [satisfies, Expr.holds_conjunction, List.all_eq_true] at h
      exact h
    rw [← exists_attains_flat_conjunction h]
    simp only [mem_distinct, List.mem_flatMap]
    constructor
    · rintro ⟨d, ⟨e, he, hd⟩, ht⟩
      exact ⟨e, he, (exists_attains_factors (hes e he)).mp ⟨d, hd, ht⟩⟩
    · rintro ⟨e, he, ht⟩
      obtain ⟨d, hd, ht⟩ := (exists_attains_factors (hes e he)).mpr ht
      exact ⟨d, ⟨e, he, hd⟩, ht⟩
  constructor
  · exact fun h => ⟨h.satisfies, h.ne_everything, (hflat h.satisfies).mp h⟩
  · rintro ⟨h, -, hes⟩
    exact (hflat h).mpr hes

/-- A disjunction has the scores of its operands unless it is a constant. -/
theorem attains_disjunction :
    Attains x sim image (Expr.disjunction es) t
      ↔ satisfies x sim image (Expr.disjunction es) = true ∧ Expr.disjunction es ≠ .everything
        ∧ ∃ e ∈ es, Attains x sim image e t := by
  have hflat : Expr.disjunction es ≠ .everything →
      (Attains x sim image (Expr.disjunction es) t ↔ ∃ e ∈ es, Attains x sim image e t) := by
    intro h
    rw [← exists_attains_flat_disjunction h]
    simp only [mem_distinct, List.mem_flatMap]
    constructor
    · rintro ⟨d, ⟨e, he, hd⟩, ht⟩
      exact ⟨e, he, exists_attains_alternatives.mp ⟨d, hd, ht⟩⟩
    · rintro ⟨e, he, ht⟩
      obtain ⟨d, hd, ht⟩ := exists_attains_alternatives.mpr ht
      exact ⟨d, ⟨e, he, hd⟩, ht⟩
  constructor
  · exact fun h => ⟨h.satisfies, h.ne_everything, (hflat h.ne_everything).mp h⟩
  · rintro ⟨-, h, hes⟩
    exact (hflat h).mpr hes

/-! ## Scores by polarity -/

section

variable (x : Index) (sim : Similarity) (image : Image)

/-- Whether a query, or its negation if `negated`, holds and does not reduce to the constant. -/
def Passes (negated : Bool) (e : Expr) : Prop :=
  (negated ^^ satisfies x sim image e) = true ∧ Expr.rewrite negated e ≠ .everything

mutual

/-- Whether some part of a query has the score once negations have been moved inwards and constants
are gone.  A part counts if the number of negations above it is even and no connective above it
fails or reduces to a constant. -/
def Shows (negated : Bool) : Expr → Float32 → Prop
  | .metatag m, t => negated = false ∧ m.key = .similarTo ∧ Compares x sim m.pattern image t
  | .neg e, t => Shows (!negated) e t
  | .all es, t => Passes x sim image negated (.all es) ∧ ShowsAmong negated es t
  | .any es, t => Passes x sim image negated (.any es) ∧ ShowsAmong negated es t
  | _, _ => False

/-- Whether some part of a query of the list has the score. -/
def ShowsAmong (negated : Bool) : List Expr → Float32 → Prop
  | [], _ => False
  | e :: es, t => Shows negated e t ∨ ShowsAmong negated es t

end

end

variable {negated : Bool}

theorem showsAmong_iff :
    ShowsAmong x sim image negated es t ↔ ∃ e ∈ es, Shows x sim image negated e t := by
  induction es with
  | nil => simp [ShowsAmong]
  | cons e es ih => simp [ShowsAmong, ih]

theorem passes_iff {e : Expr} : Passes x sim image negated e
    ↔ satisfies x sim image (Expr.rewrite negated e) = true
      ∧ Expr.rewrite negated e ≠ .everything := by
  rw [Passes, satisfies, satisfies, Expr.holds_rewrite]

theorem exists_attains_rewriteList
    (h : ∀ e ∈ es, Attains x sim image (Expr.rewrite negated e) t
      ↔ Shows x sim image negated e t) :
    (∃ d ∈ Expr.rewriteList negated es, Attains x sim image d t)
      ↔ ShowsAmong x sim image negated es t := by
  rw [showsAmong_iff, Expr.rewriteList_eq_map]
  constructor
  · rintro ⟨d, hd, ht⟩
    obtain ⟨e, he, rfl⟩ := List.mem_map.mp hd
    exact ⟨e, he, (h e he).mp ht⟩
  · rintro ⟨e, he, ht⟩
    exact ⟨_, List.mem_map.mpr ⟨e, he, rfl⟩, (h e he).mpr ht⟩

/-- **A rewritten query attains the scores that the query shows.** -/
theorem attains_rewrite :
    Attains x sim image (Expr.rewrite negated e) t ↔ Shows x sim image negated e t := by
  induction e using Expr.induction generalizing negated with
  | nothing | everything | tag => cases negated <;> exact Iff.rfl
  | metatag m =>
    cases negated with
    | false => exact (and_iff_right rfl).symm
    | true => exact ⟨False.elim, fun h => Bool.noConfusion h.1⟩
  | neg e ih => exact ih
  | all es ih =>
    rw [Shows, passes_iff, and_assoc, ← exists_attains_rewriteList fun e he => ih e he,
      Expr.rewrite]
    split
    · exact attains_disjunction
    · exact attains_conjunction
  | any es ih =>
    rw [Shows, passes_iff, and_assoc, ← exists_attains_rewriteList fun e he => ih e he,
      Expr.rewrite]
    split
    · exact attains_conjunction
    · exact attains_disjunction

/-! ## Queries that keep their scores -/

namespace Expr

mutual

/-- Whether every comparison in a query, or in its negation if `negated`, is negated in the end. -/
def isMute (negated : Bool) : Expr → Bool
  | metatag m => negated || m.key != .similarTo
  | neg e => isMute (!negated) e
  | all es => areMute negated es
  | any es => areMute negated es
  | _ => true

/-- Whether all queries of a list are mute. -/
def areMute (negated : Bool) : List Expr → Bool
  | [] => true
  | e :: es => isMute negated e && areMute negated es

end

/-- Whether a query does not reduce to the constant, unless it is mute. -/
def isStable (e : Expr) : Bool := rewrite false e != everything || e.isMute false

mutual

/-- Whether no comparison gets its score back from a second negation or loses it in a tautology. -/
def keepsScores : Expr → Bool
  | neg e => e.isMute true
  | all es => (all es).isStable && keepScores es
  | any es => (any es).isStable && keepScores es
  | _ => true

/-- Whether all queries of a list keep their scores. -/
def keepScores : List Expr → Bool
  | [] => true
  | e :: es => e.keepsScores && keepScores es

end

theorem areMute_eq (es : List Expr) : areMute negated es = es.all (isMute negated) := by
  induction es with
  | nil => rfl
  | cons e es ih => rw [areMute, ih, List.all_cons]

theorem keepScores_eq (es : List Expr) : keepScores es = es.all keepsScores := by
  induction es with
  | nil => rfl
  | cons e es ih => rw [keepScores, ih, List.all_cons]

end Expr

theorem not_showsAmong
    (ih : ∀ e ∈ es, e.isMute negated = true → ¬Shows x sim image negated e t)
    (h : Expr.areMute negated es = true) : ¬ShowsAmong x sim image negated es t := by
  rw [Expr.areMute_eq, List.all_eq_true] at h
  rw [showsAmong_iff]
  rintro ⟨e, he, ht⟩
  exact ih e he (h e he) ht

/-- Mute queries show no score. -/
theorem not_shows_of_isMute (h : e.isMute negated = true) : ¬Shows x sim image negated e t := by
  induction e using Expr.induction generalizing negated with
  | nothing | everything | tag => exact id
  | metatag m =>
    rintro ⟨rfl, hkey, -⟩
    simp [Expr.isMute, hkey] at h
  | neg e ih => exact ih h
  | all es ih => exact fun hs => not_showsAmong (fun e he => ih e he) h hs.2
  | any es ih => exact fun hs => not_showsAmong (fun e he => ih e he) h hs.2

/-- A stable query has all scores of its operands if it holds. -/
theorem passes_and_iff {e : Expr} {A : Prop} (h : e.isStable = true)
    (hmute : e.isMute false = true → ¬A) :
    Passes x sim image false e ∧ A ↔ satisfies x sim image e = true ∧ A := by
  rw [Passes, Bool.false_xor]
  refine and_congr_left fun hA => and_iff_left ?_
  rw [Expr.isStable, Bool.or_eq_true, bne_iff_ne] at h
  exact h.resolve_right fun hm => hmute hm hA

/-- **Simplifying keeps the scores of a query that meets the condition.** -/
theorem shows_iff_attains (h : e.keepsScores = true) :
    Shows x sim image false e t ↔ Attains x sim image e t := by
  -- Operands, of either connective.
  have hamong : ∀ es : List Expr,
      (∀ e ∈ es, e.keepsScores = true → (Shows x sim image false e t ↔ Attains x sim image e t)) →
      Expr.keepScores es = true →
      (ShowsAmong x sim image false es t ↔ AttainsAmong x sim image es t) := by
    intro es ih h
    rw [Expr.keepScores_eq, List.all_eq_true] at h
    rw [showsAmong_iff, attainsAmong_iff]
    exact exists_congr fun e => and_congr_right fun he => ih e he (h e he)
  have hmute : ∀ es : List Expr, Expr.areMute false es = true →
      ¬ShowsAmong x sim image false es t :=
    fun es => not_showsAmong fun _ _ => not_shows_of_isMute
  induction e using Expr.induction with
  | nothing | everything | tag => exact Iff.rfl
  | metatag m => exact and_iff_right rfl
  | neg e => exact ⟨not_shows_of_isMute h, False.elim⟩
  | all es ih =>
    obtain ⟨hstable, hes⟩ := Bool.and_eq_true_iff.mp h
    rw [Shows, passes_and_iff hstable (hmute es), hamong es ih hes, Attains]
  | any es ih =>
    obtain ⟨hstable, hes⟩ := Bool.and_eq_true_iff.mp h
    rw [Shows, passes_and_iff hstable (hmute es), hamong es ih hes, Attains]

/-! ## Answers -/

variable {m n : Matches} {H : Image → Bool} {S : Image → Float32 → Prop}

/-- Only registered images have scores. -/
theorem Describes.score_eq_none (h : Describes x m H S) {id : ImageId}
    (hg : x.images.get? id = .none) : m.scores.get? id = .none := by
  rw [Option.eq_none_iff_forall_ne_some]
  intro s hs
  obtain ⟨image, hi, -⟩ := (h.has_iff id).mp (h.scored id s hs)
  exact nomatch hg.symm.trans hi

/-- What is right at every registered image determines an answer. -/
theorem Describes.unique (hm : Describes x m H S) (hn : Describes x n H S) : m = n := by
  have hids : m.ids = n.ids := by
    refine KeySet.ext_has fun id => ?_
    rw [Bool.eq_iff_iff, hm.has_iff, hn.has_iff]
  have hscores : m.scores = n.scores := by
    refine Table.ext_get? fun id => ?_
    cases hg : x.images.get? id with
    | some image => exact (hm.best id image hg).unique (hn.best id image hg)
    | none => rw [hm.score_eq_none hg, hn.score_eq_none hg]
  obtain ⟨ids, scores⟩ := m
  obtain rfl := hids
  obtain rfl := hscores
  rfl

/-- The best scores of the parts of a query are the scores of its answer. -/
theorem describes_attains (hx : Index.Coherent x) (sim : Similarity) (e : Expr) :
    ∃ m, evaluate .never x sim e = .ok m
      ∧ Describes x m (satisfies x sim · e) (Attains x sim · e) := by
  obtain ⟨m, hm, hdescribes⟩ := describes_evaluate hx sim e
  refine ⟨m, hm, hdescribes.has_iff, hdescribes.scored, fun id image hg => ?_⟩
  refine isBest_attains (fun d => ?_) (hdescribes.best id image hg)
  obtain ⟨n, -, hn⟩ := describes_evaluate hx sim d
  exact ⟨_, hn.best id image hg⟩

/-- The scores of the answer to a simplified query, read off the query itself. -/
theorem describes_simplify (hx : Index.Coherent x) (sim : Similarity) (e : Expr) :
    ∃ m, evaluate .never x sim e.simplify = .ok m
      ∧ Describes x m (satisfies x sim · e) (Shows x sim · false e) := by
  obtain ⟨m, hm, hdescribes⟩ := describes_attains hx sim e.simplify
  refine ⟨m, hm, hdescribes.congr (fun _ image _ => ?_) fun _ image _ t => ?_⟩
  · rw [satisfies, Expr.holds_simplify, satisfies]
  · rw [Expr.simplify_eq_rewrite, attains_rewrite]

/-- **What simplifying does to scores**, on every index that changes lead to.  A query and its
simplification have the same images.  The score of an image is the best of the parts of the query
that are not under a negation; for the simplification, the best of the parts under an even number of
negations, apart from what has been found to be constant.  A query that keeps its scores has the
very answer of its simplification, so its images are ranked the same. -/
theorem evaluate_simplify_scores (changes : List IndexChange) (sim : Similarity) (e : Expr) :
    ∃ m n, evaluate .never ((∅ : Index).applyAll changes) sim e.simplify = .ok m
      ∧ evaluate .never ((∅ : Index).applyAll changes) sim e = .ok n
      ∧ m.ids = n.ids
      ∧ (∀ id image, ((∅ : Index).applyAll changes).images.get? id = some image → ∀ o,
          (m.scores.get? id = o
            ↔ IsBest (Shows ((∅ : Index).applyAll changes) sim image false e) o)
          ∧ (n.scores.get? id = o
            ↔ IsBest (Attains ((∅ : Index).applyAll changes) sim image e) o))
      ∧ (e.keepsScores = true → m = n) := by
  have hx := Index.coherent_applyAll Index.coherent_empty changes
  obtain ⟨m, hm, hm'⟩ := describes_simplify hx sim e
  obtain ⟨n, hn, hn'⟩ := describes_attains hx sim e
  refine ⟨m, n, hm, hn, ?_, fun id image hg o => ⟨?_, ?_⟩, fun hkeeps => ?_⟩
  · refine KeySet.ext_has fun id => ?_
    rw [Bool.eq_iff_iff, hm'.has_iff, hn'.has_iff]
  · exact ⟨fun h => h ▸ hm'.best id image hg, (hm'.best id image hg).unique⟩
  · exact ⟨fun h => h ▸ hn'.best id image hg, (hn'.best id image hg).unique⟩
  · refine Describes.unique (hm'.congr (fun _ _ _ => rfl) fun _ _ _ t => ?_) hn'
    exact shows_iff_attains hkeeps

/-- Two images whose fingerprints differ in one bit. -/
def alikeImages : List IndexChange :=
  [.insertImage (.make 1 "a.jpg" (some 0)), .insertImage (.make 2 "b.jpg" (some 1))]

/-- Being similar to the first image. -/
def alike : Metatag :=
  ⟨.similarTo, ⟨.glob, "a.jpg", false, .exact "a.jpg", by decide +kernel⟩⟩

/-- All images, with the scores of those that are similar to the first one. -/
def alikeOrNot : Expr := .any [.metatag alike, .neg (.metatag alike)]

example : (Expr.all [.neg (.tag "red"), .metatag alike]).keepsScores = true
    ∧ alikeOrNot.keepsScores = false := by decide +kernel

/-- A tautology loses its scores: the image with one is presented first, and no longer once the query
is simplified. -/
theorem not_ranked_simplify : ¬∀ (changes : List IndexChange) (sim : Similarity) (e : Expr) m n,
    sim.threshold < 0xFFFFFFFF →
    evaluate .never ((∅ : Index).applyAll changes) sim e.simplify = .ok m →
    evaluate .never ((∅ : Index).applyAll changes) sim e = .ok n → m.ranked = n.ranked := by
  have hsimple : (evaluate .never ((∅ : Index).applyAll alikeImages) default
      alikeOrNot.simplify).toOption.map (·.ranked.map Prod.fst) = some [1, 2] := by decide +kernel
  have hraw : (evaluate .never ((∅ : Index).applyAll alikeImages) default
      alikeOrNot).toOption.map (·.ranked.map Prod.fst) = some [2, 1] := by decide +kernel
  intro hall
  have hx := Index.coherent_applyAll Index.coherent_empty alikeImages
  obtain ⟨m, hm, -⟩ := describes_evaluate hx default alikeOrNot.simplify
  obtain ⟨n, hn, -⟩ := describes_evaluate hx default alikeOrNot
  have hranked := hall alikeImages default alikeOrNot m n (by decide) hm hn
  rw [hm, Except.toOption, Option.map_some, hranked] at hsimple
  rw [hn, Except.toOption, Option.map_some, hsimple] at hraw
  exact absurd hraw (by decide)

end Gallery.Query
