import Gallery.Query.Evaluate

/-!
# `Gallery.Proofs.Query.Satisfaction` — what a query says about a single image

The evaluator works with sets of images and tables of scores.  Here a query is read at one image:
whether it holds there, and which scores it offers.  No plan, no posting and no early exit occurs in
these definitions, so they are what an answer is measured against.

## Contents
- `Expr.induction`, induction over queries and the operands of their connectives.
- `Expr.holds`, the truth of a query for given truths of labels and metatags; `fits` and
  `satisfies`, its truth at an image of an index.
- `IsBest`, the best of some scores, with `IsBest.unique` and one lemma for each way in which the
  evaluator finds a best score.
- `Offers`, the scores that a query has for an image; `resembles_iff`, a comparison holds where it
  has a score.
-/

namespace Gallery.Query

/-- Induction over queries; what is shown of a connective may use all of its operands. -/
@[elab_as_elim]
theorem Expr.induction {motive : Expr → Prop} (nothing : motive .nothing)
    (everything : motive .everything) (tag : ∀ l, motive (.tag l))
    (metatag : ∀ m, motive (.metatag m)) (neg : ∀ e, motive e → motive (.neg e))
    (all : ∀ es, (∀ e ∈ es, motive e) → motive (.all es))
    (any : ∀ es, (∀ e ∈ es, motive e) → motive (.any es)) (e : Expr) : motive e :=
  @Expr.rec motive (fun es => ∀ e ∈ es, motive e) nothing everything tag metatag neg all any
    (fun _ h => absurd h List.not_mem_nil)
    (fun _ _ he hes => List.forall_mem_cons.mpr ⟨he, hes⟩) e

/-! ## Truth -/

section

variable (carries : String → Bool) (fits : Metatag → Bool)

mutual

/-- Whether a query holds where the labels with `carries` and the metatags with `fits` hold. -/
def Expr.holds : Expr → Bool
  | .nothing => false
  | .everything => true
  | .tag l => carries l
  | .metatag m => fits m
  | .neg e => !e.holds
  | .all es => Expr.holdAll es
  | .any es => Expr.holdsAny es

/-- Whether all queries of a list hold. -/
def Expr.holdAll : List Expr → Bool
  | [] => true
  | e :: es => e.holds && Expr.holdAll es

/-- Whether some query of a list holds. -/
def Expr.holdsAny : List Expr → Bool
  | [] => false
  | e :: es => e.holds || Expr.holdsAny es

end

end

variable {carries : String → Bool} {fits : Metatag → Bool}

theorem Expr.holdAll_eq (es : List Expr) :
    Expr.holdAll carries fits es = es.all (Expr.holds carries fits) := by
  induction es with
  | nil => rfl
  | cons e es ih => rw [Expr.holdAll, ih, List.all_cons]

theorem Expr.holdsAny_eq (es : List Expr) :
    Expr.holdsAny carries fits es = es.any (Expr.holds carries fits) := by
  induction es with
  | nil => rfl
  | cons e es ih => rw [Expr.holdsAny, ih, List.any_cons]

/-- Whether both fingerprints are there and within the threshold. -/
def near (sim : Similarity) : Option Fingerprint → Option Fingerprint → Bool
  | some r, some f => sim.metric r f ≤ sim.threshold
  | _, _ => false

/-- Whether an image is no reference itself and near one of the references. -/
def resembles (x : Index) (sim : Similarity) (p : Pattern) (image : Image) : Bool :=
  !p.isMatch image.path && x.images.values.any fun ref =>
    p.isMatch ref.path && near sim ref.fingerprint image.fingerprint

/-- Whether the metadata of an image are as a metatag asks for. -/
def metadataFit (x : Index) (sim : Similarity) (image : Image) (m : Metatag) : Bool :=
  match m.key with
  | .type => m.pattern.isMatch image.extension
  | .name => m.pattern.isMatch image.name
  | .path => m.pattern.isMatch image.path
  | .similarTo => resembles x sim m.pattern image

/-- Whether an image of an index satisfies a query. -/
def satisfies (x : Index) (sim : Similarity) (image : Image) (e : Expr) : Bool :=
  e.holds (x.labelsOf image.id).has (metadataFit x sim image)

theorem satisfies_neg (x : Index) (sim : Similarity) (image : Image) (e : Expr) :
    satisfies x sim image (.neg e) = !satisfies x sim image e := rfl

theorem satisfies_all (x : Index) (sim : Similarity) (image : Image) (es : List Expr) :
    satisfies x sim image (.all es) = es.all (satisfies x sim image) := Expr.holdAll_eq es

theorem satisfies_any (x : Index) (sim : Similarity) (image : Image) (es : List Expr) :
    satisfies x sim image (.any es) = es.any (satisfies x sim image) := Expr.holdsAny_eq es

/-! ## Best scores -/

/-- The best of the scores with `P`, or none if there are no such scores. -/
def IsBest (P : Float32 → Prop) : Option Float32 → Prop
  | none => ∀ t, ¬P t
  | some s => P s ∧ ∀ t, P t → scoreKey t ≤ scoreKey s

theorem toBits_injective {s t : Float32} (h : s.toBits = t.toBits) : s = t := by
  obtain ⟨⟨s, _⟩⟩ := s
  obtain ⟨⟨t, _⟩⟩ := t
  cases h
  rfl

/-- No two scores have the same place in the order of scores. -/
theorem scoreKey_injective {s t : Float32} (h : scoreKey s = scoreKey t) : s = t := by
  refine toBits_injective (UInt32.toNat_inj.mp ?_)
  simp only [scoreKey] at h
  split at h <;> split at h <;> omega

theorem scoreKey_maxScore (s t : Float32) :
    scoreKey (maxScore s t) = max (scoreKey s) (scoreKey t) := by
  unfold maxScore
  split <;> omega

theorem maxScore_cases (s t : Float32) : maxScore s t = s ∨ maxScore s t = t := by
  unfold maxScore
  split
  · exact .inr rfl
  · exact .inl rfl

variable {P Q : Float32 → Prop} {o o' : Option Float32}

/-- There is at most one best score. -/
theorem IsBest.unique (h : IsBest P o) (h' : IsBest P o') : o = o' := by
  cases o with
  | none =>
    cases o' with
    | none => rfl
    | some t => exact absurd h'.1 (h t)
  | some s =>
    cases o' with
    | none => exact absurd h.1 (h' s)
    | some t =>
      have hst : scoreKey s ≤ scoreKey t := h'.2 s h.1
      have hts : scoreKey t ≤ scoreKey s := h.2 t h'.1
      rw [scoreKey_injective (Int.le_antisymm hst hts)]

theorem IsBest.congr (h : IsBest P o) (hPQ : ∀ t, P t ↔ Q t) : IsBest Q o := by
  obtain rfl : P = Q := funext fun t => propext (hPQ t)
  exact h

/-- The best score is also the best of itself. -/
theorem IsBest.self (h : IsBest P o) : IsBest (fun t => IsBest P (some t)) o := by
  cases o with
  | none => exact fun t ht => h t ht.1
  | some s => exact ⟨h, fun t ht => h.2 t ht.1⟩

/-- The larger of two best scores is the best of both kinds. -/
theorem IsBest.merge (h : IsBest P o) (h' : IsBest Q o') :
    IsBest (fun t => P t ∨ Q t) (Matches.mergeScore o o') := by
  cases o with
  | none =>
    refine h'.congr fun t => ?_
    simp [h t]
  | some s =>
    cases o' with
    | none =>
      refine h.congr fun t => ?_
      simp [h' t]
    | some t =>
      show IsBest _ (some (maxScore s t))
      refine ⟨?_, ?_⟩
      · rcases maxScore_cases s t with hmax | hmax
        · rw [hmax]
          exact .inl h.1
        · rw [hmax]
          exact .inr h'.1
      · rw [scoreKey_maxScore]
        rintro u (hu | hu)
        · exact Int.le_trans (h.2 u hu) (Int.le_max_left _ _)
        · exact Int.le_trans (h'.2 u hu) (Int.le_max_right _ _)

theorem isBest_foldl (s : Float32) (l : List Float32) :
    IsBest (· ∈ s :: l) (some (l.foldl maxScore s)) := by
  induction l generalizing s with
  | nil =>
    refine ⟨List.mem_singleton_self s, fun t ht => ?_⟩
    obtain rfl := List.mem_singleton.mp ht
    exact Int.le_refl _
  | cons a l ih =>
    obtain ⟨hmem, hle⟩ := ih (maxScore s a)
    have hkey := hle _ List.mem_cons_self
    rw [scoreKey_maxScore] at hkey
    rw [List.foldl_cons]
    refine ⟨?_, fun t ht => ?_⟩
    · rcases List.mem_cons.mp hmem with hhead | htail
      · rcases maxScore_cases s a with hmax | hmax
        · rw [hhead, hmax]
          exact List.mem_cons_self
        · rw [hhead, hmax]
          exact List.mem_cons_of_mem s List.mem_cons_self
      · exact List.mem_cons_of_mem s (List.mem_cons_of_mem a htail)
    · rcases List.mem_cons.mp ht with rfl | ht
      · exact Int.le_trans (Int.le_max_left _ _) hkey
      · rcases List.mem_cons.mp ht with rfl | ht
        · exact Int.le_trans (Int.le_max_right _ _) hkey
        · exact hle t (List.mem_cons_of_mem _ ht)

theorem isBest_bestScore? (l : List Float32) : IsBest (· ∈ l) (bestScore? l) := by
  cases l with
  | nil => exact fun t => List.not_mem_nil
  | cons s l => exact isBest_foldl s l

/-! ## Scores -/

/-- Whether an image that is no reference itself has the score against one of the references. -/
def Compares (x : Index) (sim : Similarity) (p : Pattern) (image : Image) (t : Float32) : Prop :=
  p.isMatch image.path = false ∧ ∃ ref ∈ x.images.values, p.isMatch ref.path = true ∧
    ∃ r f, ref.fingerprint = some r ∧ image.fingerprint = some f ∧ sim.score r f = some t

section

variable (x : Index) (sim : Similarity) (image : Image)

mutual

/-- Whether a query has a score for an image.  A comparison has one for each reference, and a
connective has the best score of each operand. -/
def Offers : Expr → Float32 → Prop
  | .metatag m, t => m.key = .similarTo ∧ Compares x sim m.pattern image t
  | .all es, t => satisfies x sim image (.all es) = true ∧ OffersAmong es t
  | .any es, t => OffersAmong es t
  | _, _ => False

/-- Whether a score is the best one that some query of a list has for an image. -/
def OffersAmong : List Expr → Float32 → Prop
  | [], _ => False
  | e :: es, t => IsBest (Offers e) (some t) ∨ OffersAmong es t

end

end

variable {x : Index} {sim : Similarity} {image : Image}

/-- Two fingerprints are near if they have a score. -/
theorem near_iff {ref image : Option Fingerprint} :
    near sim ref image = true
      ↔ ∃ t r f, ref = some r ∧ image = some f ∧ sim.score r f = some t := by
  cases ref with
  | none => simp [near]
  | some r =>
    cases image with
    | none => simp [near]
    | some f => simp [near, Similarity.score]

/-- An image resembles the references if it has a score against one of them. -/
theorem resembles_iff {p : Pattern} :
    resembles x sim p image = true ↔ ∃ t, Compares x sim p image t := by
  simp only [resembles, Compares, Bool.and_eq_true, Bool.not_eq_true', List.any_eq_true, near_iff]
  constructor
  · rintro ⟨hp, ref, hmem, hr, t, h⟩
    exact ⟨t, hp, ref, hmem, hr, h⟩
  · rintro ⟨t, hp, ref, hmem, hr, h⟩
    exact ⟨hp, ref, hmem, hr, t, h⟩

theorem offersAmong_iff {es : List Expr} {t : Float32} :
    OffersAmong x sim image es t ↔ ∃ e ∈ es, IsBest (Offers x sim image e) (some t) := by
  induction es with
  | nil => simp [OffersAmong]
  | cons e es ih => simp [OffersAmong, ih]

end Gallery.Query
