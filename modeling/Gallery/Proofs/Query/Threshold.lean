import Gallery.Proofs.Query.Scores
import Mathlib.Algebra.Ring.Parity

/-!
# `Gallery.Proofs.Query.Threshold` — more images are similar under a larger threshold

A larger threshold makes more fingerprints similar, so a comparison finds more images under it.  A query
finds more as well if each of its comparisons stands under an even number of negations, and fewer if
each stands under an odd number.  It does not matter how the two evaluations come to their answers: each
holds the images that satisfy the query.

## Contents
- `Expr.depths`, the number of negations above each comparison.
- `satisfies_mono`, by induction over queries, for both parities at once.
- The result: the images of an answer under two thresholds.
-/

namespace Gallery.Query

mutual

/-- For each comparison of a query, the number of negations that it stands under. -/
def Expr.depths : Expr → List Nat
  | .metatag m => if m.key = .similarTo then [0] else []
  | .neg e => e.depths.map (· + 1)
  | .all es => Expr.depthsList es
  | .any es => Expr.depthsList es
  | _ => []

/-- The same for the comparisons of several queries. -/
def Expr.depthsList : List Expr → List Nat
  | [] => []
  | e :: es => e.depths ++ Expr.depthsList es

end

variable {x : Index} {sim sim' : Similarity} {image : Image} {es : List Expr}

theorem Expr.mem_depthsList {d : Nat} : d ∈ Expr.depthsList es ↔ ∃ e ∈ es, d ∈ e.depths := by
  induction es with
  | nil => simp [Expr.depthsList]
  | cons e es ih => simp [Expr.depthsList, ih]

/-! ## Comparisons -/

theorem near_mono {metric : Fingerprint → Fingerprint → UInt32} {s t : UInt32} (h : s ≤ t)
    {ref image : Option Fingerprint} (hnear : near ⟨s, metric⟩ ref image = true) :
    near ⟨t, metric⟩ ref image = true := by
  cases ref with
  | none => exact hnear
  | some r =>
    cases image with
    | none => exact hnear
    | some f => exact decide_eq_true (UInt32.le_trans (of_decide_eq_true hnear) h)

/-- What resembles a reference under one similarity does so under one that compares more. -/
theorem resembles_mono (h : ∀ ref image, near sim ref image = true → near sim' ref image = true)
    {p : Pattern} (hresembles : resembles x sim p image = true) :
    resembles x sim' p image = true := by
  simp only [resembles, Bool.and_eq_true, List.any_eq_true] at hresembles ⊢
  obtain ⟨hp, ref, hmem, href, hnear⟩ := hresembles
  exact ⟨hp, ref, hmem, href, h _ _ hnear⟩

/-- Metadata other than fingerprints do not depend on the similarity. -/
theorem metadataFit_of_ne {m : Metatag} (hkey : m.key ≠ .similarTo) :
    metadataFit x sim image m = metadataFit x sim' image m := by
  unfold metadataFit
  split
  · rfl
  · rfl
  · rfl
  · rename_i heq
    exact absurd heq hkey

/-! ## Queries -/

/-- **Polarity.**  If more fingerprints are near, a query still holds where it did when all comparisons
are under an even number of negations, and it held before where it does now when all are under an odd
number. -/
theorem satisfies_mono (h : ∀ ref image, near sim ref image = true → near sim' ref image = true)
    (image : Image) (e : Expr) :
    ((∀ d ∈ e.depths, Even d) → satisfies x sim image e = true → satisfies x sim' image e = true)
      ∧ ((∀ d ∈ e.depths, Odd d) →
          satisfies x sim' image e = true → satisfies x sim image e = true) := by
  -- A negation makes the even depths odd and the odd ones even, so both parities are shown together.
  induction e using Expr.induction with
  | nothing | everything | tag => exact ⟨fun _ hs => hs, fun _ hs => hs⟩
  | metatag m =>
    by_cases hkey : m.key = .similarTo
    · refine ⟨fun _ hs => ?_, fun hodd => ?_⟩
      · have hfit : metadataFit x sim image m = true := hs
        show metadataFit x sim' image m = true
        rw [metadataFit, hkey] at hfit ⊢
        exact resembles_mono h hfit
      · have hzero : Odd 0 := hodd 0 (by simp [Expr.depths, hkey])
        exact absurd hzero (by decide)
    · have hsame : satisfies x sim image (.metatag m) = satisfies x sim' image (.metatag m) :=
        metadataFit_of_ne hkey
      exact ⟨fun _ hs => hsame ▸ hs, fun _ hs => hsame ▸ hs⟩
  | neg e ih =>
    simp only [Expr.depths, List.forall_mem_map, satisfies_neg, Bool.not_eq_true']
    refine ⟨fun heven hs => ?_, fun hodd hs => ?_⟩
    · have hodd : ∀ d ∈ e.depths, Odd d := fun d hd =>
        Nat.not_even_iff_odd.mp (Nat.even_add_one.mp (heven d hd))
      rw [Bool.eq_false_iff] at hs ⊢
      exact fun hs' => hs (ih.2 hodd hs')
    · have heven : ∀ d ∈ e.depths, Even d := fun d hd => by
        have hnext := hodd d hd
        rwa [Nat.odd_add_one, Nat.not_odd_iff_even] at hnext
      rw [Bool.eq_false_iff] at hs ⊢
      exact fun hs' => hs (ih.1 heven hs')
  | all es ih =>
    simp only [Expr.depths, Expr.mem_depthsList, satisfies_all, List.all_eq_true]
    refine ⟨fun heven hs e he => ?_, fun hodd hs e he => ?_⟩
    · exact (ih e he).1 (fun d hd => heven d ⟨e, he, hd⟩) (hs e he)
    · exact (ih e he).2 (fun d hd => hodd d ⟨e, he, hd⟩) (hs e he)
  | any es ih =>
    simp only [Expr.depths, Expr.mem_depthsList, satisfies_any, List.any_eq_true]
    refine ⟨fun heven hs => ?_, fun hodd hs => ?_⟩
    · obtain ⟨e, he, hs⟩ := hs
      exact ⟨e, he, (ih e he).1 (fun d hd => heven d ⟨e, he, hd⟩) hs⟩
    · obtain ⟨e, he, hs⟩ := hs
      exact ⟨e, he, (ih e he).2 (fun d hd => hodd d ⟨e, he, hd⟩) hs⟩

/-- **A larger threshold finds more images**, on every index that changes lead to and for every metric,
if all comparisons of the query stand under an even number of negations, and fewer if all stand under an
odd number. -/
theorem evaluate_threshold (changes : List IndexChange)
    (metric : Fingerprint → Fingerprint → UInt32) {s t : UInt32} (h : s ≤ t) (e : Expr) :
    ∃ m n, evaluate .never ((∅ : Index).applyAll changes) ⟨s, metric⟩ e = .ok m
      ∧ evaluate .never ((∅ : Index).applyAll changes) ⟨t, metric⟩ e = .ok n
      ∧ ((∀ d ∈ e.depths, Even d) → ∀ id, m.ids.has id = true → n.ids.has id = true)
      ∧ ((∀ d ∈ e.depths, Odd d) → ∀ id, n.ids.has id = true → m.ids.has id = true) := by
  have hx := Index.coherent_applyAll Index.coherent_empty changes
  obtain ⟨m, hm, hm'⟩ := describes_evaluate hx ⟨s, metric⟩ e
  obtain ⟨n, hn, hn'⟩ := describes_evaluate hx ⟨t, metric⟩ e
  have hnear : ∀ ref image, near ⟨s, metric⟩ ref image = true → near ⟨t, metric⟩ ref image = true :=
    fun _ _ => near_mono h
  have hmono := fun image => satisfies_mono (x := (∅ : Index).applyAll changes) hnear image e
  refine ⟨m, n, hm, hn, fun heven id hid => ?_, fun hodd id hid => ?_⟩
  · obtain ⟨image, hg, hs⟩ := (hm'.has_iff id).mp hid
    exact (hn'.has_iff id).mpr ⟨image, hg, (hmono image).1 heven hs⟩
  · obtain ⟨image, hg, hs⟩ := (hn'.has_iff id).mp hid
    exact (hm'.has_iff id).mpr ⟨image, hg, (hmono image).2 hodd hs⟩

/-- Red, or not unlike the first image. -/
def redOrAlike : Expr := .any [.tag "red", .neg (.neg (.metatag alike))]

theorem evaluate_threshold_redOrAlike : (1 : UInt32) ≤ 10 ∧ (∀ d ∈ redOrAlike.depths, Even d)
    ∧ ∃ m n, evaluate .never ((∅ : Index).applyAll alikeImages) ⟨1, hammingDistance⟩ redOrAlike = .ok m
      ∧ evaluate .never ((∅ : Index).applyAll alikeImages) ⟨10, hammingDistance⟩ redOrAlike = .ok n
      ∧ m.ids.has 2 = true ∧ n.ids.has 2 = true := by
  have hle : (1 : UInt32) ≤ 10 := by decide
  have heven : ∀ d ∈ redOrAlike.depths, Even d := by decide +kernel
  have hfound : (evaluate .never ((∅ : Index).applyAll alikeImages) ⟨1, hammingDistance⟩
      redOrAlike).toOption.any (·.ids.has 2) = true := by decide +kernel
  obtain ⟨m, n, hm, hn, hmore, -⟩ :=
    evaluate_threshold alikeImages hammingDistance hle redOrAlike
  rw [hm] at hfound
  exact ⟨hle, heven, m, n, hm, hn, hfound, hmore heven 2 hfound⟩

end Gallery.Query
