import Gallery.Proofs.Query.Answer

/-!
# `Gallery.Proofs.Query.Equivalence` — simplified queries have the same answers

Simplification is judged at one image: whatever labels and metatags hold there, a query and its
simplification are both true or both false.  That the answers are the same sets of images follows,
because answers are right at every image.

## Contents
- What is true of lists of operands: `all_distinct`, `all_factors`,
  `all_eq_false_of_hasComplements`, and the same for disjunctions.
- `holds_conjunction` and `holds_disjunction`; `holds_rewrite`, one pass; `holds_simplify`.
- The result: a query and its simplification have the same answer.
-/

namespace Gallery.Query

namespace Expr

variable {carries : String → Bool} {fits : Metatag → Bool}

/-! ## Operands -/

theorem holds_complement (e : Expr) :
    e.complement.holds carries fits = !e.holds carries fits := by
  cases e with
  | neg e => exact (Bool.not_not _).symm
  | _ => rfl

theorem all_distinct (es : List Expr) (p : Expr → Bool) : (distinct es).all p = es.all p := by
  rw [Bool.eq_iff_iff, List.all_eq_true, List.all_eq_true]
  exact forall_congr' fun e => by rw [mem_distinct]

theorem any_distinct (es : List Expr) (p : Expr → Bool) : (distinct es).any p = es.any p := by
  rw [Bool.eq_iff_iff, List.any_eq_true, List.any_eq_true]
  exact exists_congr fun e => by rw [mem_distinct]

/-- A query and its complement are not both true. -/
theorem all_eq_false_of_hasComplements {es : List Expr} (h : hasComplements es = true) :
    es.all (holds carries fits) = false := by
  obtain ⟨e, he, hc⟩ := List.any_eq_true.mp h
  rw [List.all_eq_false]
  cases ht : e.holds carries fits with
  | false => exact ⟨e, he, by rw [ht]; exact Bool.false_ne_true⟩
  | true =>
    refine ⟨e.complement, List.contains_iff_mem.mp hc, ?_⟩
    rw [holds_complement, ht]
    exact Bool.false_ne_true

/-- A query and its complement are not both false. -/
theorem any_eq_true_of_hasComplements {es : List Expr} (h : hasComplements es = true) :
    es.any (holds carries fits) = true := by
  obtain ⟨e, he, hc⟩ := List.any_eq_true.mp h
  rw [List.any_eq_true]
  cases ht : e.holds carries fits with
  | true => exact ⟨e, he, ht⟩
  | false =>
    refine ⟨e.complement, List.contains_iff_mem.mp hc, ?_⟩
    rw [holds_complement, ht]
    rfl

theorem all_factors (e : Expr) : e.factors.all (holds carries fits) = e.holds carries fits := by
  cases e with
  | everything => rfl
  | all es => exact (holdAll_eq es).symm
  | _ => exact Bool.and_true _

theorem any_alternatives (e : Expr) :
    e.alternatives.any (holds carries fits) = e.holds carries fits := by
  cases e with
  | nothing => rfl
  | any es => exact (holdsAny_eq es).symm
  | _ => exact Bool.or_false _

/-! ## One pass -/

theorem holds_conjunction (es : List Expr) :
    (conjunction es).holds carries fits = es.all (holds carries fits) := by
  unfold conjunction
  split
  · rename_i hnothing
    rw [holds, eq_comm, List.all_eq_false]
    exact ⟨nothing, List.contains_iff_mem.mp hnothing, Bool.false_ne_true⟩
  · have hflat : (distinct (es.flatMap factors)).all (holds carries fits)
        = es.all (holds carries fits) := by
      rw [all_distinct, List.all_flatMap]
      exact List.all_congr rfl all_factors
    generalize distinct (es.flatMap factors) = flat at hflat
    rw [← hflat]
    dsimp only
    split
    · rename_i hc
      exact (all_eq_false_of_hasComplements hc).symm
    · split
      · rfl
      · exact (Bool.and_true _).symm
      · rw [holds, holdAll_eq]
        exact (List.mergeSort_perm flat _).all_eq

theorem holds_disjunction (es : List Expr) :
    (disjunction es).holds carries fits = es.any (holds carries fits) := by
  unfold disjunction
  split
  · rename_i heverything
    rw [holds, eq_comm, List.any_eq_true]
    exact ⟨everything, List.contains_iff_mem.mp heverything, rfl⟩
  · have hflat : (distinct (es.flatMap alternatives)).any (holds carries fits)
        = es.any (holds carries fits) := by
      rw [any_distinct, List.any_flatMap]
      exact List.any_congr rfl any_alternatives
    generalize distinct (es.flatMap alternatives) = flat at hflat
    rw [← hflat]
    dsimp only
    split
    · rename_i hc
      exact (any_eq_true_of_hasComplements hc).symm
    · split
      · rfl
      · exact (Bool.or_false _).symm
      · exact holdsAny_eq flat

/-- Negations that have been moved inwards turn each connective into the other. -/
theorem holds_rewrite (negated : Bool) (e : Expr) :
    (rewrite negated e).holds carries fits = (negated ^^ e.holds carries fits) := by
  induction e using Expr.induction generalizing negated with
  | nothing | everything | tag | metatag => cases negated <;> simp [rewrite, holds]
  | neg e ih =>
    rw [rewrite, ih, holds, Bool.not_xor, Bool.xor_not]
  | all es ih =>
    rw [holds, holdAll_eq, rewrite, rewriteList_eq_map]
    cases negated with
    | false =>
      rw [if_neg Bool.false_ne_true, holds_conjunction, List.all_map, Bool.false_xor,
        Bool.eq_iff_iff]
      simp only [List.all_eq_true, Function.comp]
      exact forall₂_congr fun e he => by rw [ih e he, Bool.false_xor]
    | true =>
      rw [if_pos rfl, holds_disjunction, List.any_map, Bool.true_xor, List.not_all_eq_any_not,
        Bool.eq_iff_iff]
      simp only [List.any_eq_true, Function.comp]
      exact exists_congr fun e => and_congr_right fun he => by rw [ih e he, Bool.true_xor]
  | any es ih =>
    rw [holds, holdsAny_eq, rewrite, rewriteList_eq_map]
    cases negated with
    | false =>
      rw [if_neg Bool.false_ne_true, holds_disjunction, List.any_map, Bool.false_xor,
        Bool.eq_iff_iff]
      simp only [List.any_eq_true, Function.comp]
      exact exists_congr fun e => and_congr_right fun he => by rw [ih e he, Bool.false_xor]
    | true =>
      rw [if_pos rfl, holds_conjunction, List.all_map, Bool.true_xor, List.not_any_eq_all_not,
        Bool.eq_iff_iff]
      simp only [List.all_eq_true, Function.comp]
      exact forall₂_congr fun e he => by rw [ih e he, Bool.true_xor]

/-! ## All passes -/

/-- **A query and its simplification hold of the same images.** -/
theorem holds_simplify (e : Expr) : e.simplify.holds carries fits = e.holds carries fits := by
  have hpass : ∀ d : Expr, (rewrite false d).holds carries fits = d.holds carries fits := by
    intro d
    rw [holds_rewrite, Bool.false_xor]
  induction e using simplify.induct with
  | case1 e next h =>
    rw [simplify, if_pos h]
    exact hpass e
  | case2 e next h ih =>
    rw [simplify, if_neg h]
    exact ih.trans (hpass e)

end Expr

/-- **Simplifying a query does not change its answer**: both queries have one, and with the same
images. -/
theorem evaluate_simplify (changes : List IndexChange) (sim : Similarity) (e : Expr) :
    ∃ m n, evaluate .never ((∅ : Index).applyAll changes) sim e.simplify = .ok m
      ∧ evaluate .never ((∅ : Index).applyAll changes) sim e = .ok n ∧ m.ids = n.ids := by
  have hx := Index.coherent_applyAll Index.coherent_empty changes
  obtain ⟨m, hm, hm'⟩ := describes_evaluate hx sim e.simplify
  obtain ⟨n, hn, hn'⟩ := describes_evaluate hx sim e
  refine ⟨m, n, hm, hn, KeySet.ext_has fun id => ?_⟩
  rw [Bool.eq_iff_iff, hm'.has_iff, hn'.has_iff]
  exact exists_congr fun image => and_congr_right fun _ => by
    rw [satisfies, Expr.holds_simplify, satisfies]

end Gallery.Query
