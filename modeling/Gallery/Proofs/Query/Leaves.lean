import Gallery.Proofs.Query.Expansion
import Gallery.Proofs.Query.Printing

/-!
# `Gallery.Proofs.Query.Leaves` — what passes change of a query and what they leave

Expanding and simplifying rebuild a query from its leaves.  Neither invents a metatag; expanding
replaces labels by those of definitions, and simplifying only drops some.  So what all leaves have in
common before a pass they have in common after it.

## Contents
- `Leaves`, what all labels and all metatags of a query have in common, with one equivalence for each
  constructor.
- `leaves_rewrite` and `leaves_simplify`; `leaves_of_expands`, the labels of an expansion are plain.
- `simplify_eq_rewrite`, one pass is enough; `Reduced.isFlat` and `Reduced.readable`, what the results
  are for the printer.
-/

namespace Gallery.Query

namespace Expr

/-- All labels of a query have `P`, and all its metatags have `Q`. -/
structure Leaves (P : String → Prop) (Q : Metatag → Prop) (e : Expr) : Prop where
  labels : ∀ l ∈ e.occurrences, P l
  metatags : ∀ m ∈ e.metatags, Q m

variable {P : String → Prop} {Q : Metatag → Prop} {e : Expr} {es : List Expr} {l : String}
  {m : Metatag}

theorem mem_metatagsList : m ∈ metatagsList es ↔ ∃ e ∈ es, m ∈ e.metatags := by
  induction es with
  | nil => simp [metatagsList]
  | cons e es ih => simp [metatagsList, ih]

/-! ## One equivalence for each constructor -/

theorem leaves_nothing : Leaves P Q nothing := ⟨nofun, nofun⟩

theorem leaves_everything : Leaves P Q everything := ⟨nofun, nofun⟩

theorem leaves_tag_iff : Leaves P Q (tag l) ↔ P l :=
  ⟨fun h => h.labels l List.mem_cons_self, fun h => ⟨List.forall_mem_singleton.mpr h, nofun⟩⟩

theorem leaves_metatag_iff : Leaves P Q (metatag m) ↔ Q m :=
  ⟨fun h => h.metatags m List.mem_cons_self, fun h => ⟨nofun, List.forall_mem_singleton.mpr h⟩⟩

theorem leaves_neg_iff : Leaves P Q (neg e) ↔ Leaves P Q e :=
  ⟨fun h => ⟨h.labels, h.metatags⟩, fun h => ⟨h.labels, h.metatags⟩⟩

theorem leaves_all_iff : Leaves P Q (all es) ↔ ∀ e ∈ es, Leaves P Q e := by
  constructor
  · exact fun h e he => ⟨fun l hl => h.labels l (mem_occurrencesList.mpr ⟨e, he, hl⟩),
      fun m hm => h.metatags m (mem_metatagsList.mpr ⟨e, he, hm⟩)⟩
  · refine fun h => ⟨fun l hl => ?_, fun m hm => ?_⟩
    · obtain ⟨e, he, hl⟩ := mem_occurrencesList.mp hl
      exact (h e he).labels l hl
    · obtain ⟨e, he, hm⟩ := mem_metatagsList.mp hm
      exact (h e he).metatags m hm

/-- A disjunction has the leaves of the conjunction of its operands. -/
theorem leaves_any_iff : Leaves P Q (any es) ↔ ∀ e ∈ es, Leaves P Q e :=
  ⟨fun h => leaves_all_iff.mp ⟨h.labels, h.metatags⟩,
    fun h => ⟨(leaves_all_iff.mpr h).labels, (leaves_all_iff.mpr h).metatags⟩⟩

/-! ## Simplifying -/

theorem leaves_of_mem_factors {d : Expr} (h : Leaves P Q e) (hd : d ∈ e.factors) :
    Leaves P Q d := by
  cases e with
  | everything => exact absurd hd List.not_mem_nil
  | all es => exact leaves_all_iff.mp h d hd
  | _ => exact List.mem_singleton.mp hd ▸ h

theorem leaves_of_mem_alternatives {d : Expr} (h : Leaves P Q e) (hd : d ∈ e.alternatives) :
    Leaves P Q d := by
  cases e with
  | nothing => exact absurd hd List.not_mem_nil
  | any es => exact leaves_any_iff.mp h d hd
  | _ => exact List.mem_singleton.mp hd ▸ h

theorem leaves_conjunction (h : ∀ e ∈ es, Leaves P Q e) : Leaves P Q (conjunction es) := by
  have hflat : ∀ d ∈ distinct (es.flatMap factors), Leaves P Q d := by
    intro d hd
    obtain ⟨e, he, hd⟩ := List.mem_flatMap.mp (mem_distinct.mp hd)
    exact leaves_of_mem_factors (h e he) hd
  unfold conjunction
  split
  · exact leaves_nothing
  · generalize distinct (es.flatMap factors) = flat at hflat
    dsimp only
    split
    · exact leaves_nothing
    · split
      · exact leaves_everything
      · exact hflat _ List.mem_cons_self
      · exact leaves_all_iff.mpr fun d hd => hflat d (List.mem_mergeSort.mp hd)

theorem leaves_disjunction (h : ∀ e ∈ es, Leaves P Q e) : Leaves P Q (disjunction es) := by
  have hflat : ∀ d ∈ distinct (es.flatMap alternatives), Leaves P Q d := by
    intro d hd
    obtain ⟨e, he, hd⟩ := List.mem_flatMap.mp (mem_distinct.mp hd)
    exact leaves_of_mem_alternatives (h e he) hd
  unfold disjunction
  split
  · exact leaves_everything
  · generalize distinct (es.flatMap alternatives) = flat at hflat
    dsimp only
    split
    · exact leaves_everything
    · split
      · exact leaves_nothing
      · exact hflat _ List.mem_cons_self
      · exact leaves_any_iff.mpr hflat

/-- A pass adds no leaf. -/
theorem leaves_rewrite (negated : Bool) (h : Leaves P Q e) : Leaves P Q (rewrite negated e) := by
  induction e using Expr.induction generalizing negated with
  | nothing | everything => cases negated <;> first | exact leaves_nothing | exact leaves_everything
  | tag l =>
    cases negated
    · exact h
    · exact leaves_neg_iff.mpr h
  | metatag m =>
    cases negated
    · exact h
    · exact leaves_neg_iff.mpr h
  | neg e ih => exact ih (!negated) (leaves_neg_iff.mp h)
  | all es ih =>
    have hes : ∀ d ∈ rewriteList negated es, Leaves P Q d := by
      intro d hd
      rw [rewriteList_eq_map] at hd
      obtain ⟨e, he, rfl⟩ := List.mem_map.mp hd
      exact ih e he negated (leaves_all_iff.mp h e he)
    rw [rewrite]
    split
    · exact leaves_disjunction hes
    · exact leaves_conjunction hes
  | any es ih =>
    have hes : ∀ d ∈ rewriteList negated es, Leaves P Q d := by
      intro d hd
      rw [rewriteList_eq_map] at hd
      obtain ⟨e, he, rfl⟩ := List.mem_map.mp hd
      exact ih e he negated (leaves_any_iff.mp h e he)
    rw [rewrite]
    split
    · exact leaves_conjunction hes
    · exact leaves_disjunction hes

/-- The second pass finds nothing to do. -/
theorem simplify_eq_rewrite (e : Expr) : e.simplify = rewrite false e := by
  rw [simplify]
  split
  · rfl
  · rw [simplify, rewrite_rewrite]
    exact if_pos rfl

theorem leaves_simplify (h : Leaves P Q e) : Leaves P Q e.simplify := by
  rw [simplify_eq_rewrite]
  exact leaves_rewrite false h

theorem isNormal_simplify (e : Expr) : IsNormal e.simplify := by
  rw [simplify_eq_rewrite]
  exact isNormal_rewrite false e

theorem simplify_of_isNormal (h : IsNormal e) : e.simplify = e := by
  rw [simplify_eq_rewrite, rewrite_of_isNormal h]

/-! ## Reduced queries in texts -/

theorem Reduced.isFlat (h : Reduced e) : IsFlat e := by
  induction h with
  | tag l => exact .tag l
  | metatag m => exact .metatag m
  | negTag l => exact .neg (.tag l)
  | negMetatag m => exact .neg (.metatag m)
  | all _ _ _ _ _ flat ih => exact .all ih flat
  | any _ _ _ _ flat ih => exact .any ih flat

/-- A reduced query is readable if its leaves are. -/
theorem Reduced.readable (h : Reduced e)
    (hl : Leaves (isValidLabel · = true) Metatag.Readable e) : e.Readable := by
  induction h with
  | tag l => exact .tag (leaves_tag_iff.mp hl)
  | metatag m => exact .metatag (leaves_metatag_iff.mp hl)
  | negTag l => exact .neg (.tag (leaves_tag_iff.mp (leaves_neg_iff.mp hl)))
  | negMetatag m => exact .neg (.metatag (leaves_metatag_iff.mp (leaves_neg_iff.mp hl)))
  | all two _ _ _ _ _ ih => exact .all two fun e he => ih e he (leaves_all_iff.mp hl e he)
  | any two _ _ _ _ ih => exact .any two fun e he => ih e he (leaves_any_iff.mp hl e he)

theorem Readable.leaves (h : e.Readable) :
    Leaves (isValidLabel · = true) Metatag.Readable e := by
  induction h with
  | tag h => exact leaves_tag_iff.mpr h
  | metatag h => exact leaves_metatag_iff.mpr h
  | neg _ ih => exact leaves_neg_iff.mpr ih
  | all _ _ ih => exact leaves_all_iff.mpr ih
  | any _ _ ih => exact leaves_any_iff.mpr ih

end Expr

/-! ## Expanding -/

/-- The labels of an expansion are labels of plain tags, and all its leaves stand in texts. -/
theorem Expands.leaves {c : Catalog} {e r : Expr} (h : Expands c e r)
    (he : e.Leaves (isValidLabel · = true) Metatag.Readable) :
    r.Leaves (fun l => isValidLabel l = true ∧ c.meaning l = .plain) Metatag.Readable := by
  induction h with
  | nothing => exact Expr.leaves_nothing
  | everything => exact Expr.leaves_everything
  | metatag m => exact Expr.leaves_metatag_iff.mpr (Expr.leaves_metatag_iff.mp he)
  | unknown => exact Expr.leaves_nothing
  | plain hl => exact Expr.leaves_tag_iff.mpr ⟨Expr.leaves_tag_iff.mp he, hl⟩
  | compound _ hp _ ih => exact ih (parse_eq_ok_iff.mp hp).readable.1.leaves
  | neg _ ih => exact Expr.leaves_neg_iff.mpr (ih (Expr.leaves_neg_iff.mp he))
  | allNil => exact Expr.leaves_all_iff.mpr nofun
  | anyNil => exact Expr.leaves_any_iff.mpr nofun
  | allCons _ _ ih ihs =>
    obtain ⟨hhead, htail⟩ := List.forall_mem_cons.mp (Expr.leaves_all_iff.mp he)
    have hrest := Expr.leaves_all_iff.mp (ihs (Expr.leaves_all_iff.mpr htail))
    exact Expr.leaves_all_iff.mpr (List.forall_mem_cons.mpr ⟨ih hhead, hrest⟩)
  | anyCons _ _ ih ihs =>
    obtain ⟨hhead, htail⟩ := List.forall_mem_cons.mp (Expr.leaves_any_iff.mp he)
    have hrest := Expr.leaves_any_iff.mp (ihs (Expr.leaves_any_iff.mpr htail))
    exact Expr.leaves_any_iff.mpr (List.forall_mem_cons.mpr ⟨ih hhead, hrest⟩)

end Gallery.Query
