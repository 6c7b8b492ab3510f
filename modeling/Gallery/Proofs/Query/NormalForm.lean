import Gallery.Proofs.Query.Leaves

/-!
# `Gallery.Proofs.Query.NormalForm` — what simplified queries look like

Simplified queries are in a normal form: a constant, or a query that is neat at each of its places.
Neatness is said here of a place on its own, whatever has been done to get there.  The normal forms are
the queries that a pass leaves as they are, and one pass leads to a normal form; so a second pass
ends the simplification, and operands may as well be simplified beforehand.

## Contents
- `Part`, the places of a query, and `Neat`, what the normal form asks of a place; `isNormal_iff_neat`.
- `passes`, the passes of a simplification with a bound on their number; `simplify_of_passes`.
- The results: the shape of simplified queries, and how few passes there are.
-/

namespace Gallery.Query.Expr

variable {d e r : Expr} {es : List Expr}

/-! ## The shape of simplified queries -/

/-- The places of a query: a query is a part of itself, and of what its operators are applied to
every part is one of the query. -/
inductive Part : Expr → Expr → Prop
  | self (e : Expr) : Part e e
  | neg {d e : Expr} (h : Part d e) : Part d (neg e)
  | all {d e : Expr} {es : List Expr} (he : e ∈ es) (h : Part d e) : Part d (all es)
  | any {d e : Expr} {es : List Expr} (he : e ∈ es) (h : Part d e) : Part d (any es)

/-- Two or more operands, no two of them the same and none the negation of another. -/
structure Separate (es : List Expr) : Prop where
  two : 2 ≤ es.length
  distinct : es.Nodup
  consistent : ∀ e ∈ es, neg e ∉ es

/-- What the normal form asks of a place: no constant, negations at tags and metatags only, separate
operands that are not of the connective's own kind, and those of a conjunction in the order of
their cost. -/
def Neat : Expr → Prop
  | nothing | everything => False
  | tag _ | metatag _ => True
  | neg e => (∃ l, e = tag l) ∨ ∃ m, e = metatag m
  | all es => Separate es ∧ (∀ ds, all ds ∉ es) ∧ es.Pairwise fun d e => d.cost ≤ e.cost
  | any es => Separate es ∧ ∀ ds, any ds ∉ es

/-- Of two complements, one is the negation of the other. -/
theorem hasComplements_eq_false_iff : hasComplements es = false ↔ ∀ e ∈ es, neg e ∉ es := by
  rw [hasComplements, List.any_eq_false]
  simp only [List.contains_iff_mem]
  constructor
  · intro h e he hneg
    exact h (neg e) hneg he
  · intro h e he hc
    cases e with
    | neg d => exact h d hc he
    | _ => exact h _ he hc

theorem separate_iff :
    Separate es ↔ 2 ≤ es.length ∧ es.Nodup ∧ hasComplements es = false := by
  rw [hasComplements_eq_false_iff]
  exact ⟨fun ⟨two, distinct, consistent⟩ => ⟨two, distinct, consistent⟩,
    fun ⟨two, distinct, consistent⟩ => ⟨two, distinct, consistent⟩⟩

theorem forall_isAll_eq_false_iff : (∀ e ∈ es, e.isAll = false) ↔ ∀ ds, all ds ∉ es := by
  constructor
  · exact fun h ds hds => Bool.noConfusion (h _ hds)
  · intro h e he
    cases e with
    | all ds => exact absurd he (h ds)
    | _ => rfl

theorem forall_isAny_eq_false_iff : (∀ e ∈ es, e.isAny = false) ↔ ∀ ds, any ds ∉ es := by
  constructor
  · exact fun h ds hds => Bool.noConfusion (h _ hds)
  · intro h e he
    cases e with
    | any ds => exact absurd he (h ds)
    | _ => rfl

/-- The reduced queries are those that are neat at every place. -/
theorem reduced_iff_neat : Reduced e ↔ ∀ d, Part d e → Neat d := by
  constructor
  · intro h
    induction h with
    | tag | metatag =>
      rintro d ⟨⟩
      exact trivial
    | negTag l =>
      rintro d (_ | ⟨⟨⟩⟩)
      · exact .inl ⟨l, rfl⟩
      · exact trivial
    | negMetatag m =>
      rintro d (_ | ⟨⟨⟩⟩)
      · exact .inr ⟨m, rfl⟩
      · exact trivial
    | all two distinct consistent sorted _ flat ih =>
      intro d hd
      cases hd with
      | self => exact ⟨separate_iff.mpr ⟨two, distinct, consistent⟩,
          forall_isAll_eq_false_iff.mp flat, sorted⟩
      | all he hd => exact ih _ he d hd
    | any two distinct consistent _ flat ih =>
      intro d hd
      cases hd with
      | self => exact ⟨separate_iff.mpr ⟨two, distinct, consistent⟩,
          forall_isAny_eq_false_iff.mp flat⟩
      | any he hd => exact ih _ he d hd
  · intro h
    have hself := h e (.self e)
    induction e using Expr.induction with
    | nothing | everything => exact hself.elim
    | tag l => exact .tag l
    | metatag m => exact .metatag m
    | neg e _ =>
      rcases hself with ⟨l, rfl⟩ | ⟨m, rfl⟩
      · exact .negTag l
      · exact .negMetatag m
    | all es ih =>
      obtain ⟨hseparate, hflat, hsorted⟩ := hself
      obtain ⟨two, distinct, consistent⟩ := separate_iff.mp hseparate
      refine .all two distinct consistent hsorted (fun e he => ?_)
        (forall_isAll_eq_false_iff.mpr hflat)
      exact ih e he (fun d hd => h d (.all he hd)) (h e (.all he (.self e)))
    | any es ih =>
      obtain ⟨hseparate, hflat⟩ := hself
      obtain ⟨two, distinct, consistent⟩ := separate_iff.mp hseparate
      refine .any two distinct consistent (fun e he => ?_) (forall_isAny_eq_false_iff.mpr hflat)
      exact ih e he (fun d hd => h d (.any he hd)) (h e (.any he (.self e)))

theorem isNormal_iff_neat :
    IsNormal e ↔ e = nothing ∨ e = everything ∨ ∀ d, Part d e → Neat d := by
  rw [IsNormal, reduced_iff_neat]

/-- **The shape of simplified queries.**  A simplified query is a constant or neat at all of its
places, and its labels and metatags are some of those of the query that it is made from.  No other
shape would do: what is a constant or neat at all of its places is left as it is. -/
theorem simplify_neat (e : Expr) :
    (e.simplify = nothing ∨ e.simplify = everything ∨ ∀ d, Part d e.simplify → Neat d)
      ∧ (∀ l ∈ e.simplify.occurrences, l ∈ e.occurrences)
      ∧ (∀ m ∈ e.simplify.metatags, m ∈ e.metatags)
      ∧ (e.simplify = e ↔ e = nothing ∨ e = everything ∨ ∀ d, Part d e → Neat d) := by
  have hleaves : e.simplify.Leaves (· ∈ e.occurrences) (· ∈ e.metatags) :=
    leaves_simplify ⟨fun _ hl => hl, fun _ hm => hm⟩
  refine ⟨isNormal_iff_neat.mp (isNormal_simplify e), hleaves.labels, hleaves.metatags, ?_⟩
  rw [← isNormal_iff_neat]
  exact ⟨fun h => h ▸ isNormal_simplify e, simplify_of_isNormal⟩

/-! ## Passes -/

/-- What the passes of a simplification lead to, if at most the given number of them is needed.  The
pass that finds nothing to do counts. -/
def passes : Nat → Expr → Option Expr
  | 0, _ => none
  | n + 1, e => if rewrite false e = e then some e else passes n (rewrite false e)

/-- A simplification within a bound is one without. -/
theorem simplify_of_passes {n : Nat} (h : passes n e = some r) : e.simplify = r := by
  induction n generalizing e with
  | zero => cases h
  | succ n ih =>
    rw [simplify]
    rw [passes] at h
    by_cases hfixed : rewrite false e = e
    · rw [if_pos hfixed] at h ⊢
      exact hfixed.trans (Option.some.inj h)
    · rw [if_neg hfixed] at h ⊢
      exact ih h

/-- Two passes are enough, of which the second changes nothing. -/
theorem passes_two (e : Expr) : passes 2 e = some (rewrite false e) := by
  rw [passes]
  split
  · rename_i h
    rw [h]
  · rw [passes, if_pos (rewrite_rewrite e)]

theorem simplify_simplify (e : Expr) : e.simplify.simplify = e.simplify :=
  simplify_of_isNormal (isNormal_simplify e)

theorem simplify_all (es : List Expr) : (all es).simplify = conjunction (es.map simplify) := by
  rw [simplify_eq_rewrite, rewrite, if_neg Bool.false_ne_true, rewriteList_eq_map]
  exact congrArg conjunction (List.map_congr_left fun e _ => (simplify_eq_rewrite e).symm)

theorem simplify_any (es : List Expr) : (any es).simplify = disjunction (es.map simplify) := by
  rw [simplify_eq_rewrite, rewrite, if_neg Bool.false_ne_true, rewriteList_eq_map]
  exact congrArg disjunction (List.map_congr_left fun e _ => (simplify_eq_rewrite e).symm)

/-- Simplifying each query of a list a second time changes none. -/
theorem map_simplify_map (es : List Expr) : (es.map simplify).map simplify = es.map simplify := by
  rw [List.map_map]
  exact List.map_congr_left fun e _ => simplify_simplify e

/-- **How few passes there are.**  A second pass changes nothing, so a simplification ends within two
passes, and its result is that of the first.  Simplifying again changes nothing, neither after a
simplification nor below a connective whose operands have been simplified. -/
theorem simplify_two_passes (e : Expr) :
    rewrite false (rewrite false e) = rewrite false e
      ∧ passes 2 e = some e.simplify
      ∧ e.simplify = rewrite false e
      ∧ e.simplify.simplify = e.simplify
      ∧ (∀ es, (all es).simplify = (all (es.map simplify)).simplify)
      ∧ ∀ es, (any es).simplify = (any (es.map simplify)).simplify := by
  have hpass : e.simplify = rewrite false e := simplify_of_passes (passes_two e)
  refine ⟨rewrite_rewrite e, ?_, hpass, simplify_simplify e, fun es => ?_, fun es => ?_⟩
  · rw [passes_two, hpass]
  · rw [simplify_all, simplify_all, map_simplify_map]
  · rw [simplify_any, simplify_any, map_simplify_map]

end Gallery.Query.Expr
