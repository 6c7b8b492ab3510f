import Gallery.Query.Expr

/-!
# `Gallery.Query.Simplify` — equivalent queries that are cheaper to answer

Simplification moves negations down to tags and metatags, flattens nested connectives, and removes
repetitions, contradictions and constants.  The operands of a conjunction are sorted by cost, so that
the cheapest is answered first.

## Contents
- `cost`, the static cost of a query.
- `rewrite`, one pass, with `conjunction` and `disjunction`, which join operands that are
  themselves rewritten.
- `Reduced` and `IsNormal`, the shape of the results; `isNormal_rewrite` and `rewrite_of_isNormal`.
- `simplify`, passes until nothing changes; the lemmas above end it.
-/

namespace Gallery.Query

namespace Expr

/-! ## Cost -/

mutual

/-- How much work it is to answer a query, as one of a few grades: a tag is a single look-up, the
metadata of all images have to be scanned, fingerprints have to be compared. -/
def cost : Expr → Nat
  | nothing | everything => 0
  | tag _ => 1
  | metatag m =>
    match m.key with
    | .type => 3
    | .name | .path => 5
    | .similarTo => 6
  | neg (tag _) => 2
  | neg e => e.cost
  | all es => costList es
  | any es => max (costList es) 4

/-- The cost of the most expensive of some queries. -/
def costList : List Expr → Nat
  | [] => 0
  | e :: es => max e.cost (costList es)

end

/-! ## One pass -/

/-- The query that holds where `e` does not, without a double negation. -/
def complement : Expr → Expr
  | neg e => e
  | e => neg e

/-- Whether the list holds some query together with its complement. -/
def hasComplements (es : List Expr) : Bool := es.any fun e => es.contains e.complement

/-- What a query adds to the operands of a conjunction. -/
def factors : Expr → List Expr
  | everything => []
  | all es => es
  | e => [e]

/-- What a query adds to the operands of a disjunction. -/
def alternatives : Expr → List Expr
  | nothing => []
  | any es => es
  | e => [e]

/-- The conjunction of rewritten queries. -/
def conjunction (es : List Expr) : Expr :=
  if es.contains nothing then nothing
  else
    let flat := distinct (es.flatMap factors)
    if hasComplements flat then nothing
    else
      match flat with
      | [] => everything
      | [e] => e
      | _ => all (flat.mergeSort fun d e => d.cost ≤ e.cost)

/-- The disjunction of rewritten queries. -/
def disjunction (es : List Expr) : Expr :=
  if es.contains everything then everything
  else
    let flat := distinct (es.flatMap alternatives)
    if hasComplements flat then everything
    else
      match flat with
      | [] => nothing
      | [e] => e
      | _ => any flat

mutual

/-- Rewrites a query, or its negation if `negated`. -/
def rewrite (negated : Bool) : Expr → Expr
  | nothing => if negated then everything else nothing
  | everything => if negated then nothing else everything
  | tag l => if negated then neg (tag l) else tag l
  | metatag m => if negated then neg (metatag m) else metatag m
  | neg e => rewrite (!negated) e
  | all es =>
    if negated then disjunction (rewriteList negated es) else conjunction (rewriteList negated es)
  | any es =>
    if negated then conjunction (rewriteList negated es) else disjunction (rewriteList negated es)

/-- Rewrites each query of a list. -/
def rewriteList (negated : Bool) : List Expr → List Expr
  | [] => []
  | e :: es => rewrite negated e :: rewriteList negated es

end

theorem rewriteList_eq_map (negated : Bool) (es : List Expr) :
    rewriteList negated es = es.map (rewrite negated) := by
  induction es with
  | nil => rfl
  | cons e es ih => simp [rewriteList, ih]

/-! ## The shape of the results -/

/-- Whether a query is a conjunction. -/
def isAll : Expr → Bool
  | all _ => true
  | _ => false

/-- Whether a query is a disjunction. -/
def isAny : Expr → Bool
  | any _ => true
  | _ => false

/-- A query without constants whose negations stand at tags and metatags only and whose connectives
have two or more different operands, none of them the complement of another or of the connective's
own kind; conjunctions are sorted by cost. -/
inductive Reduced : Expr → Prop
  | tag (l : String) : Reduced (tag l)
  | metatag (m : Metatag) : Reduced (metatag m)
  | negTag (l : String) : Reduced (neg (.tag l))
  | negMetatag (m : Metatag) : Reduced (neg (.metatag m))
  | all {es : List Expr} (two : 2 ≤ es.length) (distinct : es.Nodup)
      (consistent : hasComplements es = false) (sorted : es.Pairwise fun d e => d.cost ≤ e.cost)
      (reduced : ∀ e ∈ es, Reduced e) (flat : ∀ e ∈ es, e.isAll = false) : Reduced (all es)
  | any {es : List Expr} (two : 2 ≤ es.length) (distinct : es.Nodup)
      (consistent : hasComplements es = false)
      (reduced : ∀ e ∈ es, Reduced e) (flat : ∀ e ∈ es, e.isAny = false) : Reduced (any es)

/-- A constant or a reduced query. -/
def IsNormal (e : Expr) : Prop := e = nothing ∨ e = everything ∨ Reduced e

theorem reduced_of_mem_factors {d e : Expr} (hd : IsNormal d) (h0 : d ≠ nothing)
    (he : e ∈ d.factors) : Reduced e ∧ e.isAll = false := by
  rcases hd with rfl | rfl | hd
  · exact absurd rfl h0
  · simp [factors] at he
  · cases hd with
    | all _ _ _ _ reduced flat => exact ⟨reduced e he, flat e he⟩
    | tag l => simp only [factors, List.mem_singleton] at he; subst he; exact ⟨.tag l, rfl⟩
    | metatag m => simp only [factors, List.mem_singleton] at he; subst he; exact ⟨.metatag m, rfl⟩
    | negTag l => simp only [factors, List.mem_singleton] at he; subst he; exact ⟨.negTag l, rfl⟩
    | negMetatag m =>
      simp only [factors, List.mem_singleton] at he; subst he; exact ⟨.negMetatag m, rfl⟩
    | any two distinct consistent reduced flat =>
      simp only [factors, List.mem_singleton] at he
      subst he
      exact ⟨.any two distinct consistent reduced flat, rfl⟩

theorem reduced_of_mem_alternatives {d e : Expr} (hd : IsNormal d) (h0 : d ≠ everything)
    (he : e ∈ d.alternatives) : Reduced e ∧ e.isAny = false := by
  rcases hd with rfl | rfl | hd
  · simp [alternatives] at he
  · exact absurd rfl h0
  · cases hd with
    | any _ _ _ reduced flat => exact ⟨reduced e he, flat e he⟩
    | tag l => simp only [alternatives, List.mem_singleton] at he; subst he; exact ⟨.tag l, rfl⟩
    | metatag m =>
      simp only [alternatives, List.mem_singleton] at he; subst he; exact ⟨.metatag m, rfl⟩
    | negTag l =>
      simp only [alternatives, List.mem_singleton] at he; subst he; exact ⟨.negTag l, rfl⟩
    | negMetatag m =>
      simp only [alternatives, List.mem_singleton] at he; subst he; exact ⟨.negMetatag m, rfl⟩
    | all two distinct consistent sorted reduced flat =>
      simp only [alternatives, List.mem_singleton] at he
      subst he
      exact ⟨.all two distinct consistent sorted reduced flat, rfl⟩

/-- Whether a list holds complements does not depend on its order. -/
theorem hasComplements_perm {ds es : List Expr} (h : ds.Perm es) :
    hasComplements ds = hasComplements es := by
  rw [Bool.eq_iff_iff]
  simp only [hasComplements, List.any_eq_true, List.contains_iff_mem]
  exact ⟨fun ⟨x, hx, hc⟩ => ⟨x, h.mem_iff.1 hx, h.mem_iff.1 hc⟩,
    fun ⟨x, hx, hc⟩ => ⟨x, h.mem_iff.2 hx, h.mem_iff.2 hc⟩⟩

theorem pairwise_mergeSort_cost (es : List Expr) :
    (es.mergeSort fun d e => d.cost ≤ e.cost).Pairwise fun d e => d.cost ≤ e.cost := by
  refine List.Pairwise.imp (fun {a b} hab => ?_) (List.pairwise_mergeSort ?_ ?_ es)
  · simpa using hab
  · intro a b c hab hbc
    simp only [decide_eq_true_eq] at *
    omega
  · intro a b
    simp only [Bool.or_eq_true, decide_eq_true_eq]
    omega

theorem isNormal_conjunction {es : List Expr} (h : ∀ e ∈ es, IsNormal e) :
    IsNormal (conjunction es) := by
  unfold conjunction
  split
  · exact .inl rfl
  · rename_i hn
    have hmem : ∀ e ∈ distinct (es.flatMap factors), Reduced e ∧ e.isAll = false := by
      intro e he
      obtain ⟨d, hd, hed⟩ := List.mem_flatMap.1 (mem_distinct.1 he)
      exact reduced_of_mem_factors (h d hd) (fun h0 => hn (by simpa using h0 ▸ hd)) hed
    have hnodup := nodup_distinct (es.flatMap factors)
    generalize distinct (es.flatMap factors) = flat at hmem hnodup
    simp only
    split
    · exact .inl rfl
    · rename_i hc
      split
      · exact .inr (.inl rfl)
      · exact .inr (.inr (hmem _ List.mem_cons_self).1)
      · rename_i h0 h1
        have hperm := List.mergeSort_perm flat fun d e => decide (d.cost ≤ e.cost)
        refine .inr (.inr (.all ?_ (hperm.nodup_iff.2 hnodup) ?_ (pairwise_mergeSort_cost flat)
          (fun e he => (hmem e (hperm.mem_iff.1 he)).1)
          (fun e he => (hmem e (hperm.mem_iff.1 he)).2)))
        · rw [hperm.length_eq]
          match flat with
          | [] => exact absurd rfl h0
          | [e] => exact absurd rfl (h1 e)
          | _ :: _ :: _ => simp
        · rw [hasComplements_perm hperm]
          exact Bool.eq_false_iff.2 hc

theorem isNormal_disjunction {es : List Expr} (h : ∀ e ∈ es, IsNormal e) :
    IsNormal (disjunction es) := by
  unfold disjunction
  split
  · exact .inr (.inl rfl)
  · rename_i hn
    have hmem : ∀ e ∈ distinct (es.flatMap alternatives), Reduced e ∧ e.isAny = false := by
      intro e he
      obtain ⟨d, hd, hed⟩ := List.mem_flatMap.1 (mem_distinct.1 he)
      exact reduced_of_mem_alternatives (h d hd) (fun h0 => hn (by simpa using h0 ▸ hd)) hed
    have hnodup := nodup_distinct (es.flatMap alternatives)
    generalize distinct (es.flatMap alternatives) = flat at hmem hnodup
    simp only
    split
    · exact .inr (.inl rfl)
    · rename_i hc
      split
      · exact .inl rfl
      · exact .inr (.inr (hmem _ List.mem_cons_self).1)
      · rename_i h0 h1
        refine .inr (.inr (.any ?_ hnodup (Bool.eq_false_iff.2 hc) (fun e he => (hmem e he).1)
          (fun e he => (hmem e he).2)))
        match flat with
        | [] => exact absurd rfl h0
        | [e] => exact absurd rfl (h1 e)
        | _ :: _ :: _ => simp

mutual

/-- One pass leads to a normal query. -/
theorem isNormal_rewrite (negated : Bool) (e : Expr) : IsNormal (rewrite negated e) := by
  cases e with
  | nothing => cases negated <;> simp [rewrite, IsNormal]
  | everything => cases negated <;> simp [rewrite, IsNormal]
  | tag l =>
    cases negated
    · exact .inr (.inr (.tag l))
    · exact .inr (.inr (.negTag l))
  | metatag m =>
    cases negated
    · exact .inr (.inr (.metatag m))
    · exact .inr (.inr (.negMetatag m))
  | neg e => exact isNormal_rewrite (!negated) e
  | all es =>
    have h := isNormal_rewriteList negated es
    simp only [rewrite]
    split
    · exact isNormal_disjunction h
    · exact isNormal_conjunction h
  | any es =>
    have h := isNormal_rewriteList negated es
    simp only [rewrite]
    split
    · exact isNormal_conjunction h
    · exact isNormal_disjunction h

theorem isNormal_rewriteList (negated : Bool) (es : List Expr) :
    ∀ e ∈ rewriteList negated es, IsNormal e := by
  cases es with
  | nil => simp [rewriteList]
  | cons e es =>
    intro d hd
    rcases List.mem_cons.1 hd with rfl | hd
    · exact isNormal_rewrite negated e
    · exact isNormal_rewriteList negated es d hd

end

theorem factors_of_reduced {e : Expr} (h : Reduced e) (hf : e.isAll = false) : e.factors = [e] := by
  cases h <;> first | rfl | simp [isAll] at hf

theorem alternatives_of_reduced {e : Expr} (h : Reduced e) (hf : e.isAny = false) :
    e.alternatives = [e] := by
  cases h <;> first | rfl | simp [isAny] at hf

theorem flatMap_eq_self {es : List Expr} {f : Expr → List Expr} (h : ∀ e ∈ es, f e = [e]) :
    es.flatMap f = es := by
  induction es with
  | nil => rfl
  | cons e es ih =>
    rw [List.flatMap_cons, h e List.mem_cons_self, ih fun d hd => h d (List.mem_cons_of_mem _ hd)]
    rfl

/-- A reduced query stays as it is. -/
theorem rewrite_of_reduced {e : Expr} (h : Reduced e) : rewrite false e = e := by
  induction h with
  | tag l => rfl
  | metatag m => rfl
  | negTag l => rfl
  | negMetatag m => rfl
  | @all es two nodup consistent sorted reduced flat ih =>
    have hmap : rewriteList false es = es := by
      rw [rewriteList_eq_map]
      exact (List.map_congr_left ih).trans (List.map_id es)
    have hflat : distinct (es.flatMap factors) = es := by
      rw [flatMap_eq_self fun e he => factors_of_reduced (reduced e he) (flat e he)]
      exact distinct_of_nodup nodup
    have hn : es.contains nothing = false := by
      rw [Bool.eq_false_iff]
      intro hc
      cases reduced _ (by simpa using hc)
    simp only [rewrite, hmap, conjunction, hn, hflat, consistent, Bool.false_eq_true, if_false]
    match es, two with
    | d :: e :: es, _ =>
      rw [List.mergeSort_of_pairwise (sorted.imp fun {a b} hab => by simpa using hab)]
  | @any es two nodup consistent reduced flat ih =>
    have hmap : rewriteList false es = es := by
      rw [rewriteList_eq_map]
      exact (List.map_congr_left ih).trans (List.map_id es)
    have hflat : distinct (es.flatMap alternatives) = es := by
      rw [flatMap_eq_self fun e he => alternatives_of_reduced (reduced e he) (flat e he)]
      exact distinct_of_nodup nodup
    have hn : es.contains everything = false := by
      rw [Bool.eq_false_iff]
      intro hc
      cases reduced _ (by simpa using hc)
    simp only [rewrite, hmap, disjunction, hn, hflat, consistent, Bool.false_eq_true, if_false]
    match es, two with
    | d :: e :: es, _ => rfl

/-- A normal query stays as it is. -/
theorem rewrite_of_isNormal {e : Expr} (h : IsNormal e) : rewrite false e = e := by
  rcases h with rfl | rfl | h
  · rfl
  · rfl
  · exact rewrite_of_reduced h

/-- A second pass changes nothing. -/
theorem rewrite_rewrite (e : Expr) : rewrite false (rewrite false e) = rewrite false e :=
  rewrite_of_isNormal (isNormal_rewrite false e)

/-! ## Passes until nothing changes -/

/-- Rewrites a query until it no longer changes. -/
def simplify (e : Expr) : Expr :=
  let next := rewrite false e
  if next = e then next else simplify next
termination_by if rewrite false e = e then 0 else 1
decreasing_by
  rename_i h
  have h' : ¬rewrite false e = e := h
  rw [if_neg h', if_pos (rewrite_rewrite e)]
  exact Nat.zero_lt_one

end Expr

end Gallery.Query
