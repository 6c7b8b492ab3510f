import Gallery.Proofs.Query.Equivalence
import Gallery.Proofs.Query.NormalForm
import Mathlib.Logic.Basic

/-!
# `Gallery.Proofs.Query.Contradictions` — which contradictions are found

A connective looks for complementary operands after its operands have been simplified.  By then
negations stand at tags and metatags only, and operands of the connective's own kind have been taken
apart.  So complements are found where a tag or metatag is an operand and its negation is another; a
connective is not recognised beside its negation, which has become the other connective.

## Contents
- `isLeaf` and `Clash`, what is looked for; `simplify_all_eq_nothing_iff` and
  `simplify_any_eq_everything_iff`, when it is found.
- `Opposite`, queries that hold of different images; `Opposite.cases`, those without connectives.
- `Found`, the rules for a query and its negation; `found_iff`, for which queries they hold.
- `contradictions_found`, all together; `not_found_all`, a conjunction for which they fail.
-/

namespace Gallery.Query.Expr

variable {d e x p n : Expr} {ds es : List Expr}

/-! ## Complementary operands -/

/-- Whether a query is a tag or a metatag. -/
def isLeaf : Expr → Bool
  | tag _ | metatag _ => true
  | _ => false

/-- Some tag or metatag is among the queries, and its negation is too. -/
def Clash (es : List Expr) : Prop := ∃ d, d.isLeaf = true ∧ d ∈ es ∧ neg d ∈ es

theorem clash_distinct : Clash (distinct es) ↔ Clash es := by simp only [Clash, mem_distinct]

theorem clash_append_comm : Clash (ds ++ es) ↔ Clash (es ++ ds) := by
  simp only [Clash, List.mem_append, or_comm]

/-- Among reduced queries only leaves have a negation. -/
theorem hasComplements_iff_clash (h : ∀ e ∈ es, Reduced e) :
    hasComplements es = true ↔ Clash es := by
  rw [← not_iff_not, Bool.not_eq_true, hasComplements_eq_false_iff]
  constructor
  · rintro hes ⟨d, -, hd, hneg⟩
    exact hes d hd hneg
  · intro hclash d hd hneg
    refine hclash ⟨d, ?_, hd, hneg⟩
    cases h _ hneg with
    | negTag | negMetatag => rfl

/-- Operands clash that are taken apart into themselves. -/
theorem Clash.flatMap {f : Expr → List Expr} (h : Clash ds) (hds : ∀ d ∈ ds, d ∈ es)
    (hleaf : ∀ d, d.isLeaf = true → d ∈ f d) (hneg : ∀ d, neg d ∈ f (neg d)) :
    Clash (es.flatMap f) := by
  obtain ⟨d, hd, hmem, hnegmem⟩ := h
  exact ⟨d, hd, List.mem_flatMap.2 ⟨d, hds d hmem, hleaf d hd⟩,
    List.mem_flatMap.2 ⟨neg d, hds _ hnegmem, hneg d⟩⟩

theorem mem_factors_of_isLeaf (h : d.isLeaf = true) : d ∈ d.factors := by
  cases d with
  | tag | metatag => exact List.mem_cons_self
  | _ => cases h

theorem mem_alternatives_of_isLeaf (h : d.isLeaf = true) : d ∈ d.alternatives := by
  cases d with
  | tag | metatag => exact List.mem_cons_self
  | _ => cases h

theorem not_clash_singleton (e : Expr) : ¬Clash [e] := by
  rintro ⟨d, hleaf, hd, hneg⟩
  rw [List.mem_singleton.1 hd, ← List.mem_singleton.1 hneg] at hleaf
  cases hleaf

/-- The operands of one normal query do not clash. -/
theorem not_clash_factors (h : IsNormal e) : ¬Clash e.factors := by
  rcases h with rfl | rfl | h
  · exact not_clash_singleton nothing
  · rintro ⟨d, -, ⟨⟩, -⟩
  · cases h with
    | all _ _ consistent _ reduced _ =>
      rw [factors, ← hasComplements_iff_clash reduced, consistent]
      exact Bool.false_ne_true
    | _ => exact not_clash_singleton _

theorem not_clash_alternatives (h : IsNormal e) : ¬Clash e.alternatives := by
  rcases h with rfl | rfl | h
  · rintro ⟨d, -, ⟨⟩, -⟩
  · exact not_clash_singleton everything
  · cases h with
    | any _ _ consistent reduced _ =>
      rw [alternatives, ← hasComplements_iff_clash reduced, consistent]
      exact Bool.false_ne_true
    | _ => exact not_clash_singleton _

/-- What a connective makes of the operands that are left is `zero` only where they clash. -/
theorem joined_eq_iff {zero one joined : Expr} (hzero : ¬Reduced zero) (hone : one ≠ zero)
    (hjoined : joined ≠ zero) (es : List Expr) :
    (∀ e ∈ es, Reduced e) →
    ((if hasComplements es = true then zero else
      match es with
      | [] => one
      | [e] => e
      | _ => joined) = zero ↔ Clash es) := by
  intro h
  rw [← hasComplements_iff_clash h]
  split
  · rename_i hc
    exact iff_of_true rfl hc
  · rename_i hc
    refine iff_of_false ?_ hc
    split
    · exact hone
    · rintro rfl
      exact hzero (h _ List.mem_cons_self)
    · exact hjoined

/-- A conjunction of normal queries is a contradiction where an operand is one or operands clash. -/
theorem conjunction_eq_nothing_iff (h : ∀ e ∈ es, IsNormal e) :
    conjunction es = nothing ↔ nothing ∈ es ∨ Clash (es.flatMap factors) := by
  unfold conjunction
  split
  · rename_i hnothing
    exact iff_of_true rfl (.inl (List.contains_iff_mem.1 hnothing))
  · rename_i hnothing
    have hmem : nothing ∉ es := fun hes => hnothing (List.contains_iff_mem.2 hes)
    have hreduced : ∀ e ∈ distinct (es.flatMap factors), Reduced e := by
      intro e he
      obtain ⟨d, hd, hed⟩ := List.mem_flatMap.1 (mem_distinct.1 he)
      exact (reduced_of_mem_factors (h d hd) (fun h0 => hmem (h0 ▸ hd)) hed).1
    rw [← clash_distinct, or_iff_right hmem]
    refine joined_eq_iff ?_ ?_ ?_ _ hreduced <;> nofun

theorem disjunction_eq_everything_iff (h : ∀ e ∈ es, IsNormal e) :
    disjunction es = everything ↔ everything ∈ es ∨ Clash (es.flatMap alternatives) := by
  unfold disjunction
  split
  · rename_i heverything
    exact iff_of_true rfl (.inl (List.contains_iff_mem.1 heverything))
  · rename_i heverything
    have hmem : everything ∉ es := fun hes => heverything (List.contains_iff_mem.2 hes)
    have hreduced : ∀ e ∈ distinct (es.flatMap alternatives), Reduced e := by
      intro e he
      obtain ⟨d, hd, hed⟩ := List.mem_flatMap.1 (mem_distinct.1 he)
      exact (reduced_of_mem_alternatives (h d hd) (fun h0 => hmem (h0 ▸ hd)) hed).1
    rw [← clash_distinct, or_iff_right hmem]
    refine joined_eq_iff ?_ ?_ ?_ _ hreduced <;> nofun

theorem forall_isNormal_map_simplify (es : List Expr) : ∀ e ∈ es.map simplify, IsNormal e :=
  List.forall_mem_map.2 fun e _ => isNormal_simplify e

/-- **When a conjunction is found to be a contradiction.** -/
theorem simplify_all_eq_nothing_iff : (all es).simplify = nothing ↔
    nothing ∈ es.map simplify ∨ Clash ((es.map simplify).flatMap factors) := by
  rw [simplify_all, conjunction_eq_nothing_iff (forall_isNormal_map_simplify es)]

/-- **When a disjunction is found to be a tautology.** -/
theorem simplify_any_eq_everything_iff : (any es).simplify = everything ↔
    everything ∈ es.map simplify ∨ Clash ((es.map simplify).flatMap alternatives) := by
  rw [simplify_any, disjunction_eq_everything_iff (forall_isNormal_map_simplify es)]

/-! ## Opposite queries -/

/-- One query holds where the other does not. -/
def Opposite (p n : Expr) : Prop :=
  ∀ carries fits, n.holds carries fits = !p.holds carries fits

theorem opposite_simplify (x : Expr) : Opposite x.simplify (neg x).simplify := by
  intro carries fits
  rw [holds_simplify, holds_simplify, holds]

/-- A leaf is told from the others by the images that have it alone. -/
theorem eq_of_isLeaf (hd : d.isLeaf = true) (he : e.isLeaf = true)
    (h : ∀ carries fits, e.holds carries fits = d.holds carries fits) : e = d := by
  cases d with
  | tag l =>
    have hholds := h (fun k => k = l) (fun _ => false)
    cases e with
    | tag k => simpa [holds] using hholds
    | metatag m => simp [holds] at hholds
    | _ => cases he
  | metatag m =>
    have hholds := h (fun _ => false) (fun k => k = m)
    cases e with
    | tag l => simp [holds] at hholds
    | metatag k => simpa [holds] using hholds
    | _ => cases he
  | _ => cases hd

/-- Without connectives, a normal query is a constant, a leaf or a negated leaf, and which of these it
is can be told from two images: one that has all tags and metatags, and one that has none. -/
theorem IsNormal.kind (h : IsNormal e) (hc : e.isConnective = false) :
    match e.holds (fun _ => true) (fun _ => true), e.holds (fun _ => false) (fun _ => false) with
    | false, false => e = nothing
    | true, true => e = everything
    | true, false => e.isLeaf = true
    | false, true => ∃ d, d.isLeaf = true ∧ e = neg d := by
  rcases h with rfl | rfl | h
  · rfl
  · rfl
  · cases h with
    | tag | metatag => rfl
    | negTag l => exact ⟨tag l, rfl, rfl⟩
    | negMetatag m => exact ⟨metatag m, rfl, rfl⟩
    | all | any => cases hc

/-- **Opposite queries without connectives are the constants, or a leaf and its negation.** -/
theorem Opposite.cases (h : Opposite p n) (hp : IsNormal p) (hn : IsNormal n)
    (hpc : p.isConnective = false) (hnc : n.isConnective = false) :
    p = nothing ∧ n = everything ∨ p = everything ∧ n = nothing ∨ Clash [p, n] := by
  have hpk := hp.kind hpc
  have hnk := hn.kind hnc
  rw [h, h] at hnk
  cases htrue : p.holds (fun _ => true) (fun _ => true) <;>
    cases hfalse : p.holds (fun _ => false) (fun _ => false) <;>
    simp only [htrue, hfalse, Bool.not_true, Bool.not_false] at hpk hnk
  · exact .inl ⟨hpk, hnk⟩
  · obtain ⟨d, hd, rfl⟩ := hpk
    have heq : n = d := eq_of_isLeaf hd hnk fun carries fits => by rw [h, holds, Bool.not_not]
    exact .inr (.inr ⟨d, hd, by simp [heq], by simp⟩)
  · obtain ⟨d, hd, rfl⟩ := hnk
    have heq : d = p := eq_of_isLeaf hpk hd fun carries fits => by
      have hnot := h carries fits
      rwa [holds, Bool.not_inj_iff] at hnot
    exact .inr (.inr ⟨d, hd, by simp [heq], by simp⟩)
  · exact .inr (.inl ⟨hpk, hnk⟩)

/-! ## A query and its negation -/

/-- A query with its negation is a contradiction in every conjunction and a tautology in every
disjunction. -/
structure Found (x : Expr) : Prop where
  contradiction : ∀ es, x ∈ es → neg x ∈ es → (all es).simplify = nothing
  tautology : ∀ es, x ∈ es → neg x ∈ es → (any es).simplify = everything

/-- A connective has no part in a clash. -/
theorem clash_of_isConnective (he : e.isConnective = true) (h : Clash (e :: es)) : Clash es := by
  obtain ⟨d, hd, hmem, hneg⟩ := h
  refine ⟨d, hd, (List.mem_cons.1 hmem).resolve_left ?_, (List.mem_cons.1 hneg).resolve_left ?_⟩
  · rintro rfl
    cases d with
    | all | any => cases hd
    | _ => cases he
  · rintro rfl
    cases he

/-- A conjunction does not clash with another query in disjunctions, nor a disjunction in
conjunctions. -/
theorem not_isConnective_of_clash (hp : IsNormal p) (hn : IsNormal n)
    (hall : nothing ∈ [p, n] ∨ Clash (p.factors ++ n.factors))
    (hany : everything ∈ [p, n] ∨ Clash (p.alternatives ++ n.alternatives)) :
    p.isConnective = false := by
  cases p with
  | all ds =>
    rcases hany with heverything | hclash
    · obtain rfl : everything = n := by simpa using heverything
      have hclash := hall.resolve_left (by simp)
      rw [show factors everything = [] from rfl, List.append_nil] at hclash
      exact (not_clash_factors hp hclash).elim
    · exact (not_clash_alternatives hn (clash_of_isConnective rfl hclash)).elim
  | any ds =>
    rcases hall with hnothing | hclash
    · obtain rfl : nothing = n := by simpa using hnothing
      have hclash := hany.resolve_left (by simp)
      rw [show alternatives nothing = [] from rfl, List.append_nil] at hclash
      exact (not_clash_alternatives hp hclash).elim
    · exact (not_clash_factors hn (clash_of_isConnective rfl hclash)).elim
  | _ => rfl

/-- **The rules hold for the queries that simplification does not make a connective**, neither the
query nor its negation. -/
theorem found_iff :
    Found x ↔ x.simplify.isConnective = false ∧ (neg x).simplify.isConnective = false := by
  have hp := isNormal_simplify x
  have hn := isNormal_simplify (neg x)
  constructor
  · rintro ⟨hcontradiction, htautology⟩
    have hall := simplify_all_eq_nothing_iff.1 (hcontradiction [x, neg x] (by simp) (by simp))
    have hany := simplify_any_eq_everything_iff.1 (htautology [x, neg x] (by simp) (by simp))
    simp only [List.map_cons, List.map_nil, List.flatMap_cons, List.flatMap_nil,
      List.append_nil] at hall hany
    refine ⟨not_isConnective_of_clash hp hn hall hany, not_isConnective_of_clash hn hp ?_ ?_⟩
    · exact hall.imp (List.Perm.swap _ _ _).mem_iff.1 clash_append_comm.1
    · exact hany.imp (List.Perm.swap _ _ _).mem_iff.1 clash_append_comm.1
  · rintro ⟨hpc, hnc⟩
    have hmem : ∀ es : List Expr, x ∈ es → neg x ∈ es →
        ∀ d ∈ [x.simplify, (neg x).simplify], d ∈ es.map simplify := by
      intro es hx hneg
      exact List.forall_mem_cons.2 ⟨List.mem_map_of_mem hx,
        List.forall_mem_singleton.2 (List.mem_map_of_mem hneg)⟩
    have hcases := (opposite_simplify x).cases hp hn hpc hnc
    refine ⟨fun es hx hneg => simplify_all_eq_nothing_iff.2 ?_,
      fun es hx hneg => simplify_any_eq_everything_iff.2 ?_⟩
    · rcases hcases with ⟨h, -⟩ | ⟨-, h⟩ | hclash
      · exact .inl (hmem es hx hneg _ (h ▸ List.mem_cons_self))
      · exact .inl (hmem es hx hneg _ (by simp [h]))
      · exact .inr (hclash.flatMap (hmem es hx hneg) (fun _ => mem_factors_of_isLeaf)
          fun _ => List.mem_cons_self)
    · rcases hcases with ⟨-, h⟩ | ⟨h, -⟩ | hclash
      · exact .inl (hmem es hx hneg _ (by simp [h]))
      · exact .inl (hmem es hx hneg _ (by simp [h]))
      · exact .inr (hclash.flatMap (hmem es hx hneg) (fun _ => mem_alternatives_of_isLeaf)
          fun _ => List.mem_cons_self)

/-- Leaves are left as they are, and so are their negations. -/
theorem found_of_isLeaf (h : x.isLeaf = true) : Found x := by
  rw [found_iff, simplify_eq_rewrite, simplify_eq_rewrite]
  cases x with
  | tag | metatag => exact ⟨rfl, rfl⟩
  | _ => cases h

/-- **Which contradictions and tautologies are found.**  A conjunction is found to be a contradiction
where an operand is one, or where a leaf and its negation are among the operands that are left when
nested conjunctions are taken apart; likewise for disjunctions.  So a query is recognised beside its
negation, among whatever operands, if and only if neither becomes a connective, as is so for tags
and metatags.  What is not recognised holds of no image and of every image all the same. -/
theorem contradictions_found (x : Expr) (es : List Expr) :
    ((all es).simplify = nothing ↔
      nothing ∈ es.map simplify ∨ Clash ((es.map simplify).flatMap factors)) ∧
    ((any es).simplify = everything ↔
      everything ∈ es.map simplify ∨ Clash ((es.map simplify).flatMap alternatives)) ∧
    (Found x ↔ x.simplify.isConnective = false ∧ (neg x).simplify.isConnective = false) ∧
    (x.isLeaf = true → Found x) ∧
    (x ∈ es → neg x ∈ es → ∀ carries fits,
      (all es).simplify.holds carries fits = false ∧
      (any es).simplify.holds carries fits = true) := by
  refine ⟨simplify_all_eq_nothing_iff, simplify_any_eq_everything_iff, found_iff, found_of_isLeaf,
    fun hx hneg carries fits => ?_⟩
  have hcomplements : hasComplements es = true :=
    List.any_eq_true.2 ⟨neg x, hneg, List.contains_iff_mem.2 hx⟩
  rw [holds_simplify, holds_simplify, holds, holdAll_eq, holds, holdsAny_eq]
  exact ⟨all_eq_false_of_hasComplements hcomplements, any_eq_true_of_hasComplements hcomplements⟩

/-- A conjunction beside its negation is not recognised, neither in a conjunction nor in a
disjunction. -/
theorem not_found_all :
    (¬∀ (x : Expr) (es : List Expr), x ∈ es → neg x ∈ es → (all es).simplify = nothing) ∧
    ¬∀ (x : Expr) (es : List Expr), x ∈ es → neg x ∈ es → (any es).simplify = everything := by
  have hreduced : Reduced (all [tag "a", tag "b"]) :=
    .all (by decide) (by decide) (by decide) (by simp [cost])
      (by simp [Reduced.tag]) (by simp [isAll])
  have hself := simplify_of_isNormal (.inr (.inr hreduced))
  have hneg : (neg (all [tag "a", tag "b"])).simplify = any [neg (tag "a"), neg (tag "b")] := by
    rw [simplify_eq_rewrite]
    decide +kernel
  refine ⟨fun h => ?_, fun h => ?_⟩
  · have hnothing := h (all [tag "a", tag "b"]) [_, neg (all [tag "a", tag "b"])]
      List.mem_cons_self (by simp)
    rw [simplify_all_eq_nothing_iff, List.map_cons, List.map_singleton, hself, hneg] at hnothing
    obtain ⟨d, -, -, hmem⟩ := hnothing.resolve_left (by simp)
    simp [factors] at hmem
  · have heverything := h (all [tag "a", tag "b"]) [_, neg (all [tag "a", tag "b"])]
      List.mem_cons_self (by simp)
    rw [simplify_any_eq_everything_iff, List.map_cons, List.map_singleton, hself, hneg]
      at heverything
    obtain ⟨d, hd, hmem, -⟩ := heverything.resolve_left (by simp)
    simp only [List.flatMap_cons, alternatives, List.flatMap_nil, List.append_nil,
      List.singleton_append, List.mem_cons, List.not_mem_nil, or_false] at hmem
    rcases hmem with rfl | rfl | rfl <;> cases hd

end Gallery.Query.Expr
