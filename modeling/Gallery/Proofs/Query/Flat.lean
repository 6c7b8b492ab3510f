import Gallery.Query.Simplify
import Gallery.Proofs.Query.Satisfaction

/-!
# `Gallery.Proofs.Query.Flat` — queries without nested connectives of one kind

A conjunction that is an operand of a conjunction can be spliced into it, and a disjunction into a
disjunction.  Nothing else of the query changes.

## Contents
- `flat`, the query with all such operands spliced; `flatAll_eq_flatMap` and `flatAny_eq_flatMap`.
- `IsFlat`, the queries without such operands.
- The results: `isFlat_flat`, and `flat_eq_self_iff`, the flat queries are those that `flat` leaves.
-/

namespace Gallery.Query.Expr

/-! ## Splicing -/

/-- The operands of a conjunction; any other query is one by itself. -/
def conjuncts : Expr → List Expr
  | all es => es
  | e => [e]

/-- The operands of a disjunction; any other query is one by itself. -/
def disjuncts : Expr → List Expr
  | any es => es
  | e => [e]

mutual

/-- The query with each conjunction that is an operand of a conjunction spliced into it, and each
disjunction that is an operand of a disjunction. -/
def flat : Expr → Expr
  | neg e => neg e.flat
  | all es => all (flatAll es)
  | any es => any (flatAny es)
  | e => e

/-- The operands of the flat conjunction. -/
def flatAll : List Expr → List Expr
  | [] => []
  | e :: es => e.flat.conjuncts ++ flatAll es

/-- The operands of the flat disjunction. -/
def flatAny : List Expr → List Expr
  | [] => []
  | e :: es => e.flat.disjuncts ++ flatAny es

end

/-! ## Flat queries -/

/-- No conjunction is an operand of a conjunction, and no disjunction one of a disjunction. -/
inductive IsFlat : Expr → Prop
  | nothing : IsFlat nothing
  | everything : IsFlat everything
  | tag (l : String) : IsFlat (tag l)
  | metatag (m : Metatag) : IsFlat (metatag m)
  | neg {e : Expr} (h : IsFlat e) : IsFlat (neg e)
  | all {es : List Expr} (hs : ∀ e ∈ es, IsFlat e) (hnone : ∀ e ∈ es, e.isAll = false) :
      IsFlat (all es)
  | any {es : List Expr} (hs : ∀ e ∈ es, IsFlat e) (hnone : ∀ e ∈ es, e.isAny = false) :
      IsFlat (any es)

variable {e : Expr} {es : List Expr}

theorem conjuncts_of_isAll (h : e.isAll = false) : e.conjuncts = [e] := by
  cases e <;> first | rfl | cases h

theorem disjuncts_of_isAny (h : e.isAny = false) : e.disjuncts = [e] := by
  cases e <;> first | rfl | cases h

@[simp] theorem isAll_flat (e : Expr) : e.flat.isAll = e.isAll := by cases e <;> rfl

@[simp] theorem isAny_flat (e : Expr) : e.flat.isAny = e.isAny := by cases e <;> rfl

theorem flatAll_eq_flatMap (es : List Expr) : flatAll es = es.flatMap (·.flat.conjuncts) := by
  induction es with
  | nil => rfl
  | cons e es ih => rw [flatAll, ih, List.flatMap_cons]

theorem flatAny_eq_flatMap (es : List Expr) : flatAny es = es.flatMap (·.flat.disjuncts) := by
  induction es with
  | nil => rfl
  | cons e es ih => rw [flatAny, ih, List.flatMap_cons]

theorem conjuncts_cases {d : Expr} (hd : d ∈ e.conjuncts) :
    d = e ∧ e.isAll = false ∨ ∃ es, e = all es ∧ d ∈ es := by
  cases e with
  | all es => exact .inr ⟨es, rfl, hd⟩
  | _ => exact .inl ⟨List.mem_singleton.mp hd, rfl⟩

theorem disjuncts_cases {d : Expr} (hd : d ∈ e.disjuncts) :
    d = e ∧ e.isAny = false ∨ ∃ es, e = any es ∧ d ∈ es := by
  cases e with
  | any es => exact .inr ⟨es, rfl, hd⟩
  | _ => exact .inl ⟨List.mem_singleton.mp hd, rfl⟩

theorem IsFlat.of_mem_conjuncts {d : Expr} (h : IsFlat e) (hd : d ∈ e.conjuncts) :
    IsFlat d ∧ d.isAll = false := by
  rcases conjuncts_cases hd with ⟨rfl, hnone⟩ | ⟨es, rfl, hd⟩
  · exact ⟨h, hnone⟩
  · cases h with
    | all hs hnone => exact ⟨hs d hd, hnone d hd⟩

theorem IsFlat.of_mem_disjuncts {d : Expr} (h : IsFlat e) (hd : d ∈ e.disjuncts) :
    IsFlat d ∧ d.isAny = false := by
  rcases disjuncts_cases hd with ⟨rfl, hnone⟩ | ⟨es, rfl, hd⟩
  · exact ⟨h, hnone⟩
  · cases h with
    | any hs hnone => exact ⟨hs d hd, hnone d hd⟩

theorem isFlat_flat (e : Expr) : IsFlat e.flat := by
  induction e using Expr.induction with
  | nothing => exact .nothing
  | everything => exact .everything
  | tag l => exact .tag l
  | metatag m => exact .metatag m
  | neg e ih => exact ih.neg
  | all es ih =>
    have hmem : ∀ d ∈ flatAll es, IsFlat d ∧ d.isAll = false := by
      intro d hd
      rw [flatAll_eq_flatMap] at hd
      obtain ⟨e, he, hd⟩ := List.mem_flatMap.mp hd
      exact (ih e he).of_mem_conjuncts hd
    exact .all (fun d hd => (hmem d hd).1) fun d hd => (hmem d hd).2
  | any es ih =>
    have hmem : ∀ d ∈ flatAny es, IsFlat d ∧ d.isAny = false := by
      intro d hd
      rw [flatAny_eq_flatMap] at hd
      obtain ⟨e, he, hd⟩ := List.mem_flatMap.mp hd
      exact (ih e he).of_mem_disjuncts hd
    exact .any (fun d hd => (hmem d hd).1) fun d hd => (hmem d hd).2

theorem IsFlat.flat_eq (h : IsFlat e) : e.flat = e := by
  induction h with
  | nothing => rfl
  | everything => rfl
  | tag l => rfl
  | metatag m => rfl
  | neg _ ih => rw [flat, ih]
  | all _ hnone ih =>
    rw [flat, flatAll_eq_flatMap, flatMap_eq_self]
    intro e he
    rw [ih e he, conjuncts_of_isAll (hnone e he)]
  | any _ hnone ih =>
    rw [flat, flatAny_eq_flatMap, flatMap_eq_self]
    intro e he
    rw [ih e he, disjuncts_of_isAny (hnone e he)]

/-- Nothing is spliced exactly where nothing has to be. -/
theorem flat_eq_self_iff : e.flat = e ↔ IsFlat e :=
  ⟨fun h => h ▸ isFlat_flat e, IsFlat.flat_eq⟩

end Gallery.Query.Expr
