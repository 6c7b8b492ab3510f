import Gallery.Catalog.Change
import Gallery.Proofs.Query.Resolution
import Mathlib.Data.List.Chain

/-!
# `Gallery.Proofs.Query.Cycles` — why a query cannot be resolved

The labels on the stack are a way along definitions that ends at the label that is being expanded.  A
label that is met again therefore closes a cycle, which is the end of the stack from that label on,
and nothing but a cycle or a definition that is no query ends an expansion.

## Contents
- `IsCycle`, a way along definitions back to where it began; `IsCycle.dependsOn`.
- `Fault`, what an error says of the labels that lead to it; `Trail`, the invariant of the stack.
- `fails_expandTag`, every error of an expansion is such a fault; `resolve_spec`, which queries are
  resolved and why the others are not.
-/

namespace Gallery.Query

open Relation (TransGen ReflTransGen)

variable {c : Catalog} {e : Expr} {l m definition : String} {stack cycle : List String}

/-! ## Cycles -/

/-- A way along definitions that comes back to its first label and passes no other label twice. -/
structure IsCycle (c : Catalog) (cycle : List String) : Prop where
  two_le : 2 ≤ cycle.length
  closed : cycle.head? = cycle.getLast?
  nodup : cycle.dropLast.Nodup
  compound : ∀ l ∈ cycle, ∃ definition, c.meaning l = .compound definition
  refers : cycle.IsChain (Refers c)

theorem dependsOn_of_isChain {ms : List String} (h : (l :: ms ++ [m]).IsChain (Refers c)) :
    DependsOn c l m := by
  induction ms generalizing l with
  | nil => exact .single (List.isChain_pair.mp h)
  | cons n ms ih =>
    obtain ⟨hstep, hrest⟩ := List.isChain_cons_cons.mp h
    exact .head hstep (ih hrest)

/-- The first label of a cycle depends on itself. -/
theorem IsCycle.dependsOn (h : IsCycle c cycle) (hm : cycle.head? = some m) : DependsOn c m m := by
  obtain ⟨rest, rfl⟩ := List.head?_eq_some_iff.mp hm
  have hlast : (m :: rest).getLast? = some m := h.closed.symm.trans hm
  have hne : rest ≠ [] := by
    rintro rfl
    exact absurd h.two_le (by simp)
  rw [List.getLast?_cons_of_ne_nil hne] at hlast
  obtain ⟨ms, rfl⟩ := List.getLast?_eq_some_iff.mp hlast
  exact dependsOn_of_isChain h.refers

/-! ## Faults -/

/-- What an error says of a label whose expansion ends with it: the label leads to a cycle, or to a
definition that is no query. -/
inductive Fault (c : Catalog) (l : String) : QueryError → Prop
  | cyclic {m : String} {cycle : List String} (hm : LeadsTo c l m) (hhead : cycle.head? = some m)
      (h : IsCycle c cycle) : Fault c l (.cyclicDefinition cycle)
  | invalid {m definition : String} {cause : QueryError} (hm : LeadsTo c l m)
      (hd : c.meaning m = .compound definition) (hp : parse definition = .error cause) :
      Fault c l (.invalidDefinition m cause)

/-- A fault of a label is one of every label that refers to it. -/
theorem Fault.of_refers {err : QueryError} (h : Fault c m err) (hstep : Refers c l m) :
    Fault c l err := by
  cases h with
  | cyclic hm hhead h => exact .cyclic (.head hstep hm) hhead h
  | invalid hm hd hp => exact .invalid (.head hstep hm) hd hp

/-! ## The stack -/

/-- The labels on the stack are different, and each refers to the next and the last to `l`. -/
structure Trail (c : Catalog) (stack : List String) (l : String) : Prop where
  nodup : stack.Nodup
  refers : (stack ++ [l]).IsChain (Refers c)

theorem trail_nil (c : Catalog) (l : String) : Trail c [] l := ⟨List.nodup_nil, .singleton l⟩

/-- Following a definition keeps the trail. -/
theorem Trail.push (h : Trail c stack l) (hs : l ∉ stack) (hstep : Refers c l m) :
    Trail c (stack ++ [l]) m where
  nodup := by
    rw [List.nodup_append]
    refine ⟨h.nodup, List.pairwise_singleton _ l, ?_⟩
    rintro s hmem n hn rfl
    exact hs (List.mem_singleton.mp hn ▸ hmem)
  refers := by
    rw [List.append_assoc, List.singleton_append]
    exact List.isChain_append_cons_cons.mpr ⟨h.refers, hstep, .singleton m⟩

/-- The labels on the stack are compound, for they refer to others. -/
theorem Trail.compound (h : Trail c stack l) :
    ∀ s ∈ stack, ∃ definition, c.meaning s = .compound definition := by
  intro s hs
  obtain ⟨before, after, rfl⟩ := List.append_of_mem hs
  have hchain := h.refers
  rw [List.append_assoc, List.cons_append] at hchain
  have hsuffix := (List.isChain_split.mp hchain).2
  -- What stands behind `s` on the trail is the next label, or `l` itself.
  cases after with
  | nil =>
    obtain ⟨definition, -, hd, -⟩ := List.isChain_pair.mp hsuffix
    exact ⟨definition, hd⟩
  | cons n after =>
    obtain ⟨⟨definition, -, hd, -⟩, -⟩ := List.isChain_cons_cons.mp hsuffix
    exact ⟨definition, hd⟩

theorem dropWhile_ne_of_mem (h : l ∈ stack) :
    ∃ before after, stack = before ++ l :: after ∧ stack.dropWhile (· != l) = l :: after := by
  induction stack with
  | nil => exact absurd h List.not_mem_nil
  | cons s stack ih =>
    by_cases hs : s = l
    · subst hs
      exact ⟨[], stack, rfl, by simp⟩
    · obtain ⟨before, after, hstack, hdrop⟩ := ih ((List.mem_cons.mp h).resolve_left (Ne.symm hs))
      refine ⟨s :: before, after, congrArg (s :: ·) hstack, ?_⟩
      rw [List.dropWhile_cons_of_pos (by simpa using hs), hdrop]

/-- The end of the stack from a label on that is met again is a cycle. -/
theorem Trail.isCycle (h : Trail c stack l) (hs : l ∈ stack) :
    IsCycle c (stack.dropWhile (· != l) ++ [l])
      ∧ (stack.dropWhile (· != l) ++ [l]).head? = some l := by
  have hcompound := h.compound
  obtain ⟨before, after, hstack, hdrop⟩ := dropWhile_ne_of_mem hs
  have hsuffix : l :: after <:+ stack := ⟨before, hstack.symm⟩
  rw [hdrop]
  refine ⟨⟨?_, ?_, ?_, ?_, ?_⟩, rfl⟩
  · simp
  · rw [List.getLast?_concat]
    rfl
  · rw [List.dropLast_concat]
    exact h.nodup.sublist hsuffix.sublist
  · intro n hn
    rcases List.mem_append.mp hn with hn | hn
    · exact hcompound n (hsuffix.subset hn)
    · exact List.mem_singleton.mp hn ▸ hcompound l hs
  · exact h.refers.suffix ⟨before, by rw [hstack, List.append_assoc]⟩

/-! ## Failures -/

/-- Every error of the computation has the property. -/
def Fails {α : Type} (w : Resolving α) (P : QueryError → Prop) : Prop :=
  ∀ t k err k', w t k = (.error err, k') → P err

theorem compositional_fails (P : QueryError → Prop) : Compositional fun _ w _ => Fails w P where
  of_pure := by
    intro α a t k err k' hrun
    cases hrun
  of_bind := by
    intro α β w _ f _ hw hf t k err k' hrun
    rw [bind_run] at hrun
    split at hrun
    · rename_i err' k₁ hwrun
      cases hrun
      exact hw t k err _ hwrun
    · rename_i a t₁ k₁ hwrun
      exact hf a t₁ k₁ err k' hrun

theorem fails_expandWith {f : String → Resolving Expr} {P : QueryError → Prop}
    (hf : ∀ l ∈ e.occurrences, Fails (f l) P) : Fails (expandWith f e) P :=
  @Compositional.expandWith _ f f (compositional_fails P) e hf

theorem fails_expandParsed {p : Expr} {useCache : Bool} (hl : c.meaning l = .compound definition)
    (hp : parse definition = .ok p)
    (hm : ∀ m ∈ p.occurrences, Fails (expandTag c useCache (stack ++ [l]) m) (Fault c m)) :
    Fails (expandParsed c useCache stack l p) (Fault c l) := by
  have hinside : Fails (expandWith (expandTag c useCache (stack ++ [l])) p) (Fault c l) := by
    refine fails_expandWith fun m hmem t k err k' hrun => ?_
    exact (hm m hmem t k err k' hrun).of_refers ⟨definition, p, hl, hp, hmem⟩
  intro t k err k' hrun
  unfold expandParsed at hrun
  split at hrun
  · rename_i err' k₁ hinner
    cases hrun
    exact hinside {} k err _ hinner
  · cases hrun

/-- **Every error of an expansion is a fault** to which the label leads. -/
theorem fails_expandTag (h : Trail c stack l) :
    Fails (expandTag c false stack l) (Fault c l) := by
  -- A label that is put on the stack leaves fewer labels of the catalog.
  induction hn : (unvisited c stack).length using Nat.strongRecOn generalizing stack l with
  | ind n ih =>
    intro t k err k' hrun
    cases hl : c.meaning l with
    | unknown =>
      rw [expandTag_unknown hl] at hrun
      cases hrun
    | plain =>
      rw [expandTag_plain hl] at hrun
      cases hrun
    | compound definition =>
      by_cases hs : l ∈ stack
      · rw [expandTag_open hl hs] at hrun
        cases hrun
        obtain ⟨hcycle, hhead⟩ := h.isCycle hs
        exact .cyclic .refl hhead hcycle
      · rw [expandTag_uncached hl hs] at hrun
        split at hrun
        · rename_i cause hp
          cases hrun
          exact .invalid .refl hl hp
        · rename_i p hp
          have hchildren : ∀ m ∈ p.occurrences,
              Fails (expandTag c false (stack ++ [l]) m) (Fault c m) := fun m hmem =>
            ih _ (hn ▸ length_unvisited_push hl hs) (h.push hs ⟨definition, p, hl, hp, hmem⟩) rfl
          exact fails_expandParsed hl hp hchildren t k err k' hrun

/-- An error of resolving a query is a fault to which one of its labels leads. -/
theorem fault_of_resolve {err : QueryError} (h : resolve c e = .error err) :
    ∃ l ∈ e.occurrences, Fault c l err := by
  have hfails : Fails (expandWith (expandTag c false []) e) fun err =>
      ∃ l ∈ e.occurrences, Fault c l err :=
    fails_expandWith fun l hl t k err k' hrun =>
      ⟨l, hl, fails_expandTag (trail_nil c l) t k err k' hrun⟩
  unfold resolve resolveWith at h
  split at h
  · rename_i err' k hrun
    cases h
    exact hfails {} .empty err k hrun
  · cases h

/-- **Resolving a query decides whether it is grounded.**  If it is not, the error names a cycle to
which the query leads, or a definition that is no query and why; without a label that depends on
itself there is no cycle to name. -/
theorem resolve_spec (c : Catalog) (e : Expr) :
    ((∃ resolved, resolve c e = .ok resolved) ↔ Grounded c e)
      ∧ (∀ err, resolve c e = .error err → ∃ l ∈ e.occurrences, Fault c l err)
      ∧ ((∀ l ∈ e.occurrences, ∀ m, LeadsTo c l m → ¬DependsOn c m m) →
          ∀ cycle, resolve c e ≠ .error (.cyclicDefinition cycle)) := by
  refine ⟨resolve_ok_iff, fun err => fault_of_resolve, fun hacyclic cycle h => ?_⟩
  obtain ⟨l, hl, hfault⟩ := fault_of_resolve h
  cases hfault with
  | cyclic hm hhead hcycle => exact hacyclic l hl _ hm (hcycle.dependsOn hhead)

/-- A catalog in which `p` leads to a cycle that it is no part of, and `q` in two ways to `u`. -/
def knotted : Catalog :=
  let definitions : List (TagId × String × Option String) :=
    [(1, "a", "b"), (2, "b", "-(c + x)"), (3, "c", "a"), (4, "p", "u a"),
      (5, "q", "s t"), (6, "s", "u"), (7, "t", "u + x"), (8, "u", none)]
  definitions.foldl (fun c (id, label, definition) =>
    (c.apply 0 (.insertTag id label none definition)).2) ∅

theorem resolve_spec_knotted :
    resolve knotted (.any [.tag "q", .tag "p"])
        = .error (.cyclicDefinition ["a", "b", "c", "a"])
      ∧ IsCycle knotted ["a", "b", "c", "a"]
      ∧ Grounded knotted (.tag "q") := by
  have hcyclic : resolve knotted (.any [.tag "q", .tag "p"])
      = .error (.cyclicDefinition ["a", "b", "c", "a"]) := by decide +kernel
  have hdiamond : resolve knotted (.tag "q")
      = .ok ⟨.all [.tag "u", .any [.tag "u", .nothing]], [.unknownTag "x"]⟩ := by decide +kernel
  obtain ⟨l, -, hfault⟩ := (resolve_spec knotted _).2.1 _ hcyclic
  refine ⟨hcyclic, ?_, (resolve_spec knotted (.tag "q")).1.mp ⟨_, hdiamond⟩⟩
  cases hfault with
  | cyclic _ _ hcycle => exact hcycle

end Gallery.Query
