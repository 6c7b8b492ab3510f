import Gallery.Library
import Gallery.Proofs.Query.Cached

/-!
# `Gallery.Proofs.Query.Resolution` — which queries can be resolved, and what they say

A query can be resolved if the definitions it leads to are queries and none leads back to itself.
What it says of an image is then found by following the definitions, and its expansion says the
same.

## Contents
- `Grounded`, the condition; `resolve_ok_iff`, it is met by the queries that can be resolved and by
  no others.
- `Verdict`, what a query says of an image, with labels read in the catalog; `Verdict.unique`, and
  `Expands.verdict` for expansions.
-/

namespace Gallery.Query

open Relation (TransGen ReflTransGen)

variable {c : Catalog} {e r : Expr} {l m : String} {stack : List String}

/-! ## Queries that can be resolved -/

/-- All definitions that the labels of a query lead to are queries, and no label among them depends
on itself. -/
structure Grounded (c : Catalog) (e : Expr) : Prop where
  parses : ∀ l ∈ e.occurrences, ∀ m, LeadsTo c l m →
    ∀ definition, c.meaning m = .compound definition → ∃ p, parse definition = .ok p
  acyclic : ∀ l ∈ e.occurrences, ∀ m, LeadsTo c l m → ¬DependsOn c m m

/-- Following definitions ends, since every label on the way is a different one of the catalog. -/
theorem resolvable_of_acyclic (hs : ∀ s ∈ stack, DependsOn c s l)
    (hparses : ∀ m, LeadsTo c l m →
      ∀ definition, c.meaning m = .compound definition → ∃ p, parse definition = .ok p)
    (hacyclic : ∀ m, LeadsTo c l m → ¬DependsOn c m m) : Resolvable c l := by
  induction hn : (unvisited c stack).length using Nat.strongRecOn generalizing stack l with
  | ind n ih =>
    cases hl : c.meaning l with
    | unknown => exact .leaf fun definition hd => Meaning.noConfusion (hl.symm.trans hd)
    | plain => exact .leaf fun definition hd => Meaning.noConfusion (hl.symm.trans hd)
    | compound definition =>
      obtain ⟨p, hp⟩ := hparses l .refl definition hl
      have hopen : l ∉ stack := fun hmem => hacyclic l .refl (hs l hmem)
      refine .compound hl hp fun m hmem => ?_
      have hstep : Refers c l m := ⟨definition, p, hl, hp, hmem⟩
      exact ih _ (hn ▸ length_unvisited_push hl hopen) (dependsOn_push hs hstep)
        (fun n hn => hparses n (.head hstep hn)) (fun n hn => hacyclic n (.head hstep hn)) rfl

theorem Grounded.resolvable (h : Grounded c e) (hl : l ∈ e.occurrences) : Resolvable c l :=
  resolvable_of_acyclic (fun _ hs => absurd hs List.not_mem_nil) (h.parses l hl) (h.acyclic l hl)

theorem grounded_of_resolvable (h : ∀ l ∈ e.occurrences, Resolvable c l) : Grounded c e where
  parses := by
    intro l hl m hm definition hd
    cases (h l hl).of_leadsTo hm with
    | leaf hleaf => exact absurd hd (hleaf definition)
    | compound hd' hp _ => exact ⟨_, Meaning.compound.inj (hd'.symm.trans hd) ▸ hp⟩
  acyclic := fun l hl m hm => ((h l hl).of_leadsTo hm).not_dependsOn_self

/-- The expansion of a query, if it has one. -/
theorem resolve_eq_ok {resolved : Resolved} (h : resolve c e = .ok resolved) :
    Expands c e resolved.expr := by
  have hyields := yields_expandWith fun l (_ : l ∈ e.occurrences) => yields_expandTag c [] l
  unfold resolve resolveWith at h
  split at h
  · cases h
  · rename_i r t k hrun
    cases h
    exact (hyields {} .empty r t k hrun).1

/-- **The queries that can be resolved** are those whose labels lead to queries only and not
back. -/
theorem resolve_ok_iff : (∃ resolved, resolve c e = .ok resolved) ↔ Grounded c e := by
  constructor
  · rintro ⟨resolved, h⟩
    exact grounded_of_resolvable (resolve_eq_ok h).resolvable
  · intro h
    have hsettles : Settles (expandWith (expandTag c false []) e) :=
      settles_expandWith fun l hl => settles_expandTag (h.resolvable hl) (clear_nil c l)
    obtain ⟨r, t, hrun⟩ := hsettles {} .empty
    exact ⟨⟨r, t.warnings⟩, by rw [resolve, resolveWith, hrun]⟩

/-! ## What a query says -/

/-- What a query says of an image of a snapshot.  A compound label says what its definition says. -/
inductive Verdict (s : Snapshot) (sim : Similarity) (image : Image) : Expr → Bool → Prop
  | nothing : Verdict s sim image .nothing false
  | everything : Verdict s sim image .everything true
  | unknown {l : String} (hl : s.catalog.meaning l = .unknown) : Verdict s sim image (.tag l) false
  | plain {l : String} (hl : s.catalog.meaning l = .plain) :
    Verdict s sim image (.tag l) ((s.index.labelsOf image.id).has l)
  | compound {l definition : String} {p : Expr} {b : Bool}
      (hl : s.catalog.meaning l = .compound definition) (hp : parse definition = .ok p)
      (h : Verdict s sim image p b) : Verdict s sim image (.tag l) b
  | metatag (m : Metatag) : Verdict s sim image (.metatag m) (metadataFit s.index sim image m)
  | neg {e : Expr} {b : Bool} (h : Verdict s sim image e b) : Verdict s sim image (.neg e) (!b)
  | allNil : Verdict s sim image (.all []) true
  | allCons {e : Expr} {es : List Expr} {b b' : Bool} (h : Verdict s sim image e b)
      (hs : Verdict s sim image (.all es) b') : Verdict s sim image (.all (e :: es)) (b && b')
  | anyNil : Verdict s sim image (.any []) false
  | anyCons {e : Expr} {es : List Expr} {b b' : Bool} (h : Verdict s sim image e b)
      (hs : Verdict s sim image (.any es) b') : Verdict s sim image (.any (e :: es)) (b || b')

variable {s : Snapshot} {sim : Similarity} {image : Image} {b b' : Bool}

/-- A query does not say two things. -/
theorem Verdict.unique (h : Verdict s sim image e b) (h' : Verdict s sim image e b') : b = b' := by
  induction h generalizing b' with
  | nothing | everything | metatag | allNil | anyNil =>
    cases h'
    rfl
  | unknown hl =>
    cases h' with
    | unknown => rfl
    | plain hl' => cases hl.symm.trans hl'
    | compound hl' => cases hl.symm.trans hl'
  | plain hl =>
    cases h' with
    | unknown hl' => cases hl.symm.trans hl'
    | plain => rfl
    | compound hl' => cases hl.symm.trans hl'
  | compound hl hp _ ih =>
    cases h' with
    | unknown hl' => cases hl.symm.trans hl'
    | plain hl' => cases hl.symm.trans hl'
    | compound hl' hp' h' =>
      obtain rfl := Meaning.compound.inj (hl.symm.trans hl')
      obtain rfl := Except.ok.inj (hp.symm.trans hp')
      exact ih h'
  | neg _ ih =>
    cases h' with
    | neg h' => rw [ih h']
  | allCons _ _ ih ihs =>
    cases h' with
    | allCons h' hs' => rw [ih h', ihs hs']
  | anyCons _ _ ih ihs =>
    cases h' with
    | anyCons h' hs' => rw [ih h', ihs hs']

/-- **An expansion says what the query says.** -/
theorem Expands.verdict (h : Expands s.catalog e r) :
    Verdict s sim image e (satisfies s.index sim image r) := by
  induction h with
  | nothing => exact .nothing
  | everything => exact .everything
  | metatag m => exact .metatag m
  | unknown hl => exact .unknown hl
  | plain hl => exact .plain hl
  | compound hl hp _ ih => exact .compound hl hp ih
  | neg _ ih => exact .neg ih
  | allNil => exact .allNil
  | allCons _ _ ih ihs => exact .allCons ih ihs
  | anyNil => exact .anyNil
  | anyCons _ _ ih ihs => exact .anyCons ih ihs

end Gallery.Query
