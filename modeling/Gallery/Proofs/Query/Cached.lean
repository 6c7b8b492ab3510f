import Gallery.Proofs.Query.Expansion

/-!
# `Gallery.Proofs.Query.Cached` — the cache does not show

A cached expansion is one that was computed on a stack with its label alone; it is used on whatever
stack its label is met.  That this is right rests on two facts: what can be resolved does not depend
on itself, so no cached success hides a cycle through the stack; and an expansion has visited all
labels that its own leads to, so it survives every change of other labels.

## Contents
- `Valid`, an expansion that is the one computed without the cache, and what follows from it.
- `Sound`, a cache that is right about a catalog; it stays so over `Cache.invalidate`
  (`sound_invalidate`).
- `Mimics`, a computation with the cache that does what another does without; `mimics_expandTag`,
  and `resolveWith_eq`, the same for queries.
-/

namespace Gallery.Query

open Resolving
open Relation (TransGen ReflTransGen)

variable {c d : Catalog} {useCache : Bool} {stack : List String} {l m : String}
  {definition : String} {x : Expansion} {k : Cache}

/-! ## Expansions -/

/-- The expansion of a label is the one that is computed without a cache. -/
def Valid (c : Catalog) (l : String) (x : Expansion) : Prop :=
  ∃ definition p, c.meaning l = .compound definition ∧ parse definition = .ok p ∧
    ∀ k, expandWith (expandTag c false [l]) p {} k = (.ok (x.expr, ⟨x.visited, x.warnings⟩), k)

theorem Valid.resolvable (h : Valid c l x) : Resolvable c l := by
  obtain ⟨definition, p, hl, hp, hrun⟩ := h
  have hchildren := fun m (_ : m ∈ p.occurrences) => yields_expandTag c [l] m
  obtain ⟨hexpands, -, -⟩ := yields_expandWith hchildren {} .empty _ _ _ (hrun .empty)
  exact .compound hl hp hexpands.resolvable

/-- A valid expansion has visited all labels that its own depends on. -/
theorem Valid.mem_visited (h : Valid c l x) (hm : DependsOn c l m) : m ∈ x.visited := by
  obtain ⟨definition, p, hl, hp, hrun⟩ := h
  have hchildren := fun m (_ : m ∈ p.occurrences) => yields_expandTag c [l] m
  obtain ⟨-, -, hnoted⟩ := yields_expandWith hchildren {} .empty _ _ _ (hrun .empty)
  obtain ⟨n, hstep, hnm⟩ := TransGen.head'_iff.mp hm
  exact hnoted m ⟨n, hstep.mem_occurrences hl hp, hnm⟩

/-- On any two stacks that stay clear, a definition has the same expansion. -/
theorem expandWith_definition_congr {p : Expr} {stack' : List String}
    (hl : c.meaning l = .compound definition) (hp : parse definition = .ok p)
    (hr : Resolvable c l) (hcd : ∀ m, LeadsTo c l m → d.meaning m = c.meaning m)
    (hs : Clear c stack l) (hs' : Clear c stack' l) :
    expandWith (expandTag c false (stack ++ [l])) p
      = expandWith (expandTag d false (stack' ++ [l])) p := by
  refine expandWith_congr fun m hmem => ?_
  have hstep : Refers c l m := ⟨definition, p, hl, hp, hmem⟩
  exact expandTag_congr (hr.of_refers hstep) (fun n hn => hcd n (.head hstep hn))
    (hs.push hstep hr) (hs'.push hstep hr)

theorem clear_nil (c : Catalog) (l : String) : Clear c [] l := fun _ _ => List.not_mem_nil

/-- A label on the stack that depends on `l` is not met again below `l`. -/
theorem Resolvable.clear (hr : Resolvable c l) (hs : ∀ s ∈ stack, DependsOn c s l) :
    Clear c stack l :=
  fun m hm hmem => hr.not_dependsOn_self (TransGen.trans_right hm (hs m hmem))

/-- A valid expansion stays valid where the labels that its own leads to mean the same. -/
theorem Valid.congr (h : Valid c l x) (hcd : ∀ m, LeadsTo c l m → d.meaning m = c.meaning m)
    (version : Version) : Valid d l { x with version } := by
  have hr := h.resolvable
  obtain ⟨definition, p, hl, hp, hrun⟩ := h
  refine ⟨definition, p, (hcd l .refl).trans hl, hp, fun k => ?_⟩
  have hsame := expandWith_definition_congr hl hp hr hcd (clear_nil c l) (clear_nil c l)
  rw [← hrun k]
  exact congrFun (congrFun hsame.symm {}) k

/-- **A valid expansion may be used on every stack** whose labels depend on its own. -/
theorem Valid.expandTag_eq (h : Valid c l x) (hs : ∀ s ∈ stack, DependsOn c s l) (t : Trace)
    (k : Cache) :
    expandTag c false stack l t k
      = (.ok (x.expr, (t.merge [l] []).merge x.visited x.warnings), k) := by
  have hclear := h.resolvable.clear hs
  have hr := h.resolvable
  obtain ⟨definition, p, hl, hp, hrun⟩ := h
  have hsame := expandWith_definition_congr hl hp hr (fun _ _ => rfl) hclear (clear_nil c l)
  rw [expandTag_uncached hl (hclear l .refl)]
  simp only [hp, expandParsed, hsame]
  rw [List.nil_append, hrun k]
  rfl

/-! ## Caches -/

/-- The entries with the version of a catalog are valid for it. -/
def Sound (c : Catalog) (k : Cache) : Prop :=
  ∀ l x, k.entries.get? l = some x → x.version = c.version → Valid c l x

/-- The further entries of a cache are valid for a catalog and have its version. -/
def Grows (c : Catalog) (k k' : Cache) : Prop :=
  ∀ l x, k'.entries.get? l = some x →
    k.entries.get? l = some x ∨ x.version = c.version ∧ Valid c l x

theorem sound_empty (c : Catalog) : Sound c .empty := fun _ _ h => nomatch h

theorem Grows.refl (c : Catalog) (k : Cache) : Grows c k k := fun _ _ => .inl

theorem Grows.trans {k' k'' : Cache} (h : Grows c k k') (h' : Grows c k' k'') : Grows c k k'' :=
  fun l x hx => (h' l x hx).elim (h l x) .inr

theorem Sound.grows {k' : Cache} (h : Sound c k) (hk : Grows c k k') : Sound c k' :=
  fun l x hx hv => (hk l x hx).elim (fun hx => h l x hx hv) And.right

/-- Only a valid expansion is added by an insertion, if any is. -/
theorem grows_insert (hv : x.version = c.version) (hx : Valid c l x) (k : Cache) :
    Grows c k (k.insert l x) := by
  intro l' x' hx'
  rw [Cache.get?_entries_insert] at hx'
  split at hx'
  · rename_i hl'
    obtain rfl := Option.some.inj hx'
    exact .inr ⟨hv, hl'.1 ▸ hx⟩
  · exact .inl hx'

theorem avoids_iff {labels : List String} :
    Cache.avoids labels l x = true ↔ ∀ m ∈ labels, m ≠ l ∧ m ∉ x.visited := by
  simp [Cache.avoids]

/-- The entries after an invalidation are those of the source that rest on none of the labels, with
the new version. -/
theorem get?_invalidate_eq_some_iff {labels : List String} {source target : Version}
    {y : Expansion} :
    (k.invalidate labels source target).entries.get? l = some y ↔
      ∃ x, k.entries.get? l = some x ∧ x.version = source
        ∧ (∀ m ∈ labels, m ≠ l ∧ m ∉ x.visited) ∧ { x with version := target } = y := by
  simp only [Cache.get?_entries_invalidate, Option.map_eq_some_iff, Option.filter_eq_some_iff,
    Bool.and_eq_true, beq_iff_eq, avoids_iff, and_assoc]

/-- What a label leads to is the label itself or has been recorded, so it is avoided with them. -/
theorem not_mem_of_avoids {labels : List String} (hrecords : ∀ m, DependsOn c l m → m ∈ x.visited)
    (havoids : ∀ m ∈ labels, m ≠ l ∧ m ∉ x.visited) (hm : LeadsTo c l m) : m ∉ labels := by
  intro hmem
  rcases Relation.reflTransGen_iff_eq_or_transGen.mp hm with rfl | hdep
  · exact (havoids m hmem).1 rfl
  · exact (havoids m hmem).2 (hrecords m hdep)

/-- **What is carried over stays valid**: no label that it leads to has changed. -/
theorem sound_invalidate {labels : List String} (h : Sound c k)
    (hcd : ∀ m, m ∉ labels → d.meaning m = c.meaning m) :
    Sound d (k.invalidate labels c.version d.version) := by
  intro l x hx _
  obtain ⟨x₀, hentry, hversion, havoids, rfl⟩ := get?_invalidate_eq_some_iff.mp hx
  have hvalid := h l x₀ hentry hversion
  exact hvalid.congr (fun m hm =>
    hcd m (not_mem_of_avoids (fun _ => hvalid.mem_visited) havoids hm)) d.version

/-- All that is left after an invalidation has the new version. -/
theorem version_of_invalidate {labels : List String} {source target : Version}
    (hx : (k.invalidate labels source target).entries.get? l = some x) : x.version = target := by
  obtain ⟨x₀, -, -, -, rfl⟩ := get?_invalidate_eq_some_iff.mp hx
  rfl

/-- A cache is sound for every catalog with the same version and meanings. -/
theorem Sound.congr (h : Sound c k) (hv : d.version = c.version)
    (hcd : ∀ m, d.meaning m = c.meaning m) : Sound d k :=
  fun l x hx hversion => (h l x hx (hversion.trans hv)).congr (fun m _ => hcd m) x.version

/-! ## Computations -/

/-- With a sound cache a computation has the result that the other has with any cache that it does
not use; it leaves a cache that has grown by valid entries. -/
def Mimics {α : Type} (c : Catalog) (w w' : Resolving α) : Prop :=
  ∀ t k k', Sound c k → ∃ result k₁, w t k = (result, k₁) ∧ Grows c k k₁ ∧ w' t k' = (result, k')

theorem compositional_mimics (c : Catalog) : Compositional fun _ => Mimics c where
  of_pure := fun a t k _ _ => ⟨.ok (a, t), k, rfl, .refl c k, rfl⟩
  of_bind := by
    intro α β w w' f f' hw hf t k k' hk
    obtain ⟨result, k₁, hrun, hgrows, hrun'⟩ := hw t k k' hk
    rw [bind_run, bind_run, hrun, hrun']
    cases result with
    | error e => exact ⟨.error e, k₁, rfl, hgrows, rfl⟩
    | ok r =>
      obtain ⟨result, k₂, hfrun, hgrows', hfrun'⟩ := hf r.1 r.2 k₁ k' (hk.grows hgrows)
      exact ⟨result, k₂, hfrun, hgrows.trans hgrows', hfrun'⟩

/-- Computing the expansion of a definition gives a valid entry, if it succeeds. -/
theorem mimics_expandParsed {p : Expr} (hl : c.meaning l = .compound definition)
    (hp : parse definition = .ok p) (hs : ∀ s ∈ stack, DependsOn c s l)
    (hm : ∀ m ∈ p.occurrences,
      Mimics c (expandTag c true (stack ++ [l]) m) (expandTag c false (stack ++ [l]) m)) :
    Mimics c (expandParsed c true stack l p) (expandParsed c false stack l p) := by
  intro t k k' hk
  obtain ⟨result, k₁, hrun, hgrows, hrun'⟩ := (compositional_mimics c).expandWith hm {} k k' hk
  simp only [expandParsed, hrun, hrun']
  cases result with
  | error e => exact ⟨_, _, rfl, hgrows, rfl⟩
  | ok r =>
    obtain ⟨r, inner⟩ := r
    refine ⟨_, _, rfl, ?_, rfl⟩
    refine hgrows.trans (grows_insert rfl ⟨definition, p, hl, hp, fun k₀ => ?_⟩ k₁)
    have hchildren := fun m (_ : m ∈ p.occurrences) => yields_expandTag c (stack ++ [l]) m
    obtain ⟨hexpands, -, -⟩ := yields_expandWith hchildren {} k' _ _ _ hrun'
    have hr : Resolvable c l := .compound hl hp hexpands.resolvable
    have hsame :=
      expandWith_definition_congr hl hp hr (fun _ _ => rfl) (hr.clear hs) (clear_nil c l)
    obtain ⟨result, k₂, hrun₀, -, hrun₀'⟩ := (compositional_mimics c).expandWith hm {} k k₀ hk
    obtain ⟨rfl, rfl⟩ := Prod.mk.inj (hrun.symm.trans hrun₀)
    rw [List.nil_append] at hsame
    rw [← hsame]
    exact hrun₀'

/-- **Expanding with the cache is expanding without.** -/
theorem mimics_expandTag (hs : ∀ s ∈ stack, DependsOn c s l) :
    Mimics c (expandTag c true stack l) (expandTag c false stack l) := by
  induction hn : (unvisited c stack).length using Nat.strongRecOn generalizing stack l with
  | ind n ih =>
    intro t k k' hk
    cases hl : c.meaning l with
    | unknown => exact ⟨_, k, expandTag_unknown hl t k, .refl c k, expandTag_unknown hl t k'⟩
    | plain => exact ⟨_, k, expandTag_plain hl t k, .refl c k, expandTag_plain hl t k'⟩
    | compound definition =>
      by_cases hopen : l ∈ stack
      · exact ⟨_, k, expandTag_open hl hopen t k, .refl c k, expandTag_open hl hopen t k'⟩
      · cases hcached : k.get? l c.version with
        | some x =>
          obtain ⟨hentry, hversion⟩ := Cache.get?_eq_some_iff.mp hcached
          have hvalid := hk l x hentry hversion
          exact ⟨_, k, expandTag_cached hl hopen t hcached, .refl c k, hvalid.expandTag_eq hs t k'⟩
        | none =>
          rw [expandTag_computed hl hopen t fun _ => hcached, expandTag_uncached hl hopen]
          cases hp : parse definition with
          | error e => exact ⟨_, k, rfl, .refl c k, rfl⟩
          | ok p =>
            refine mimics_expandParsed hl hp hs (fun m hmem => ?_) t k k' hk
            have hstep : Refers c l m := ⟨definition, p, hl, hp, hmem⟩
            exact ih _ (hn ▸ length_unvisited_push hl hopen) (dependsOn_push hs hstep) rfl

/-! ## Queries -/

/-- Resolving a query with a sound cache is resolving it without. -/
theorem resolveWith_eq (h : Sound c k) (e : Expr) :
    (resolveWith c true e k).1 = (resolveWith c false e .empty).1
      ∧ Grows c k (resolveWith c true e k).2 := by
  have htags : ∀ l ∈ e.occurrences, Mimics c (expandTag c true [] l) (expandTag c false [] l) :=
    fun _ _ => mimics_expandTag fun _ hs => absurd hs List.not_mem_nil
  have hmimics := (compositional_mimics c).expandWith htags
  obtain ⟨result, k₁, hrun, hgrows, hrun'⟩ := hmimics {} k .empty h
  unfold resolveWith
  rw [hrun, hrun']
  cases result with
  | error e => exact ⟨rfl, hgrows⟩
  | ok r => exact ⟨rfl, hgrows⟩

end Gallery.Query
