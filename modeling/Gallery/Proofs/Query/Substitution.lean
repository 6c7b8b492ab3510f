import Gallery.Catalog.Change
import Gallery.Proofs.Query.Resolution

/-!
# `Gallery.Proofs.Query.Substitution` — what a query is resolved to

Resolving puts definitions in place of compound labels and warns of labels that no tag has.  Every
definition collects warnings of its own, which are merged into those around it and kept in the cache.
In the end each unknown label is warned of once, in the order in which a reader who follows the
definitions from left to right meets them.

## Contents
- `Misses`, the unknown labels that are met; `traced_warned`, these are warned of.
- `Expands.unique` and `Misses.unique`; `resolve_eq_ok_iff`, what a query is resolved to.
- `resolve_of_plain`, queries over plain tags are left as they are, and `Expands.plain_of_mem`,
  expansions are such queries.
- `warmed`, the cache after earlier queries.
- The result: the expansion of a query and its warnings, with and without a cache.
-/

namespace Gallery.Query

open Resolving

variable {c : Catalog} {e r r' : Expr} {l definition : String} {ls ls' us us' stack : List String}

/-! ## Unknown labels -/

/-- The unknown labels that are met while labels are read from left to right, each as often as it is
met.  In place of a compound label its definition is read. -/
inductive Misses (c : Catalog) : List String → List String → Prop
  | nil : Misses c [] []
  | unknown {l : String} {ls us : List String} (hl : c.meaning l = .unknown) (h : Misses c ls us) :
    Misses c (l :: ls) (l :: us)
  | plain {l : String} {ls us : List String} (hl : c.meaning l = .plain) (h : Misses c ls us) :
    Misses c (l :: ls) us
  | compound {l definition : String} {p : Expr} {ls us us' : List String}
      (hl : c.meaning l = .compound definition) (hp : parse definition = .ok p)
      (hd : Misses c p.occurrences us) (h : Misses c ls us') : Misses c (l :: ls) (us ++ us')

theorem Misses.append (h : Misses c ls us) (h' : Misses c ls' us') :
    Misses c (ls ++ ls') (us ++ us') := by
  induction h with
  | nil => exact h'
  | unknown hl _ ih => exact .unknown hl ih
  | plain hl _ ih => exact .plain hl ih
  | compound hl hp hd _ _ ih =>
    rw [List.append_assoc]
    exact .compound hl hp hd ih

theorem Misses.unique (h : Misses c ls us) (h' : Misses c ls us') : us = us' := by
  induction h generalizing us' with
  | nil =>
    cases h'
    rfl
  | unknown hl _ ih =>
    cases h' with
    | unknown _ h' => rw [ih h']
    | plain hl' => cases hl.symm.trans hl'
    | compound hl' => cases hl.symm.trans hl'
  | plain hl _ ih =>
    cases h' with
    | unknown hl' => cases hl.symm.trans hl'
    | plain _ h' => rw [ih h']
    | compound hl' => cases hl.symm.trans hl'
  | compound hl hp _ _ ihd ih =>
    cases h' with
    | unknown hl' => cases hl.symm.trans hl'
    | plain hl' => cases hl.symm.trans hl'
    | compound hl' hp' hd' h' =>
      obtain rfl := Meaning.compound.inj (hl.symm.trans hl')
      obtain rfl := Except.ok.inj (hp.symm.trans hp')
      rw [ihd hd', ih h']

/-! ## Warnings -/

/-- Warnings of the unknown labels that are met in a list have been added. -/
def Warned (c : Catalog) (ls : List String) (t t' : Trace) : Prop :=
  ∃ us, Misses c ls us ∧ t'.warnings = appendNew t.warnings (us.map .unknownTag)

/-- **After a success, the unknown labels that a label leads to have been warned of.** -/
theorem traced_warned (c : Catalog) : Traced c (Warned c) where
  nil := fun _ => ⟨[], .nil, rfl⟩
  append := by
    rintro ls ls' t t₁ t' ⟨us, hus, hwarnings⟩ ⟨us', hus', hwarnings'⟩
    refine ⟨us ++ us', hus.append hus', ?_⟩
    rw [hwarnings', hwarnings, appendNew_append, List.map_append]
  unknown := fun _ hl => ⟨[_], .unknown hl .nil, rfl⟩
  plain := fun _ hl => ⟨[], .plain hl .nil, rfl⟩
  compound := by
    -- The warnings of a definition have no repetitions when they become those of its label.
    rintro l definition p inner t hl hp ⟨us, hus, hwarnings⟩
    refine ⟨us ++ [], .compound hl hp hus .nil, ?_⟩
    rw [List.append_nil]
    show appendNew t.warnings inner.warnings = _
    rw [hwarnings, appendNew_nil, appendNew_distinct]

/-! ## Resolving -/

/-- A query has at most one expansion. -/
theorem Expands.unique (h : Expands c e r) (h' : Expands c e r') : r = r' := by
  induction h generalizing r' with
  | nothing | everything | metatag | allNil | anyNil =>
    cases h'
    rfl
  | unknown hl =>
    cases h' with
    | unknown => rfl
    | plain hl' => cases hl.symm.trans hl'
    | compound hl' => cases hl.symm.trans hl'
  | plain hl =>
    cases h' with
    | unknown hl' => cases hl.symm.trans hl'
    | plain => rfl
    | compound hl' => cases hl.symm.trans hl'
  | compound hl hp _ ih =>
    cases h' with
    | unknown hl' => cases hl.symm.trans hl'
    | plain hl' => cases hl.symm.trans hl'
    | compound hl' hp' h' =>
      obtain rfl := Meaning.compound.inj (hl.symm.trans hl')
      obtain rfl := Except.ok.inj (hp.symm.trans hp')
      exact ih h'
  | neg _ ih =>
    cases h' with
    | neg h' => rw [ih h']
  | allCons _ _ ih ihs =>
    cases h' with
    | allCons h' hs' =>
      obtain rfl := Expr.all.inj (ihs hs')
      rw [ih h']
  | anyCons _ _ ih ihs =>
    cases h' with
    | anyCons h' hs' =>
      obtain rfl := Expr.any.inj (ihs hs')
      rw [ih h']

/-- The warnings of a query that is resolved. -/
theorem warnings_of_resolve {resolved : Resolved} (h : resolve c e = .ok resolved) :
    ∃ us, Misses c e.occurrences us ∧ resolved.warnings = (distinct us).map .unknownTag := by
  unfold resolve resolveWith at h
  split at h
  · cases h
  · rename_i r t k hrun
    cases h
    obtain ⟨us, hus, hwarnings⟩ :=
      (traced_warned c).relates_expandTags [] e {} .empty r t k hrun
    refine ⟨us, hus, ?_⟩
    rw [hwarnings, appendNew_nil]
    exact distinct_map fun _ _ _ _ => Warning.unknownTag.inj

/-- **What a query is resolved to**: its expansion, with a warning of each unknown label that is met
on the way. -/
theorem resolve_eq_ok_iff {resolved : Resolved} :
    resolve c e = .ok resolved ↔ Expands c e resolved.expr
      ∧ ∃ us, Misses c e.occurrences us ∧ resolved.warnings = (distinct us).map .unknownTag := by
  constructor
  · exact fun h => ⟨resolve_eq_ok h, warnings_of_resolve h⟩
  · rintro ⟨hexpands, us, hus, hwarnings⟩
    obtain ⟨found, hfound⟩ := resolve_ok_iff.mpr (grounded_of_resolvable hexpands.resolvable)
    obtain ⟨us', hus', hwarnings'⟩ := warnings_of_resolve hfound
    have hexpr : found.expr = resolved.expr := (resolve_eq_ok hfound).unique hexpands
    obtain rfl := hus'.unique hus
    rw [hfound]
    obtain ⟨expr, warnings⟩ := found
    obtain rfl : expr = resolved.expr := hexpr
    obtain rfl : warnings = resolved.warnings := hwarnings'.trans hwarnings.symm
    rfl

/-! ## Plain tags -/

theorem expands_operands {es : List Expr} (h : ∀ e ∈ es, Expands c e e) :
    Expands c (.all es) (.all es) ∧ Expands c (.any es) (.any es) := by
  induction es with
  | nil => exact ⟨.allNil, .anyNil⟩
  | cons e es ih =>
    obtain ⟨he, hes⟩ := List.forall_mem_cons.mp h
    exact ⟨.allCons he (ih hes).1, .anyCons he (ih hes).2⟩

theorem expands_of_plain (h : ∀ l ∈ e.occurrences, c.meaning l = .plain) : Expands c e e := by
  induction e using Expr.induction with
  | nothing => exact .nothing
  | everything => exact .everything
  | tag l => exact .plain (h l List.mem_cons_self)
  | metatag m => exact .metatag m
  | neg e ih => exact .neg (ih h)
  | all es ih =>
    exact (expands_operands fun e he =>
      ih e he fun l hl => h l (mem_occurrencesList.mpr ⟨e, he, hl⟩)).1
  | any es ih =>
    exact (expands_operands fun e he =>
      ih e he fun l hl => h l (mem_occurrencesList.mpr ⟨e, he, hl⟩)).2

theorem misses_of_plain (h : ∀ l ∈ ls, c.meaning l = .plain) : Misses c ls [] := by
  induction ls with
  | nil => exact .nil
  | cons l ls ih =>
    obtain ⟨hl, hls⟩ := List.forall_mem_cons.mp h
    exact .plain hl (ih hls)

/-- A query whose labels are those of plain tags is its own expansion, and nothing is warned of. -/
theorem resolve_of_plain (h : ∀ l ∈ e.occurrences, c.meaning l = .plain) :
    resolve c e = .ok ⟨e, []⟩ :=
  resolve_eq_ok_iff.mpr ⟨expands_of_plain h, [], misses_of_plain h, rfl⟩

/-- The labels of an expansion are those of plain tags. -/
theorem Expands.plain_of_mem (h : Expands c e r) : ∀ l ∈ r.occurrences, c.meaning l = .plain := by
  induction h with
  | nothing | everything | metatag | unknown | allNil | anyNil =>
    exact fun l hl => absurd hl List.not_mem_nil
  | plain hl => exact List.forall_mem_singleton.mpr hl
  | compound _ _ _ ih => exact ih
  | neg _ ih => exact ih
  | allCons _ _ ih ihs => exact List.forall_mem_append.mpr ⟨ih, ihs⟩
  | anyCons _ _ ih ihs => exact List.forall_mem_append.mpr ⟨ih, ihs⟩

/-! ## With a cache -/

/-- The cache after queries that were resolved one after the other, as far as they could be. -/
def warmed (c : Catalog) (earlier : List Expr) : Cache :=
  earlier.foldl (fun k e => (resolveWith c true e k).2) .empty

theorem sound_warmed (c : Catalog) (earlier : List Expr) : Sound c (warmed c earlier) := by
  have hfold : ∀ {k : Cache}, Sound c k →
      Sound c (earlier.foldl (fun k e => (resolveWith c true e k).2) k) := by
    induction earlier with
    | nil => exact fun hk => hk
    | cons e earlier ih => exact fun hk => ih (hk.grows (resolveWith_eq hk e).2)
  exact hfold (sound_empty c)

/-- **Resolving is substituting.**  A query is resolved to what it becomes when each compound label is
replaced by its definition, itself resolved, and each unknown label by the query without images; the
warnings are of the unknown labels that are met on the way, each once and in the order in which they
are met first.  It is the same after any earlier queries whose expansions are cached.  What has been
resolved is resolved to itself, without a warning. -/
theorem resolve_substitutes (c : Catalog) (earlier : List Expr) (e : Expr) (resolved : Resolved) :
    (resolve c e = .ok resolved ↔ Expands c e resolved.expr
        ∧ ∃ us, Misses c e.occurrences us ∧ resolved.warnings = (distinct us).map .unknownTag)
      ∧ (resolveWith c true e (warmed c earlier)).1 = resolve c e
      ∧ (resolve c e = .ok resolved → resolve c resolved.expr = .ok ⟨resolved.expr, []⟩) := by
  refine ⟨resolve_eq_ok_iff, (resolveWith_eq (sound_warmed c earlier) e).1, fun h => ?_⟩
  exact resolve_of_plain (resolve_eq_ok h).plain_of_mem

/-- A catalog in which `pets` and `cute` mention labels that no tag has, `cute` also by way of `pets`,
and `loop` mentions itself. -/
def layered : Catalog :=
  let definitions : List (TagId × String × Option String) :=
    [(1, "cat", none), (2, "pets", "cat + dog"), (3, "cute", "kitten pets"), (4, "loop", "loop")]
  definitions.foldl (fun c (id, label, definition) =>
    (c.apply 0 (.insertTag id label none definition)).2) ∅

/-- Unknown labels are met in definitions and beside them; `dog` and `kitten` are met twice. -/
theorem resolve_substitutes_layered :
    let e : Expr := .all [.tag "cute", .any [.tag "bird", .tag "pets"], .tag "kitten"]
    let r : Expr := .all [.all [.nothing, .any [.tag "cat", .nothing]],
      .any [.nothing, .any [.tag "cat", .nothing]], .nothing]
    let warnings : List Warning := [.unknownTag "kitten", .unknownTag "dog", .unknownTag "bird"]
    resolve layered e = .ok ⟨r, warnings⟩ ∧ Expands layered e r
      ∧ (resolveWith layered true e (warmed layered [.tag "pets", .tag "loop", .tag "cute"])).1
          = .ok ⟨r, warnings⟩
      ∧ resolve layered r = .ok ⟨r, []⟩ := by
  intro e r warnings
  have hresolve : resolve layered e = .ok ⟨r, warnings⟩ := by decide +kernel
  obtain ⟨hiff, hcached, hagain⟩ :=
    resolve_substitutes layered [.tag "pets", .tag "loop", .tag "cute"] e ⟨r, warnings⟩
  exact ⟨hresolve, (hiff.mp hresolve).1, hcached.trans hresolve, hagain hresolve⟩

end Gallery.Query
