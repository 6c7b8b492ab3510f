import Gallery.Proofs.Catalog.Versions
import Gallery.Proofs.Query.Substitution

/-!
# `Gallery.Proofs.Query.Invalidation` — entries of the cache after a change

An entry records the labels that were visited for it.  These are the labels on which its own depends
and no others, so an entry that has recorded none of the changed labels is as right after the change
as before, also where an unknown label has become known or a plain one compound elsewhere.  Entries
that have recorded more than was visited are right too; they are only dropped more often.

## Contents
- `traced_reached` and `Valid.mem_visited_iff`, the labels that are visited.
- `Correct`, an entry that says what resolving says; `correct_iff`, this is the computed expansion,
  and `Correct.congr`.
- The result: an invalidation leaves correct entries with the new version, and it leaves all entries
  of the old version that rest on no changed label.
-/

namespace Gallery.Query

open Relation (TransGen ReflTransGen)

variable {c d : Catalog} {l m definition : String} {p : Expr} {x : Expansion} {k : Cache}

/-! ## Visited labels -/

/-- Only labels to which the given ones lead have been visited in between. -/
def Reached (c : Catalog) (ls : List String) (t t' : Trace) : Prop :=
  ∀ m ∈ t'.visited, m ∈ t.visited ∨ ∃ l ∈ ls, LeadsTo c l m

theorem mem_visited_merge {t : Trace} {visited : List String} {warnings : List Warning} :
    m ∈ (t.merge visited warnings).visited ↔ m ∈ t.visited ∨ m ∈ visited := mem_appendNew

theorem reached_self (c : Catalog) (t : Trace) : Reached c [l] t (t.merge [l] []) := by
  intro m hm
  rcases mem_visited_merge.mp hm with hm | hm
  · exact .inl hm
  · exact .inr ⟨l, List.mem_cons_self, List.mem_singleton.mp hm ▸ .refl⟩

/-- **After a success**, only labels have been visited to which the expanded ones lead. -/
theorem traced_reached (c : Catalog) : Traced c (Reached c) where
  nil := fun _ _ => .inl
  append := by
    intro ls ls' t t₁ t' h h' m hm
    rcases h' m hm with hm | ⟨l, hl, hlm⟩
    · exact (h m hm).imp_right fun ⟨l, hl, hlm⟩ => ⟨l, List.mem_append_left _ hl, hlm⟩
    · exact .inr ⟨l, List.mem_append_right _ hl, hlm⟩
  unknown := by
    intro l t _ m hm
    exact reached_self c t m ((mem_visited_merge.mp hm).resolve_right List.not_mem_nil)
  plain := fun t _ => reached_self c t
  compound := by
    intro l definition p inner t hl hp h m hm
    rcases mem_visited_merge.mp hm with hm | hm
    · exact reached_self c t m hm
    · obtain ⟨n, hn, hnm⟩ := (h m hm).resolve_left List.not_mem_nil
      exact .inr ⟨l, List.mem_cons_self, .head ⟨definition, p, hl, hp, hn⟩ hnm⟩

/-- **An expansion has visited the labels on which its own depends** and no others. -/
theorem Valid.mem_visited_iff (h : Valid c l x) : m ∈ x.visited ↔ DependsOn c l m := by
  refine ⟨fun hm => ?_, h.mem_visited⟩
  obtain ⟨definition, p, hl, hp, hrun⟩ := h
  have hreached : Reached c p.occurrences {} ⟨x.visited, x.warnings⟩ :=
    (traced_reached c).relates_expandTags [l] p {} .empty _ _ _ (hrun .empty)
  obtain ⟨n, hn, hnm⟩ := (hreached m hm).resolve_left List.not_mem_nil
  exact TransGen.head' ⟨definition, p, hl, hp, hn⟩ hnm

/-- What is warned of is warned of once. -/
theorem Valid.nodup_warnings (h : Valid c l x) : x.warnings.Nodup := by
  obtain ⟨definition, p, hl, hp, hrun⟩ := h
  obtain ⟨us, -, hwarnings⟩ :=
    (traced_warned c).relates_expandTags [l] p {} .empty _ _ _ (hrun .empty)
  rw [show x.warnings = _ from hwarnings]
  exact nodup_appendNew List.nodup_nil _

/-! ## Correct entries -/

/-- An entry says what resolving its label says, and has recorded all labels on which that rests. -/
structure Correct (c : Catalog) (l : String) (x : Expansion) : Prop where
  resolves : resolve c (.tag l) = .ok ⟨x.expr, x.warnings⟩
  records : ∀ m, DependsOn c l m → m ∈ x.visited

theorem Correct.resolvable (h : Correct c l x) : Resolvable c l :=
  (resolve_eq_ok h.resolves).resolvable l List.mem_cons_self

theorem Valid.correct (h : Valid c l x) : Correct c l x where
  resolves := by
    have hrun := h.expandTag_eq (fun _ hs => absurd hs List.not_mem_nil) {} .empty
    have hwarnings : appendNew [] x.warnings = x.warnings :=
      (appendNew_nil _).trans (distinct_of_nodup h.nodup_warnings)
    unfold resolve resolveWith
    rw [expandWith, hrun]
    exact congrArg (fun warnings => Except.ok (Resolved.mk x.expr warnings)) hwarnings
  records := fun _ => h.mem_visited

theorem Sound.correct (h : Sound c k) (hx : k.entries.get? l = some x)
    (hversion : x.version = c.version) : Correct c l x :=
  (h l x hx hversion).correct

/-- Without the cache, what a definition is expanded to does not depend on what the cache holds. -/
theorem expandWith_definition_cache (hl : c.meaning l = .compound definition)
    (hp : parse definition = .ok p) (k : Cache) :
    expandWith (expandTag c false [l]) p {} k
      = ((expandWith (expandTag c false [l]) p {} .empty).1, k) := by
  have hmimics := (compositional_mimics c).expandWith fun m (hm : m ∈ p.occurrences) =>
    mimics_expandTag (List.forall_mem_singleton.mpr (.single ⟨definition, p, hl, hp, hm⟩))
  obtain ⟨result, k₁, hrun, -, hresult⟩ := hmimics {} .empty k (sound_empty c)
  obtain ⟨result', k₂, hrun', -, hresult'⟩ := hmimics {} .empty .empty (sound_empty c)
  obtain ⟨rfl, -⟩ := Prod.mk.inj (hrun.symm.trans hrun')
  rw [hresult, hresult']

/-- A compound label that can be resolved has a valid expansion. -/
theorem exists_valid (hl : c.meaning l = .compound definition) (hr : Resolvable c l)
    (version : Version) : ∃ x, Valid c l x ∧ x.version = version := by
  cases hr with
  | leaf hleaf => exact absurd hl (hleaf definition)
  | @compound _ definition p hl hp hm =>
    have hsettles : Settles (expandWith (expandTag c false [l]) p) :=
      settles_expandWith fun m hmem => by
        have hstep : Refers c l m := ⟨definition, p, hl, hp, hmem⟩
        exact settles_expandTag (hm m hmem) ((clear_nil c l).push hstep (.compound hl hp hm))
    obtain ⟨expr, inner, hinner⟩ := hsettles {} .empty
    refine ⟨⟨expr, inner.visited, inner.warnings, version⟩, ⟨definition, p, hl, hp, ?_⟩, rfl⟩
    intro k
    rw [expandWith_definition_cache hl hp k, hinner]

/-- **The correct entries of a compound label** are its computed expansion, but they may have
recorded further labels. -/
theorem correct_iff (hl : c.meaning l = .compound definition) :
    Correct c l x ↔
      ∃ visited, (∀ m ∈ visited, m ∈ x.visited) ∧ Valid c l { x with visited } := by
  constructor
  · intro h
    obtain ⟨y, hy, hversion⟩ := exists_valid hl h.resolvable x.version
    obtain ⟨expr, visited, warnings, version⟩ := y
    obtain rfl : version = x.version := hversion
    have hsame := Except.ok.inj (hy.correct.resolves.symm.trans h.resolves)
    obtain ⟨rfl, rfl⟩ := Resolved.mk.inj hsame
    exact ⟨visited, fun m hm => h.records m (hy.mem_visited_iff.mp hm), hy⟩
  · rintro ⟨visited, hvisited, hvalid⟩
    exact ⟨hvalid.correct.resolves, fun m hm => hvisited m (hvalid.mem_visited hm)⟩

/-! ## Other catalogs -/

theorem Refers.congr (h : Refers d l m) (hl : d.meaning l = c.meaning l) : Refers c l m := by
  obtain ⟨definition, p, hd, hp, hm⟩ := h
  exact ⟨definition, p, hl.symm.trans hd, hp, hm⟩

/-- A label depends on no more where the labels that it leads to mean the same. -/
theorem dependsOn_congr (hcd : ∀ m, LeadsTo c l m → d.meaning m = c.meaning m)
    (h : DependsOn d l m) : DependsOn c l m := by
  induction h with
  | single hstep => exact .single (hstep.congr (hcd l .refl))
  | tail _ hstep ih => exact ih.tail (hstep.congr (hcd _ ih.to_reflTransGen))

/-- **A correct entry stays correct** where the labels that its own leads to mean the same. -/
theorem Correct.congr (h : Correct c l x) (hcd : ∀ m, LeadsTo c l m → d.meaning m = c.meaning m)
    (version : Version) : Correct d l { x with version } where
  resolves := by
    have hsame := expandTag_congr h.resolvable hcd (clear_nil c l) (clear_nil c l)
    have hresolves := h.resolves
    unfold resolve resolveWith at hresolves ⊢
    rw [expandWith] at hresolves ⊢
    rw [← hsame]
    exact hresolves
  records := fun m hm => h.records m (dependsOn_congr hcd hm)

/-! ## Invalidation -/

/-- **Invalidation keeps the correct entries.**  Let two catalogs have the same labels with the same
definitions outside some labels, and let the entries of a cache for the version of the first be
correct.  When the cache is carried over to the second, all entries that are left have its version
and are correct for it, and the entries for the first whose label and recorded labels are not among
the given ones are left. -/
theorem correct_invalidate {a b : Catalog} {labels : List String} {k : Cache}
    (hagree : ∀ m, m ∉ labels →
      (b.tag? m).isSome = (a.tag? m).isSome ∧ b.definition? m = a.definition? m)
    (hcorrect : ∀ l x, k.entries.get? l = some x → x.version = a.version → Correct a l x) :
    (∀ l x, (k.invalidate labels a.version b.version).entries.get? l = some x →
      x.version = b.version ∧ Correct b l x) ∧
    ∀ l x, k.entries.get? l = some x → x.version = a.version → l ∉ labels →
      (∀ m ∈ x.visited, m ∉ labels) →
      (k.invalidate labels a.version b.version).entries.get? l
        = some { x with version := b.version } := by
  have hmeaning : ∀ m, m ∉ labels → b.meaning m = a.meaning m := fun m hm =>
    Catalog.meaning_eq_iff.mpr (hagree m hm)
  refine ⟨fun l y hy => ⟨version_of_invalidate hy, ?_⟩, fun l x hx hversion hl hvisited => ?_⟩
  · obtain ⟨x, hentry, hversion, havoids, rfl⟩ := get?_invalidate_eq_some_iff.mp hy
    have hx := hcorrect l x hentry hversion
    exact hx.congr (fun m hm => hmeaning m (not_mem_of_avoids hx.records havoids hm)) b.version
  · refine get?_invalidate_eq_some_iff.mpr ⟨x, hx, hversion, fun m hm => ⟨?_, ?_⟩, rfl⟩
    · rintro rfl
      exact hl hm
    · exact fun hmem => hvisited m hmem hm

/-- A catalog in which `pets` rests on known labels and `birds` on an unknown one. -/
def unhatched : Catalog :=
  { tags := .ofList [("birds", ⟨1, "birds", none, some "parrot"⟩), ("cat", ⟨2, "cat", none, none⟩),
      ("pets", ⟨3, "pets", none, some "cat + dog"⟩)]
    version := 1 }

/-- The unknown label of `birds` becomes known. -/
def hatched : Catalog :=
  { tags := unhatched.tags.insert "parrot" ⟨4, "parrot", none, none⟩
    version := 2 }

theorem correct_invalidate_hatched :
    let k := (resolveWith unhatched true (.any [.tag "pets", .tag "birds"]) .empty).2
    let pets : Expansion :=
      ⟨.any [.tag "cat", .nothing], ["cat", "dog"], [.unknownTag "dog"], 1⟩
    k.size = 2 ∧ k.entries.get? "pets" = some pets
      ∧ (∀ l x, (k.invalidate ["parrot"] 1 2).entries.get? l = some x →
          x.version = 2 ∧ Correct hatched l x)
      ∧ (k.invalidate ["parrot"] 1 2).entries.get? "pets" = some { pets with version := 2 }
      ∧ (k.invalidate ["parrot"] 1 2).entries.get? "birds" = none := by
  intro k pets
  have hpets : k.entries.get? "pets" = some pets := by decide +kernel
  have hsound : Sound unhatched k :=
    (sound_empty _).grows (resolveWith_eq (sound_empty _) (.any [.tag "pets", .tag "birds"])).2
  have hagree : ∀ m, m ∉ ["parrot"] → (hatched.tag? m).isSome = (unhatched.tag? m).isSome
      ∧ hatched.definition? m = unhatched.definition? m := by
    intro m hm
    have htag : hatched.tag? m = unhatched.tag? m :=
      Table.get?_insert_of_ne _ _ fun h => hm (h ▸ List.mem_cons_self)
    rw [Catalog.definition?, Catalog.definition?, htag]
    exact ⟨rfl, rfl⟩
  obtain ⟨hleft, hkept⟩ := correct_invalidate hagree fun _ _ => hsound.correct
  exact ⟨by decide +kernel, hpets, hleft,
    hkept "pets" pets hpets rfl (by decide +kernel) (by decide +kernel), by decide +kernel⟩

end Gallery.Query
