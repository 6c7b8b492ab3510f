import Gallery.Index.Change
import Gallery.Library.Change
import Gallery.Proofs.Catalog.Versions
import Gallery.Proofs.Query.Cached

/-!
# `Gallery.Proofs.Library.Moves` — what a change of a library may touch

A change of a library is judged by what others can tell of it: the catalog either means the same
under the same version, or has a fresh version and means something else at the affected labels only;
the index is one that changes of an index lead to; the cache is the old one or what an invalidation
has left of it.

## Contents
- `Index.LeadsTo` and `Snapshot.Moves`, for an index and for an index with its catalog.
- `Library.Follows`, for a library; `follows_mutate`, and `follows_apply` for every change.
-/

namespace Gallery

/-! ## Indexes -/

namespace Index

/-- Changes lead from one index to another. -/
def LeadsTo (x y : Index) : Prop := ∃ changes, y = x.applyAll changes

variable {x y z : Index}

theorem LeadsTo.refl (x : Index) : x.LeadsTo x := ⟨[], rfl⟩

theorem LeadsTo.trans (h : x.LeadsTo y) (h' : y.LeadsTo z) : x.LeadsTo z := by
  obtain ⟨changes, rfl⟩ := h
  obtain ⟨changes', rfl⟩ := h'
  exact ⟨changes ++ changes', (List.foldl_append ..).symm⟩

/-- A change that succeeds leads to its result. -/
theorem leadsTo_settle {α : Type} {reply : α → Reply} {r : Except LibraryError (α × Index)} {a : α}
    (change : IndexChange) (happly : x.apply change = settle x reply r) (h : r = .ok (a, y)) :
    x.LeadsTo y := by
  refine ⟨[change], ?_⟩
  show y = (x.apply change).2
  rw [happly, h]
  rfl

theorem leadsTo_settleDone {r : Except LibraryError Index} (change : IndexChange)
    (happly : x.apply change = settleDone x r) (h : r = .ok y) : x.LeadsTo y := by
  refine ⟨[change], ?_⟩
  show y = (x.apply change).2
  rw [happly, h]
  rfl

end Index

/-! ## Snapshots -/

namespace Snapshot

/-- What a change may make of a snapshot. -/
structure Moves (s : Snapshot) (fresh : Version) (affected : List String) (s' : Snapshot) :
    Prop where
  catalog : s.catalog.Moves fresh affected s'.catalog
  index : s.index.LeadsTo s'.index

variable {s s' : Snapshot} {fresh : Version} {affected : List String} {α : Type}

theorem Moves.refl (s : Snapshot) : s.Moves fresh affected s := ⟨.refl _, .refl _⟩

theorem moves_onIndex {change : Index → Except LibraryError (α × Index)}
    (h : ∀ a y, change s.index = .ok (a, y) → s.index.LeadsTo y) :
    s.Moves fresh affected (s.onIndex change).2 := by
  unfold onIndex
  cases hc : change s.index with
  | error e => exact .refl s
  | ok r => exact ⟨.refl _, h r.1 r.2 hc⟩

theorem moves_onCatalog {change : Catalog → Except LibraryError (α × Catalog)}
    (h : ∀ a c', change s.catalog = .ok (a, c') → s.catalog.Moves fresh affected c') :
    s.Moves fresh affected (s.onCatalog change).2 := by
  unfold onCatalog
  cases hc : change s.catalog with
  | error e => exact .refl s
  | ok r => exact ⟨h r.1 r.2 hc, .refl _⟩

end Snapshot

/-! ## Libraries -/

namespace Library

open Query

/-- What a change that concerns the affected labels may make of a library. -/
structure Follows (lib : Library) (affected : List String) (lib' : Library) : Prop where
  snapshot : lib.snapshot.Moves lib.fresh affected lib'.snapshot
  fresh : lib'.fresh = lib'.snapshot.catalog.nextFresh lib.fresh
  similarity : lib'.similarity = lib.similarity
  cache : lib'.cache = lib.cache ∨ lib'.cache =
    lib.cache.invalidate affected lib.snapshot.catalog.version lib'.snapshot.catalog.version

variable {lib : Library} {affected : List String} {α : Type}

theorem follows_mutate {change : Snapshot → Except LibraryError α × Snapshot}
    (h : lib.snapshot.Moves lib.fresh affected (change lib.snapshot).2) :
    lib.Follows affected (lib.mutate affected change).2 := by
  unfold mutate
  rcases hc : change lib.snapshot with ⟨e | a, s⟩
  · rw [hc] at h
    exact ⟨h, rfl, rfl, .inl rfl⟩
  · rw [hc] at h
    refine ⟨h, rfl, rfl, ?_⟩
    by_cases hv : lib.snapshot.catalog.version = s.catalog.version
    · exact .inl (if_pos hv)
    · exact .inr (if_neg hv)

theorem follows_mutateIndex {change : Index → Except LibraryError (α × Index)}
    (h : ∀ x a y, change x = .ok (a, y) → x.LeadsTo y) :
    lib.Follows [] (lib.mutateIndex change).2 :=
  follows_mutate (Snapshot.moves_onIndex (h _))

theorem follows_mutateCatalog {change : Catalog → Except LibraryError (α × Catalog)}
    (h : ∀ c a c', change c = .ok (a, c') → c.Moves lib.fresh affected c') :
    lib.Follows affected (lib.mutateCatalog affected change).2 :=
  follows_mutate (Snapshot.moves_onCatalog (h _))

theorem ok_of_plain {r : Except LibraryError α} {a : α} {u : Unit} (h : plain r = .ok (u, a)) :
    r = .ok a := by
  cases r with
  | error e => cases h
  | ok b =>
    cases h
    rfl

/-! ### Images and their labels -/

theorem follows_registerImage (lib : Library) (path : String) (fingerprint : Option Fingerprint) :
    lib.Follows [] (lib.registerImage path fingerprint).2 := by
  refine follows_mutateIndex fun x id y h => ?_
  dsimp only at h
  split at h
  · cases h
  · rename_i hx
    cases h
    exact Index.leadsTo_settleDone (.insertImage _) rfl hx

theorem follows_tagImage (lib : Library) (id : ImageId) (label : String) :
    lib.Follows [] (lib.tagImage id label).2 := by
  refine follows_mutate ?_
  cases assignable lib.snapshot.catalog label with
  | error e => exact .refl _
  | ok u => exact Snapshot.moves_onIndex fun _ _ h => Index.leadsTo_settle (.tag id label) rfl h

theorem follows_setImageTags (lib : Library) (id : ImageId) (labels : List String) :
    lib.Follows [] (lib.setImageTags id labels).2 := by
  refine follows_mutate ?_
  cases allAssignable lib.snapshot.catalog labels with
  | error e => exact .refl _
  | ok u =>
    exact Snapshot.moves_onIndex fun _ _ h =>
      Index.leadsTo_settleDone (.setLabels id labels) rfl (ok_of_plain h)

/-! ### Types and tags -/

theorem follows_createTagType (lib : Library) (label : String) (symbol : Char) (color : UInt32) :
    lib.Follows [] (lib.createTagType label symbol color).2 := by
  refine follows_mutateCatalog fun c id c' h => ?_
  dsimp only at h
  split at h
  · cases h
  · split at h
    · cases h
    · rename_i hc
      cases h
      exact (Catalog.edits_insertType hc).moves

theorem follows_createTag (lib : Library) (label : String) (typeId : Option TypeId)
    (definition : Option String) :
    lib.Follows [label] (lib.createTag label typeId definition).2 := by
  refine follows_mutateCatalog fun c id c' h => ?_
  dsimp only at h
  split at h
  · cases h
  · rename_i t ht
    -- The tag that is made has the label that is affected.
    have hlabel : t.label = label := by
      unfold Tag.make at ht
      split at ht
      · cases ht
        rfl
      · cases ht
    split at h
    · cases h
    · rename_i hc
      cases h
      exact hlabel ▸ (Catalog.edits_insertTag hc).moves

theorem follows_redefineTag (lib : Library) (label : String) (definition : Option String) :
    lib.Follows [label] (lib.redefineTag label definition).2 := by
  refine follows_mutate ?_
  split
  · exact .refl _
  · exact Snapshot.moves_onCatalog fun _ _ h => (Catalog.edits_setDefinition (ok_of_plain h)).moves

/-- The label goes from the catalog and from the images. -/
theorem follows_removeTag (lib : Library) (label : String) :
    lib.Follows [label] (lib.removeTag label).2 := by
  refine follows_mutate ?_
  have hcatalog : lib.snapshot.Moves lib.fresh [label]
      (lib.snapshot.onCatalog fun c => c.removeTag lib.fresh label).2 :=
    Snapshot.moves_onCatalog fun _ _ h => (Catalog.edits_removeTag h).moves
  rcases hc : lib.snapshot.onCatalog fun c => c.removeTag lib.fresh label with ⟨e | t, s⟩
  · rw [hc] at hcatalog
    exact hcatalog
  · rw [hc] at hcatalog
    exact ⟨hcatalog.catalog, hcatalog.index.trans ⟨[.dropLabel label], rfl⟩⟩

/-! ### All changes -/

/-- **Every change of a library**, successful or not, touches no more than it may; one that is
refused for its arguments alone touches nothing. -/
theorem follows_apply (lib : Library) (change : LibraryChange) :
    (lib.apply change).2 = lib ∨ ∃ affected, lib.Follows affected (lib.apply change).2 := by
  cases change with
  | registerImage path fingerprint => exact .inr ⟨[], follows_registerImage lib path fingerprint⟩
  | insertImage image =>
    exact .inr ⟨[], follows_mutateIndex fun _ _ _ h =>
      Index.leadsTo_settleDone (.insertImage image) rfl (ok_of_plain h)⟩
  | removeImage id =>
    exact .inr ⟨[], follows_mutateIndex fun _ _ _ h => Index.leadsTo_settle (.removeImage id) rfl h⟩
  | moveImage id path =>
    exact .inr ⟨[], follows_mutateIndex fun _ _ _ h =>
      Index.leadsTo_settleDone (.moveImage id path) rfl (ok_of_plain h)⟩
  | setFingerprint id fingerprint =>
    exact .inr ⟨[], follows_mutateIndex fun _ _ _ h =>
      Index.leadsTo_settleDone (.setFingerprint id fingerprint) rfl (ok_of_plain h)⟩
  | tagImage id label => exact .inr ⟨[], follows_tagImage lib id label⟩
  | untagImage id label =>
    exact .inr ⟨[], follows_mutateIndex fun _ _ _ h => Index.leadsTo_settle (.untag id label) rfl h⟩
  | setImageTags id labels => exact .inr ⟨[], follows_setImageTags lib id labels⟩
  | createTagType label symbol color =>
    exact .inr ⟨[], follows_createTagType lib label symbol color⟩
  | insertTagType id label symbol color =>
    unfold apply
    dsimp only
    split
    · exact .inl rfl
    · exact .inr ⟨[], follows_mutateCatalog fun _ _ _ h =>
        (Catalog.edits_insertType (ok_of_plain h)).moves⟩
  | removeTagType id =>
    exact .inr ⟨[], follows_mutateCatalog fun _ _ _ h => (Catalog.edits_removeType h).moves⟩
  | createTag label typeId definition =>
    exact .inr ⟨[label], follows_createTag lib label typeId definition⟩
  | insertTag id label typeId definition =>
    unfold apply
    dsimp only
    split
    · exact .inl rfl
    · rename_i t _
      exact .inr ⟨[t.label], follows_mutateCatalog fun _ _ _ h =>
        (Catalog.edits_insertTag (ok_of_plain h)).moves⟩
  | redefineTag label definition => exact .inr ⟨[label], follows_redefineTag lib label definition⟩
  | setTagType label typeId =>
    exact .inr ⟨[], follows_mutateCatalog fun _ _ _ h =>
      (Catalog.edits_setType (ok_of_plain h)).moves⟩
  | removeTag label => exact .inr ⟨[label], follows_removeTag lib label⟩

end Library

end Gallery
