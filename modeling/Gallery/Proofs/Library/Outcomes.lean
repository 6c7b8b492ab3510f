import Gallery.Proofs.Library.Association

/-!
# `Gallery.Proofs.Library.Outcomes` — what a change that succeeds has found and made

A change of a library that succeeds has passed its checks, so its result says what the library was
before as well as what it is now.  There is one lemma for each change that commands make: what the
checks have found, and the tables that are new.

## Contents
- `Library.of_mutate`, `of_mutateIndex` and `of_mutateCatalog`, for the shapes of changes.
- `of_registerImage`, `of_moveImage`, `of_removeImage`, `of_setImageTags`, for images.
- `of_createTagType`, `of_createTag`, `of_redefineTag`, `of_setTagType`, `of_removeTag`, for types and
  tags.
-/

namespace Gallery.Library

open Query

variable {lib lib' : Library} {affected : List String} {α : Type} {a : α} {id : ImageId}
  {path label : String} {labels : List String} {fingerprint : Option Fingerprint}
  {typeId : Option TypeId} {definition : Option String}

/-! ## Shapes of changes -/

theorem of_mutate {change : Snapshot → Except LibraryError α × Snapshot}
    (h : lib.mutate affected change = (.ok a, lib')) :
    change lib.snapshot = (.ok a, lib'.snapshot) := by
  unfold mutate at h
  rcases hc : change lib.snapshot with ⟨e | b, s⟩
  · rw [hc] at h
    cases h
  · rw [hc] at h
    cases h
    rfl

theorem of_mutateIndex {change : Index → Except LibraryError (α × Index)}
    (h : lib.mutateIndex change = (.ok a, lib')) :
    ∃ y, change lib.snapshot.index = .ok (a, y)
      ∧ lib'.snapshot = { lib.snapshot with index := y } := by
  have hs := of_mutate h
  unfold Snapshot.onIndex at hs
  split at hs
  · cases hs
  · rename_i b y hy
    obtain ⟨hab, hsnapshot⟩ := Prod.mk.inj hs
    cases hab
    exact ⟨y, hy, hsnapshot.symm⟩

theorem of_mutateCatalog {change : Catalog → Except LibraryError (α × Catalog)}
    (h : lib.mutateCatalog affected change = (.ok a, lib')) :
    ∃ c, change lib.snapshot.catalog = .ok (a, c)
      ∧ lib'.snapshot = { lib.snapshot with catalog := c } := by
  have hs := of_mutate h
  unfold Snapshot.onCatalog at hs
  split at hs
  · cases hs
  · rename_i b c hc
    obtain ⟨hab, hsnapshot⟩ := Prod.mk.inj hs
    cases hab
    exact ⟨c, hc, hsnapshot.symm⟩

/-! ## Images -/

theorem of_registerImage (h : lib.registerImage path fingerprint = (.ok id, lib')) :
    id = lib.snapshot.index.nextImageId
      ∧ ∃ y, lib.snapshot.index.insertImage (.make id path fingerprint) = .ok y
        ∧ lib'.snapshot = { lib.snapshot with index := y } := by
  obtain ⟨y, hy, hs⟩ := of_mutateIndex h
  dsimp only at hy
  split at hy
  · cases hy
  · rename_i hinsert
    cases hy
    exact ⟨rfl, y, hinsert, hs⟩

theorem of_moveImage {u : Unit} (h : lib.moveImage id path = (.ok u, lib')) :
    ∃ y, lib.snapshot.index.moveImage id path = .ok y
      ∧ lib'.snapshot = { lib.snapshot with index := y } := by
  obtain ⟨y, hy, hs⟩ := of_mutateIndex h
  exact ⟨y, ok_of_plain hy, hs⟩

theorem of_removeImage {image : Image} (h : lib.removeImage id = (.ok image, lib')) :
    ∃ y, lib.snapshot.index.removeImage id = .ok (image, y)
      ∧ lib'.snapshot = { lib.snapshot with index := y } :=
  of_mutateIndex h

/-- The labels that an image is given are those of plain tags. -/
theorem of_setImageTags {u : Unit} (h : lib.setImageTags id labels = (.ok u, lib')) :
    (∀ l ∈ labels, lib.snapshot.catalog.meaning l = .plain)
      ∧ ∃ y, lib.snapshot.index.setLabels id labels = .ok y
        ∧ lib'.snapshot = { lib.snapshot with index := y } := by
  have hs := of_mutate h
  split at hs
  · cases hs
  · rename_i hplain
    unfold Snapshot.onIndex at hs
    split at hs
    · cases hs
    · rename_i v y hy
      exact ⟨meaning_of_allAssignable hplain, y, ok_of_plain hy, (Prod.mk.inj hs).2.symm⟩

/-! ## Types and tags -/

/-- The type that is created conflicts with none. -/
theorem of_createTagType {symbol : Char} {color : UInt32} {id : TypeId}
    (h : lib.createTagType label symbol color = (.ok id, lib')) :
    id = lib.snapshot.catalog.nextTypeId
      ∧ ∃ t, TagType.make id label symbol color = .ok t
        ∧ lib.snapshot.catalog.insertType t = .ok lib'.snapshot.catalog
        ∧ lib'.snapshot.index = lib.snapshot.index := by
  obtain ⟨c, hc, hs⟩ := of_mutateCatalog h
  dsimp only at hc
  split at hc
  · cases hc
  · rename_i t ht
    split at hc
    · cases hc
    · rename_i hinsert
      cases hc
      rw [hs]
      exact ⟨rfl, t, ht, hinsert, rfl⟩

/-- The tag that is created has a valid label, which is new, and a type that exists. -/
theorem of_createTag {id : TagId} (h : lib.createTag label typeId definition = (.ok id, lib')) :
    id = lib.snapshot.catalog.nextTagId ∧ isValidLabel label = true
      ∧ lib.snapshot.catalog.insertTag lib.fresh ⟨id, label, typeId, definition⟩
        = .ok lib'.snapshot.catalog
      ∧ lib'.snapshot.index = lib.snapshot.index := by
  obtain ⟨c, hc, hs⟩ := of_mutateCatalog h
  dsimp only [Tag.make] at hc
  split at hc
  · cases hc
  · rename_i t ht
    split at ht
    · rename_i hvalid
      cases ht
      split at hc
      · cases hc
      · rename_i hinsert
        cases hc
        rw [hs]
        exact ⟨rfl, hvalid, hinsert, rfl⟩
    · cases ht

/-- A tag that becomes compound is on no image. -/
theorem of_redefineTag {u : Unit} (h : lib.redefineTag label definition = (.ok u, lib')) :
    (definition.isSome = true → lib.snapshot.index.postingSize label = 0)
      ∧ lib.snapshot.catalog.setDefinition lib.fresh label definition = .ok lib'.snapshot.catalog
      ∧ lib'.snapshot.index = lib.snapshot.index := by
  have hs := of_mutate h
  split at hs
  · cases hs
  · rename_i hfree
    unfold Snapshot.onCatalog at hs
    split at hs
    · cases hs
    · rename_i v c hc
      have hsnapshot := (Prod.mk.inj hs).2
      refine ⟨fun hsome => ?_, hsnapshot ▸ ok_of_plain hc, hsnapshot ▸ rfl⟩
      rw [hsome, Bool.true_and, decide_eq_true_eq] at hfree
      exact Nat.eq_zero_of_not_pos hfree

theorem of_setTagType {u : Unit} (h : lib.setTagType label typeId = (.ok u, lib')) :
    lib.snapshot.catalog.setType label typeId = .ok lib'.snapshot.catalog
      ∧ lib'.snapshot.index = lib.snapshot.index := by
  obtain ⟨c, hc, hs⟩ := of_mutateCatalog h
  rw [hs]
  exact ⟨ok_of_plain hc, rfl⟩

theorem of_removeTag {t : Tag} (h : lib.removeTag label = (.ok t, lib')) :
    lib.snapshot.catalog.removeTag lib.fresh label = .ok (t, lib'.snapshot.catalog)
      ∧ lib'.snapshot.index = lib.snapshot.index.dropLabel label := by
  have hs := of_mutate h
  unfold Snapshot.onCatalog at hs
  dsimp only at hs
  cases hc : lib.snapshot.catalog.removeTag lib.fresh label with
  | error e =>
    rw [hc] at hs
    cases hs
  | ok r =>
    rw [hc] at hs
    obtain ⟨ht, hsnapshot⟩ := Prod.mk.inj hs
    cases ht
    rw [← hsnapshot]
    exact ⟨rfl, rfl⟩

end Gallery.Library
