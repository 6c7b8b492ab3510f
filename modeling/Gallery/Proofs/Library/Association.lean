import Gallery.Proofs.Catalog.Integrity
import Gallery.Proofs.Index.Labels
import Gallery.Proofs.Library.Changes

/-!
# `Gallery.Proofs.Library.Association` — images carry the labels of plain tags

The catalog and the index are changed apart from each other, but a label that an image carries always
has a plain tag: labels are checked before they are given, a tag that is in use is not made compound,
and one that is removed takes its label along.

## Contents
- `Index.Coherent.has_apply`, a change of an index gives no other labels than it says;
  `Catalog.plain_apply`, what a change of a catalog leaves of its plain tags.
- `Associated`, the invariant.
- The results: `Associated.changes` and, for whole histories, `Library.Reachable.associated`.
-/

namespace Gallery

open Query

/-! ## Changes of the labels of images -/

namespace Index

variable {x : Index} {id : ImageId} {l : String}

/-- A change gives an image no other labels than it says. -/
theorem Coherent.has_apply (hx : Coherent x) (change : IndexChange)
    (h : ((x.apply change).2.labelsOf id).has l = true) :
    (x.labelsOf id).has l = true ∨ l ∈ change.given := by
  -- Per change: refused, or done with the labels that it leaves.
  cases change with
  | insertImage image =>
    rw [apply, settleDone_snd] at h
    rcases left_cases x (Library.plain (x.insertImage image)) with hsame | ⟨_, hy⟩
    · exact .inl (hsame ▸ h)
    · exact .inl (has_of_labels (labels_insertImage (Library.ok_of_plain hy)) id l ▸ h)
  | removeImage id' =>
    rw [apply, settle_snd] at h
    rcases left_cases x (x.removeImage id') with hsame | ⟨image, hy⟩
    · exact .inl (hsame ▸ h)
    · rw [has_removeImage hy, Bool.and_eq_true] at h
      exact .inl h.2
  | moveImage id' path =>
    rw [apply, settleDone_snd] at h
    rcases left_cases x (Library.plain (x.moveImage id' path)) with hsame | ⟨_, hy⟩
    · exact .inl (hsame ▸ h)
    · exact .inl (has_of_labels (labels_moveImage (Library.ok_of_plain hy)) id l ▸ h)
  | setFingerprint id' fingerprint =>
    rw [apply, settleDone_snd] at h
    rcases left_cases x (Library.plain (x.setFingerprint id' fingerprint)) with hsame | ⟨_, hy⟩
    · exact .inl (hsame ▸ h)
    · exact .inl (has_of_labels (labels_setFingerprint (Library.ok_of_plain hy)) id l ▸ h)
  | tag id' label =>
    rw [apply, settle_snd] at h
    rcases left_cases x (x.tag id' label) with hsame | ⟨added, hy⟩
    · exact .inl (hsame ▸ h)
    · rw [has_tag hy, Bool.or_eq_true, Bool.and_eq_true, decide_eq_true_eq, decide_eq_true_eq] at h
      rcases h with ⟨-, rfl⟩ | h
      · exact .inr List.mem_cons_self
      · exact .inl h
  | untag id' label =>
    rw [apply, settle_snd] at h
    rcases left_cases x (x.untag id' label) with hsame | ⟨removed, hy⟩
    · exact .inl (hsame ▸ h)
    · rw [has_untag hy, Bool.and_eq_true] at h
      exact .inl h.2
  | setLabels id' labels =>
    rw [apply, settleDone_snd] at h
    rcases left_cases x (Library.plain (x.setLabels id' labels)) with hsame | ⟨_, hy⟩
    · exact .inl (hsame ▸ h)
    · rw [has_setLabels (Library.ok_of_plain hy)] at h
      split at h
      · exact .inr (List.contains_iff_mem.mp h)
      · exact .inl h
  | dropLabel label =>
    rw [apply, hx.has_dropLabel, Bool.and_eq_true] at h
    exact .inl h.2

end Index

/-! ## Changes of plain tags -/

namespace Catalog

variable {c : Catalog} {fresh : Version} {l : String}

theorem meaning_eq_plain_iff :
    c.meaning l = .plain ↔ ∃ t, c.tag? l = some t ∧ t.definition = none := by
  unfold meaning
  cases c.tag? l with
  | none => simp
  | some t => cases hd : t.definition <;> simp [hd]

/-- A plain tag stays one unless the change says that it retracts it. -/
theorem plain_apply (change : CatalogChange) (hl : c.meaning l = .plain)
    (hretracted : l ∉ change.retracted) : (c.apply fresh change).2.meaning l = .plain := by
  -- Outside the affected labels nothing changes its meaning.
  have hmoves : ∀ {α : Type} {affected : List String} {r : Except LibraryError (α × Catalog)},
      l ∉ affected → (∀ a c', r = .ok (a, c') → c.Moves fresh affected c') →
      (left c r).meaning l = .plain := by
    intro α affected r haffected hr
    cases r with
    | error e => exact hl
    | ok r => exact ((hr r.1 r.2 rfl).meaning_eq haffected).trans hl
  cases change with
  | insertType id label symbol color =>
    rw [apply, settleDone_snd]
    cases TagType.make id label symbol color with
    | error e => exact hl
    | ok t =>
      exact hmoves List.not_mem_nil fun _ _ h => (edits_insertType (Library.ok_of_plain h)).moves
  | removeType id =>
    rw [apply, settle_snd]
    exact hmoves List.not_mem_nil fun _ _ h => (edits_removeType h).moves
  | insertTag id label typeId definition =>
    rw [apply, settleDone_snd]
    cases Tag.make id label typeId definition with
    | error e => exact hl
    | ok t =>
      by_cases hlabel : l = t.label
      · subst hlabel
        show (left c (Library.plain (c.insertTag fresh t))).meaning t.label = .plain
        -- The label has a tag, so there is no second one.
        obtain ⟨old, hold, -⟩ := meaning_eq_plain_iff.mp hl
        rw [insertTag, if_pos (Table.contains_iff.mpr ⟨old, hold⟩)]
        exact hl
      · exact hmoves (by simpa [CatalogEdit.affected] using hlabel) fun _ _ h =>
          (edits_insertTag (Library.ok_of_plain h)).moves
  | removeTag label =>
    rw [apply, settle_snd]
    exact hmoves hretracted fun _ _ h => (edits_removeTag h).moves
  | setDefinition label definition =>
    rw [apply, settleDone_snd]
    by_cases hlabel : l = label
    · subst hlabel
      cases definition with
      | some definition => exact absurd List.mem_cons_self hretracted
      | none =>
        -- The tag has no definition already.
        obtain ⟨t, ht, hnone⟩ := meaning_eq_plain_iff.mp hl
        have hget : c.tags.get? l = some t := ht
        rw [setDefinition, hget]
        dsimp only
        rw [if_pos hnone]
        exact hl
    · exact hmoves (by simpa [CatalogEdit.affected] using hlabel) fun _ _ h =>
        (edits_setDefinition (Library.ok_of_plain h)).moves
  | setType label typeId =>
    rw [apply, settleDone_snd]
    exact hmoves List.not_mem_nil fun _ _ h => (edits_setType (Library.ok_of_plain h)).moves

end Catalog

/-! ## The invariant -/

/-- The tables of the index agree, tags are kept under their labels, and the labels that images carry
are those of plain tags. -/
structure Associated (s : Snapshot) : Prop where
  coherent : s.index.Coherent
  labeled : s.catalog.Labeled
  plain : ∀ id l, (s.index.labelsOf id).has l = true → s.catalog.meaning l = .plain

theorem associated_empty : Associated ∅ where
  coherent := Index.coherent_empty
  labeled := Catalog.labeled_empty
  plain := fun _ _ h => nomatch h

/-- **Every change of a snapshot keeps the invariant.** -/
theorem Associated.changes {s s' : Snapshot} {fresh : Version} (h : Associated s)
    (hs : s.Changes fresh s') : Associated s' := by
  cases hs with
  | same => exact h
  | index change hplain =>
    refine ⟨Index.coherent_apply h.coherent change, h.labeled, fun id l hl => ?_⟩
    rcases h.coherent.has_apply change hl with hold | hgiven
    · exact h.plain id l hold
    · exact hplain l hgiven
  | catalog change hunused =>
    refine ⟨h.coherent, Catalog.labeled_apply h.labeled change, fun id l hl => ?_⟩
    refine Catalog.plain_apply change (h.plain id l hl) fun hretracted => ?_
    have hnone := h.coherent.has_of_postingSize (hunused l hretracted) id
    exact Bool.false_ne_true (hnone.symm.trans hl)
  | removeTag label =>
    refine ⟨Index.coherent_dropLabel h.coherent label, Catalog.labeled_apply h.labeled _,
      fun id l hl => ?_⟩
    rw [h.coherent.has_dropLabel, Bool.and_eq_true, Bool.not_eq_true', decide_eq_false_iff_not] at hl
    refine Catalog.plain_apply _ (h.plain id l hl.2) fun hretracted => ?_
    exact hl.1 (List.mem_singleton.mp hretracted)

theorem Library.associated_applyAll {lib : Library} (h : Associated lib.snapshot)
    (changes : List LibraryChange) : Associated (lib.applyAll changes).snapshot := by
  induction changes generalizing lib with
  | nil => exact h
  | cons c changes ih => exact ih (h.changes (lib.changes_apply c))

/-- Images of a library carry labels of plain tags only. -/
theorem Library.Reachable.associated {lib : Library} (h : lib.Reachable) :
    Associated lib.snapshot := by
  obtain ⟨similarity, changes, rfl⟩ := h
  exact associated_applyAll associated_empty changes

end Gallery
