import Gallery.Proofs.Index.Labels
import Gallery.Proofs.Table

/-!
# `Gallery.Proofs.Index.View` — what an index says

The images with their labels are all that an index says; its paths and postings only make that easy to
search.  `Index.view` is this content, and a change of an index is one operation on it.

## Contents
- `Index.view`, with one equation for each change that succeeds.
- `Coherent.eq_of_view`, indexes whose tables agree and that say the same have the same tables;
  `Coherent.eq_of_tables`, two of their tables are enough to make them equal.
-/

namespace Gallery.Index

/-- The images and their labels. -/
def view (x : Index) : Table ImageId (Image × KeySet String) :=
  x.images.map fun id image => (image, x.labelsOf id)

variable {x y : Index} {id id' : ImageId} {label : String} {image : Image}

theorem get?_view (x : Index) (id : ImageId) :
    x.view.get? id = (x.images.get? id).map fun image => (image, x.labelsOf id) :=
  Table.get?_map ..

/-- A number that is in no image has no labels. -/
theorem Coherent.labelsOf_of_none (hx : Coherent x) (h : x.images.get? id = none) :
    x.labelsOf id = KeySet.empty := by
  refine KeySet.ext_has fun l => ?_
  rw [KeySet.has_empty, Bool.eq_false_iff]
  intro hl
  obtain ⟨image, himage⟩ := hx.registered_of_has hl
  cases h.symm.trans himage

/-! ## Changes of images -/

/-- A new image has a number and a path that no image has, and no labels. -/
theorem Coherent.view_insertImage (hx : Coherent x) (hy : x.insertImage image = .ok y) :
    y.view = x.view.insert image.id (image, KeySet.empty) := by
  have hlabels := labels_insertImage hy
  unfold insertImage at hy
  split at hy
  · cases hy
  split at hy
  · cases hy
  rename_i hnew
  cases hy
  refine Table.ext_get? fun id' => ?_
  have hsame : ∀ i, labelsOf _ i = x.labelsOf i := fun i => KeySet.ext_has (has_of_labels hlabels i)
  rw [get?_view, hsame, Table.get?_insert, Table.get?_insert]
  by_cases hid : id' = image.id
  · rw [if_pos hid, if_pos hid, hid, Option.map_some, hx.labelsOf_of_none hnew]
  · rw [if_neg hid, if_neg hid, get?_view]

theorem view_removeImage (hy : x.removeImage id = .ok (image, y)) : y.view = x.view.erase id := by
  refine Table.ext_get? fun id' => ?_
  have hlabels : id' ≠ id → y.labelsOf id' = x.labelsOf id' := by
    intro hid
    refine KeySet.ext_has fun l => ?_
    rw [has_removeImage hy, decide_eq_false hid, Bool.not_false, Bool.true_and]
  unfold removeImage at hy
  split at hy
  · cases hy
  cases hy
  rw [get?_view, Table.get?_erase, Table.get?_erase]
  by_cases hid : id' = id
  · rw [if_pos hid, if_pos hid, Option.map_none]
  · rw [if_neg hid, if_neg hid, get?_view, hlabels hid]

theorem Coherent.view_moveImage {path : String} (hx : Coherent x)
    (hy : x.moveImage id path = .ok y) :
    y.view = x.view.modify id fun v => (.make v.1.id path v.1.fingerprint, v.2) := by
  have hlabels := labels_moveImage hy
  unfold moveImage at hy
  split at hy
  · cases hy
  split at hy
  · cases hy
  rename_i old hold
  cases hy
  refine Table.ext_get? fun id' => ?_
  have hsame : ∀ i, labelsOf _ i = x.labelsOf i := fun i => KeySet.ext_has (has_of_labels hlabels i)
  rw [get?_view, hsame, Table.get?_insert, Table.get?_modify, get?_view]
  by_cases hid : id' = id
  · subst hid
    rw [if_pos rfl, if_pos rfl, hold, Option.map_some, Option.map_some, Option.map_some,
      ← hx.image_id _ old hold]
  · rw [if_neg hid, if_neg hid]

/-- A new image has a path that no image has. -/
theorem Coherent.path_ne_of_insertImage (hx : Coherent x) (hy : x.insertImage image = .ok y) :
    ∀ i old, x.images.get? i = some old → old.path ≠ image.path := by
  intro i old hold hpath
  unfold insertImage at hy
  split at hy
  · cases hy
  · rename_i hfree
    have hi := (hx.path_iff image.path i).mpr ⟨old, hold, hpath⟩
    exact hfree (Table.contains_iff.mpr ⟨i, hi⟩)

/-- An image with a new number and a new path can be registered. -/
theorem Coherent.exists_insertImage (hx : Coherent x)
    (hfree : ∀ i old, x.images.get? i = some old → i ≠ image.id ∧ old.path ≠ image.path) :
    ∃ y, x.insertImage image = .ok y ∧ y.images = x.images.insert image.id image
      ∧ y.labels = x.labels := by
  have hpath : x.paths.contains image.path = false := by
    rw [Bool.eq_false_iff]
    intro htaken
    obtain ⟨i, hi⟩ := Table.contains_iff.mp htaken
    obtain ⟨old, hold, hsame⟩ := (hx.path_iff image.path i).mp hi
    exact (hfree i old hold).2 hsame
  have hnew : x.images.get? image.id = none :=
    Option.eq_none_iff_forall_ne_some.mpr fun old hold => (hfree _ old hold).1 rfl
  rw [insertImage, hpath, hnew]
  exact ⟨_, rfl, rfl, rfl⟩

/-- An image is moved to a path that no other image has. -/
theorem Coherent.eq_of_moveImage {path : String} (hx : Coherent x)
    (hy : x.moveImage id path = .ok y) :
    ∀ i old, x.images.get? i = some old → old.path = path → i = id := by
  intro i old hold hpath
  unfold moveImage at hy
  split at hy
  · cases hy
  · rename_i hfree
    have hi := (hx.path_iff path i).mpr ⟨old, hold, hpath⟩
    rw [hi, Option.any_some, bne_iff_ne, ne_eq, Decidable.not_not] at hfree
    exact hfree

/-- The image at a path is registered. -/
theorem Coherent.get?_of_imageByPath? {path : String} (hx : Coherent x)
    (h : x.imageByPath? path = some image) : x.images.get? image.id = some image := by
  obtain ⟨i, -, hi⟩ := Option.bind_eq_some_iff.mp h
  rwa [hx.image_id i image hi]

/-- Images have smaller numbers than the next one. -/
theorem lt_nextImageId (h : x.images.get? id = some image) : id < x.nextImageId :=
  Int.lt_add_one_of_le (Table.le_lastKey?_getD (Option.isSome_of_eq_some h))

/-! ## Changes of labels -/

theorem view_setLabels {labels : List String} (hy : x.setLabels id labels = .ok y) :
    y.view = x.view.modify id fun v => (v.1, KeySet.ofList labels) := by
  refine Table.ext_get? fun id' => ?_
  have hlabels : y.labelsOf id' = if id' = id then KeySet.ofList labels else x.labelsOf id' := by
    refine KeySet.ext_has fun l => ?_
    rw [has_setLabels hy]
    split
    · rw [KeySet.has_ofList]
    · rfl
  unfold setLabels at hy
  split at hy
  · cases hy
  cases hy
  rw [get?_view, hlabels, Table.get?_modify, get?_view, Option.map_map]
  split <;> rfl

theorem Coherent.view_dropLabel (hx : Coherent x) (label : String) :
    (x.dropLabel label).view = x.view.map fun _ v => (v.1, v.2.remove label) := by
  refine Table.ext_get? fun id => ?_
  have hlabels : (x.dropLabel label).labelsOf id = (x.labelsOf id).remove label := by
    refine KeySet.ext_has fun l => ?_
    rw [hx.has_dropLabel, KeySet.has_remove]
  have himages : (x.dropLabel label).images = x.images := by
    unfold dropLabel
    split <;> rfl
  rw [get?_view, hlabels, himages, Table.get?_map, get?_view, Option.map_map]
  rfl

/-! ## Indexes that say the same -/

theorem images_eq_of_view (h : x.view = y.view) : x.images = y.images := by
  refine Table.ext_get? fun id => ?_
  have hget := congrArg (Option.map Prod.fst) (congrArg (·.get? id) h)
  simpa only [get?_view, Option.map_map, Function.comp_def, Option.map_id'] using hget

theorem Coherent.labelsOf_eq_of_view (hx : Coherent x) (hy : Coherent y) (h : x.view = y.view)
    (id : ImageId) : x.labelsOf id = y.labelsOf id := by
  have himages := images_eq_of_view h
  cases hid : x.images.get? id with
  | none => rw [hx.labelsOf_of_none hid, hy.labelsOf_of_none (himages ▸ hid)]
  | some image =>
    have hget := congrArg (·.get? id) h
    simp only [get?_view, ← himages, hid, Option.map_some, Option.some.injEq, Prod.mk.injEq] at hget
    exact hget.2

/-- A posting is determined by the images that it lists; there is none that lists no image. -/
theorem Trimmed.get?_eq {ps qs : Table String (KeySet ImageId)} (hps : Trimmed ps)
    (hqs : Trimmed qs) (h : ∀ id, listed ps label id = listed qs label id) :
    ps.get? label = qs.get? label := by
  -- A posting that one of them lacks would list no image in the other.
  have hset : (ps.get? label).getD KeySet.empty = (qs.get? label).getD KeySet.empty :=
    KeySet.ext_has h
  cases hp : ps.get? label with
  | none =>
    cases hq : qs.get? label with
    | none => rfl
    | some ids =>
      obtain ⟨id, hid⟩ := hqs label ids hq
      rw [hp, hq, Option.getD_none, Option.getD_some] at hset
      rw [← hset] at hid
      cases hid
  | some ids =>
    cases hq : qs.get? label with
    | none =>
      obtain ⟨id, hid⟩ := hps label ids hp
      rw [hp, hq, Option.getD_none, Option.getD_some] at hset
      rw [hset] at hid
      cases hid
    | some ids' =>
      rw [hp, hq, Option.getD_some, Option.getD_some] at hset
      rw [hset]

/-- Postings that list the same images for every label, and none for no image, are equal. -/
theorem Trimmed.ext {ps qs : Table String (KeySet ImageId)} (hps : Trimmed ps) (hqs : Trimmed qs)
    (h : ∀ label id, listed ps label id = listed qs label id) : ps = qs :=
  Table.ext_get? fun label => hps.get?_eq hqs (h label)

/-- **An index is determined by what it says**: the images and their labels leave no choice for the
other tables. -/
theorem Coherent.eq_of_view (hx : Coherent x) (hy : Coherent y) (h : x.view = y.view) :
    x.images = y.images ∧ x.paths = y.paths ∧ x.postings = y.postings
      ∧ ∀ id, x.labelsOf id = y.labelsOf id := by
  have himages := images_eq_of_view h
  have hlabels := hx.labelsOf_eq_of_view hy h
  refine ⟨himages, ?_, ?_, hlabels⟩
  · refine Table.ext_get? fun path => Option.ext fun id => ?_
    rw [hx.path_iff, hy.path_iff, himages]
  · refine hx.trimmed.ext hy.trimmed fun label id => ?_
    rw [hx.listed_eq, hy.listed_eq, hlabels]

/-- The images and the table of their labels are all there is of an index. -/
theorem Coherent.eq_of_tables (hx : Coherent x) (hy : Coherent y) (himages : x.images = y.images)
    (hlabels : x.labels = y.labels) : x = y := by
  have hview : x.view = y.view := by
    unfold view labelsOf labelsOf?
    rw [himages, hlabels]
  obtain ⟨-, hpaths, hpostings, -⟩ := hx.eq_of_view hy hview
  cases x
  cases y
  simp only at himages hpaths hpostings hlabels
  rw [himages, hpaths, hpostings, hlabels]

end Gallery.Index
