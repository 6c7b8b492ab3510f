import Gallery.Proofs.Index.Coherent

/-!
# `Gallery.Proofs.Index.Labels` — which labels an image has after a change

One equation for each change of an index that succeeds: the changes of images leave all labels alone,
except that a removed image has none, and the changes of labels do what they say at one image.  The
postings are not mentioned; that they follow is `Coherent`.

## Contents
- `has_removeImage`, `has_tag`, `has_untag`, `has_setLabels` and, for a label that goes from all
  images, `Coherent.has_dropLabel`.
- `Coherent.has_of_postingSize` and `Coherent.isSome_posting_iff`, what the postings tell of the labels.
-/

namespace Gallery.Index

variable {x y : Index} {id id' : ImageId} {label l : String}

/-! ## Changes of images -/

theorem labels_insertImage {image : Image} (hy : x.insertImage image = .ok y) :
    y.labels = x.labels := by
  unfold insertImage at hy
  split at hy
  · cases hy
  · split at hy
    · cases hy
    · cases hy
      rfl

theorem labels_moveImage {path : String} (hy : x.moveImage id path = .ok y) :
    y.labels = x.labels := by
  unfold moveImage at hy
  split at hy
  · cases hy
  · split at hy
    · cases hy
    · cases hy
      rfl

theorem labels_setFingerprint {fingerprint : Option Fingerprint}
    (hy : x.setFingerprint id fingerprint = .ok y) : y.labels = x.labels := by
  unfold setFingerprint at hy
  split at hy
  · cases hy
  · cases hy
    rfl

theorem has_of_labels (hlabels : y.labels = x.labels) (id : ImageId) (l : String) :
    (y.labelsOf id).has l = (x.labelsOf id).has l := by
  rw [labelsOf, labelsOf?, hlabels, labelsOf, labelsOf?]

/-- The number is free for an image that starts without labels. -/
theorem has_removeImage {image : Image} (hy : x.removeImage id = .ok (image, y)) :
    (y.labelsOf id').has l = (!decide (id' = id) && (x.labelsOf id').has l) := by
  unfold removeImage at hy
  split at hy
  · cases hy
  · cases hy
    rw [labelsOf, labelsOf?, Table.get?_erase]
    by_cases hid : id' = id
    · simp [hid]
    · simp [hid, labelsOf, labelsOf?]

/-! ## Changes of labels -/

/-- What was just given to an image and what the others had. -/
theorem has_labelsOf_insert {new : KeySet String} (hy : y.labels = x.labels.insert id new) :
    (y.labelsOf id').has l = if id' = id then new.has l else (x.labelsOf id').has l := by
  rw [labelsOf, labelsOf?, hy, getD_insert]
  split <;> rfl

theorem has_tag {added : Bool} (hy : x.tag id label = .ok (added, y)) :
    (y.labelsOf id').has l
      = (decide (id' = id) && decide (l = label) || (x.labelsOf id').has l) := by
  unfold tag at hy
  split at hy
  · cases hy
  dsimp only at hy
  by_cases hold : (x.labelsOf id).has label = true
  · -- The label was there already.
    rw [if_pos hold] at hy
    cases hy
    by_cases hid : id' = id
    · by_cases hl : l = label <;> simp [hid, hl, hold]
    · simp [hid]
  · rw [if_neg hold] at hy
    cases hy
    rw [has_labelsOf_insert rfl, KeySet.has_add]
    by_cases hid : id' = id <;> simp [hid]

theorem has_untag {removed : Bool} (hy : x.untag id label = .ok (removed, y)) :
    (y.labelsOf id').has l
      = (!(decide (id' = id) && decide (l = label)) && (x.labelsOf id').has l) := by
  unfold untag at hy
  split at hy
  · cases hy
  dsimp only at hy
  by_cases hold : (x.labelsOf id).has label = true
  · rw [hold, Bool.not_true, if_neg Bool.false_ne_true] at hy
    cases hy
    rw [has_labelsOf_insert rfl, KeySet.has_remove]
    by_cases hid : id' = id <;> simp [hid]
  · -- There was no such label to take.
    rw [Bool.not_eq_true] at hold
    rw [hold, Bool.not_false, if_pos rfl] at hy
    cases hy
    by_cases hid : id' = id
    · by_cases hl : l = label <;> simp [hid, hl, hold]
    · simp [hid]

theorem has_setLabels {labels : List String} (hy : x.setLabels id labels = .ok y) :
    (y.labelsOf id').has l
      = if id' = id then labels.contains l else (x.labelsOf id').has l := by
  unfold setLabels at hy
  split at hy
  · cases hy
  · cases hy
    rw [has_labelsOf_insert rfl, KeySet.has_ofList]

/-- The label is taken from the images of its posting, and these are all that have it. -/
theorem Coherent.has_dropLabel (hx : Coherent x) (label : String) (id : ImageId) (l : String) :
    ((x.dropLabel label).labelsOf id).has l
      = (!decide (l = label) && (x.labelsOf id).has l) := by
  rw [← (coherent_dropLabel hx label).listed_eq, ← hx.listed_eq]
  unfold dropLabel listed
  cases hp : x.postings.get? label with
  | none =>
    dsimp only
    by_cases hl : l = label <;> simp [hl, hp]
  | some ids =>
    dsimp only
    rw [Table.get?_erase]
    by_cases hl : l = label <;> simp [hl]

/-! ## Labels and postings -/

/-- A label without posting is on no image. -/
theorem Coherent.has_of_postingSize (hx : Coherent x) (h : x.postingSize l = 0) (id : ImageId) :
    (x.labelsOf id).has l = false := by
  rw [← hx.listed_eq, listed]
  unfold postingSize posting? at h
  cases hp : x.postings.get? l with
  | none => rfl
  | some ids =>
    rw [hp] at h
    -- A set of size zero has no entry.
    have hentries : ids.entries = [] := List.eq_nil_of_length_eq_zero h
    rw [Option.getD_some, KeySet.has, Table.contains, Table.get?, hentries]
    rfl

/-- The labels with a posting are those that some image carries. -/
theorem Coherent.isSome_posting_iff (hx : Coherent x) :
    (x.posting? l).isSome ↔ ∃ id, (x.labelsOf id).has l = true := by
  simp only [← hx.listed_eq, listed]
  unfold posting?
  cases hp : x.postings.get? l with
  | none => simp
  | some ids => simpa using hx.trimmed l ids hp

end Gallery.Index
