import Gallery.Index.Change

/-!
# `Gallery.Proofs.Index.Coherent` — the tables of an index agree

An index keeps the paths beside the images and the postings beside the labels, and every change
patches each of the four tables on its own.  `Coherent` says what they have in common: the paths are
those of the images, a posting lists exactly the images that carry the label, and only registered
images carry labels.

## Contents
- `listed`, what the postings say, with one equation for each patch of a posting.
- `Coherent`, and `Coherent.relabel` for the changes that leave the images alone.
- One lemma for each change; `coherent_apply` and, for whole histories, `coherent_applyAll`.
-/

namespace Gallery.Index

/-! ## Patches of a posting -/

/-- Whether the posting of a label lists an image. -/
def listed (postings : Table String (KeySet ImageId)) (label : String) (id : ImageId) : Bool :=
  ((postings.get? label).getD KeySet.empty).has id

/-- Every posting that is kept lists some image. -/
def Trimmed (postings : Table String (KeySet ImageId)) : Prop :=
  ∀ label ids, postings.get? label = some ids → ∃ id, ids.has id = true

variable {postings : Table String (KeySet ImageId)}

theorem listed_addToPosting (id id' : ImageId) (label label' : String) :
    listed (addToPosting postings id label) label' id'
      = (decide (label' = label) && decide (id' = id) || listed postings label' id') := by
  unfold listed addToPosting
  rw [Table.get?_insert]
  by_cases hl : label' = label
  · subst hl
    simp
  · simp [hl]

/-- A posting is erased when its last image goes, which is not seen from outside. -/
theorem listed_removeFromPosting (id id' : ImageId) (label label' : String) :
    listed (removeFromPosting postings id label) label' id'
      = (!(decide (label' = label) && decide (id' = id)) && listed postings label' id') := by
  unfold listed removeFromPosting
  cases hp : postings.get? label with
  | none =>
    by_cases hl : label' = label
    · subst hl
      simp [hp]
    · simp [hl]
  | some ids =>
    have hrest : (ids.remove id).has id' = (!decide (id' = id) && ids.has id') :=
      KeySet.has_remove ids id id'
    by_cases he : (ids.remove id).isEmpty
    · have hgone : (ids.remove id).has id' = false := by
        rw [KeySet.has, Table.contains, Table.isEmpty_iff.mp he id']
        rfl
      rw [hgone] at hrest
      by_cases hl : label' = label
      · subst hl
        simp [he, hp, Table.get?_erase, ← hrest]
      · simp [he, hl, Table.get?_erase]
    · by_cases hl : label' = label
      · subst hl
        simp [he, hp, hrest]
      · simp [he, hl, Table.get?_insert]

theorem listed_foldl_addToPosting (id id' : ImageId) (labels : List String) (label : String) :
    listed (labels.foldl (addToPosting · id) postings) label id'
      = (labels.contains label && decide (id' = id) || listed postings label id') := by
  induction labels generalizing postings with
  | nil => simp
  | cons l labels ih =>
    rw [List.foldl_cons, ih, listed_addToPosting, List.contains_cons, Bool.beq_eq_decide_eq]
    by_cases hl : label = l <;> by_cases hi : id' = id <;> simp [hl, hi]

theorem listed_foldl_removeFromPosting (id id' : ImageId) (labels : List String) (label : String) :
    listed (labels.foldl (removeFromPosting · id) postings) label id'
      = (!(labels.contains label && decide (id' = id)) && listed postings label id') := by
  induction labels generalizing postings with
  | nil => simp
  | cons l labels ih =>
    rw [List.foldl_cons, ih, listed_removeFromPosting, List.contains_cons, Bool.beq_eq_decide_eq]
    by_cases hl : label = l <;> by_cases hi : id' = id <;> simp [hl, hi]

theorem trimmed_addToPosting (h : Trimmed postings) (id : ImageId) (label : String) :
    Trimmed (addToPosting postings id label) := by
  intro label' ids hids
  rw [addToPosting, Table.get?_insert] at hids
  split at hids
  · obtain rfl := Option.some.inj hids
    exact ⟨id, by simp⟩
  · exact h label' ids hids

theorem trimmed_removeFromPosting (h : Trimmed postings) (id : ImageId) (label : String) :
    Trimmed (removeFromPosting postings id label) := by
  intro label' ids hids
  unfold removeFromPosting at hids
  split at hids
  · exact h label' ids hids
  · rename_i old hold
    by_cases he : (old.remove id).isEmpty
    · simp only [he, if_true, Table.get?_erase] at hids
      split at hids
      · simp at hids
      · exact h label' ids hids
    · simp only [he, if_false, Table.get?_insert, Bool.false_eq_true] at hids
      split at hids
      · obtain rfl := Option.some.inj hids
        -- A set that is not empty has a member.
        rw [Table.isEmpty_iff, Classical.not_forall] at he
        obtain ⟨k, hk⟩ := he
        refine ⟨k, ?_⟩
        rw [KeySet.has, Table.contains, Option.isSome_iff_ne_none]
        exact hk
      · exact h label' ids hids

theorem trimmed_foldl
    {patch : Table String (KeySet ImageId) → String → Table String (KeySet ImageId)}
    (hpatch : ∀ {ps} label, Trimmed ps → Trimmed (patch ps label)) (labels : List String)
    (h : Trimmed postings) : Trimmed (labels.foldl patch postings) := by
  induction labels generalizing postings with
  | nil => exact h
  | cons l labels ih => exact ih (hpatch l h)

/-! ## The invariant -/

/-- The four tables of an index agree. -/
structure Coherent (x : Index) : Prop where
  /-- An image is kept under its own number. -/
  image_id : ∀ id image, x.images.get? id = some image → image.id = id
  /-- The paths are those of the images. -/
  path_iff : ∀ path id,
    x.paths.get? path = some id ↔ ∃ image, x.images.get? id = some image ∧ image.path = path
  /-- A posting lists the images that carry the label. -/
  listed_eq : ∀ label id, listed x.postings label id = (x.labelsOf id).has label
  trimmed : Trimmed x.postings
  /-- Only registered images carry labels. -/
  registered : ∀ id labels, x.labels.get? id = some labels → ∃ image, x.images.get? id = some image

variable {x y : Index}

/-- An image that carries a label is registered. -/
theorem Coherent.registered_of_has (h : Coherent x) {id : ImageId} {label : String}
    (hl : (x.labelsOf id).has label = true) : ∃ image, x.images.get? id = some image := by
  cases hg : x.labels.get? id with
  | none => simp [labelsOf, labelsOf?, hg] at hl
  | some labels => exact h.registered id labels hg

theorem coherent_empty : Coherent ∅ where
  image_id := fun _ _ h => nomatch h
  path_iff := fun _ _ => ⟨fun h => (nomatch h), fun ⟨_, h, _⟩ => (nomatch h)⟩
  listed_eq := fun _ _ => rfl
  trimmed := fun _ _ h => nomatch h
  registered := fun _ _ h => nomatch h

/-! ## Changes of images -/

/-- The labels are not touched when an image is added. -/
theorem coherent_insertImage (h : Coherent x) {image : Image} (hy : x.insertImage image = .ok y) :
    Coherent y := by
  unfold insertImage at hy
  split at hy
  · simp at hy
  · rename_i hfree
    have hpath : x.paths.get? image.path = none := by
      simpa [Table.contains] using hfree
    cases hnew : x.images.get? image.id with
    | some old => simp [hnew] at hy
    | none =>
      simp only [hnew, Except.ok.injEq] at hy
      subst hy
      refine ⟨?_, ?_, h.listed_eq, h.trimmed, ?_⟩
      · intro id i hi
        rw [Table.get?_insert] at hi
        split at hi
        · rename_i hid
          obtain rfl := Option.some.inj hi
          exact hid.symm
        · exact h.image_id id i hi
      · intro path id
        rw [Table.get?_insert, Table.get?_insert]
        have hold := h.path_iff path id
        have hnone := h.path_iff image.path id
        by_cases hp : path = image.path <;> by_cases hi : id = image.id <;> grind
      · intro id labels hl
        obtain ⟨i, hi⟩ := h.registered id labels hl
        rw [Table.get?_insert]
        by_cases hid : id = image.id <;> simp [hid, hi]

/-- Removing an image takes it from the postings of all labels that it carries. -/
theorem coherent_removeImage (h : Coherent x) {id : ImageId} {image : Image}
    (hy : x.removeImage id = .ok (image, y)) : Coherent y := by
  unfold removeImage at hy
  cases hold : x.images.get? id with
  | none => simp [hold] at hy
  | some i =>
    simp only [hold, Except.ok.injEq, Prod.mk.injEq] at hy
    obtain ⟨rfl, rfl⟩ := hy
    refine ⟨?_, ?_, ?_, ?_, ?_⟩
    · intro id' i' hi'
      rw [Table.get?_erase] at hi'
      split at hi'
      · simp at hi'
      · exact h.image_id id' i' hi'
    · intro path id'
      rw [Table.get?_erase, Table.get?_erase]
      have hthis := (h.path_iff i.path id).mpr ⟨i, hold, rfl⟩
      have hiff := h.path_iff path id'
      by_cases hp : path = i.path <;> by_cases hi : id' = id <;> grind
    · intro label id'
      rw [listed_foldl_removeFromPosting, h.listed_eq, KeySet.contains_toList]
      by_cases hi : id' = id
      · subst hi
        simp [labelsOf, labelsOf?, Table.get?_erase]
      · simp [labelsOf, labelsOf?, Table.get?_erase, hi]
    · exact trimmed_foldl (fun label ht => trimmed_removeFromPosting ht id label) _ h.trimmed
    · intro id' labels hl
      rw [Table.get?_erase] at hl ⊢
      by_cases hi : id' = id
      · simp [hi] at hl
      · simp only [hi, if_false] at hl ⊢
        exact h.registered id' labels hl

/-- Other metadata under the same number: nothing but the paths has to follow. -/
theorem Coherent.reimage (h : Coherent x) {id : ImageId} (new : Image) (hid : new.id = id)
    {paths : Table String ImageId}
    (hpaths : ∀ path id', paths.get? path = some id' ↔
      (id' = id ∧ path = new.path) ∨ (id' ≠ id ∧ x.paths.get? path = some id')) :
    Coherent { x with images := x.images.insert id new, paths := paths } := by
  refine ⟨?_, ?_, h.listed_eq, h.trimmed, ?_⟩
  · intro id' i hi
    rw [Table.get?_insert] at hi
    split at hi
    · rename_i hsame
      obtain rfl := Option.some.inj hi
      rw [hid, hsame]
    · exact h.image_id id' i hi
  · intro path id'
    rw [hpaths, Table.get?_insert]
    have hiff := h.path_iff path id'
    by_cases hi : id' = id <;> grind
  · intro id' labels hl
    obtain ⟨i, hi⟩ := h.registered id' labels hl
    rw [Table.get?_insert]
    by_cases hsame : id' = id <;> simp [hsame, hi]

theorem coherent_moveImage (h : Coherent x) {id : ImageId} {path : String}
    (hy : x.moveImage id path = .ok y) : Coherent y := by
  unfold moveImage at hy
  split at hy
  · simp at hy
  · rename_i hfree
    cases hold : x.images.get? id with
    | none => simp [hold] at hy
    | some old =>
      simp only [hold, Except.ok.injEq] at hy
      subst hy
      -- The new path is free or is the image's own.
      have hown : ∀ id', x.paths.get? path = some id' → id' = id := by
        intro id' hid'
        simpa [hid'] using hfree
      refine h.reimage (.make id path old.fingerprint) rfl fun p id' => ?_
      rw [Table.get?_insert, Table.get?_erase]
      have hthis := (h.path_iff old.path id).mpr ⟨old, hold, rfl⟩
      have hiff := h.path_iff p id'
      by_cases hp : p = path <;> by_cases hq : p = old.path <;> by_cases hi : id' = id <;> grind

theorem coherent_setFingerprint (h : Coherent x) {id : ImageId} {fingerprint : Option Fingerprint}
    (hy : x.setFingerprint id fingerprint = .ok y) : Coherent y := by
  unfold setFingerprint at hy
  cases hold : x.images.get? id with
  | none => simp [hold] at hy
  | some old =>
    simp only [hold, Except.ok.injEq] at hy
    subst hy
    refine h.reimage { old with fingerprint } (h.image_id id old hold) fun p id' => ?_
    have hiff := h.path_iff p id'
    by_cases hi : id' = id <;> grind

/-! ## Changes of labels -/

/-- A change that leaves the images alone and changes postings and labels alike. -/
theorem Coherent.relabel (h : Coherent x) {postings : Table String (KeySet ImageId)}
    {labels : Table ImageId (KeySet String)}
    (hlisted : ∀ label id, listed postings label id
      = ((labels.get? id).getD KeySet.empty).has label)
    (htrimmed : Trimmed postings)
    (hregistered : ∀ id, (labels.get? id).isSome → (x.images.get? id).isSome) :
    Coherent { x with postings, labels } where
  image_id := h.image_id
  path_iff := h.path_iff
  listed_eq := hlisted
  trimmed := htrimmed
  registered := fun id ls hl => Option.isSome_iff_exists.mp (hregistered id (by simp [hl]))

/-- Giving one registered image a set of labels registers no other. -/
theorem Coherent.isSome_of_insert (h : Coherent x) {id : ImageId} {new : KeySet String}
    (hid : x.images.contains id = true) (id' : ImageId)
    (hl : ((x.labels.insert id new).get? id').isSome) : (x.images.get? id').isSome := by
  rw [Table.get?_insert] at hl
  split at hl
  · rename_i hsame
    rw [hsame]
    exact hid
  · obtain ⟨labels, hlabels⟩ := Option.isSome_iff_exists.mp hl
    exact Option.isSome_iff_exists.mpr (h.registered id' labels hlabels)

theorem getD_insert (labels : Table ImageId (KeySet String)) (id id' : ImageId)
    (new : KeySet String) :
    ((labels.insert id new).get? id').getD KeySet.empty
      = if id' = id then new else (labels.get? id').getD KeySet.empty := by
  rw [Table.get?_insert]
  by_cases hi : id' = id <;> simp [hi]

theorem coherent_tag (h : Coherent x) {id : ImageId} {label : String} {added : Bool}
    (hy : x.tag id label = .ok (added, y)) : Coherent y := by
  unfold tag at hy
  split at hy
  · simp at hy
  · rename_i hid
    rw [Bool.not_eq_true, Bool.not_eq_false'] at hid
    dsimp only at hy
    split at hy
    · simp only [Except.ok.injEq, Prod.mk.injEq] at hy
      exact hy.2 ▸ h
    · simp only [Except.ok.injEq, Prod.mk.injEq] at hy
      obtain ⟨-, rfl⟩ := hy
      refine h.relabel (fun l id' => ?_) (trimmed_addToPosting h.trimmed id label)
        (h.isSome_of_insert hid)
      rw [listed_addToPosting, h.listed_eq, getD_insert]
      by_cases hi : id' = id
      · subst hi
        simp
      · simp [hi, labelsOf, labelsOf?]

theorem coherent_untag (h : Coherent x) {id : ImageId} {label : String} {removed : Bool}
    (hy : x.untag id label = .ok (removed, y)) : Coherent y := by
  unfold untag at hy
  split at hy
  · simp at hy
  · rename_i hid
    rw [Bool.not_eq_true, Bool.not_eq_false'] at hid
    dsimp only at hy
    split at hy
    · simp only [Except.ok.injEq, Prod.mk.injEq] at hy
      exact hy.2 ▸ h
    · simp only [Except.ok.injEq, Prod.mk.injEq] at hy
      obtain ⟨-, rfl⟩ := hy
      refine h.relabel (fun l id' => ?_) (trimmed_removeFromPosting h.trimmed id label)
        (h.isSome_of_insert hid)
      rw [listed_removeFromPosting, h.listed_eq, getD_insert]
      by_cases hi : id' = id
      · subst hi
        simp
      · simp [hi, labelsOf, labelsOf?]

/-- Only the labels that go and those that come are patched, which is enough. -/
theorem coherent_setLabels (h : Coherent x) {id : ImageId} {labels : List String}
    (hy : x.setLabels id labels = .ok y) : Coherent y := by
  unfold setLabels at hy
  split at hy
  · simp at hy
  · rename_i hid
    rw [Bool.not_eq_true, Bool.not_eq_false'] at hid
    simp only [Except.ok.injEq] at hy
    subst hy
    refine h.relabel (fun l id' => ?_) ?_ (h.isSome_of_insert hid)
    · rw [listed_foldl_addToPosting, listed_foldl_removeFromPosting, h.listed_eq, getD_insert,
        KeySet.contains_toList, KeySet.contains_toList, KeySet.has_diff, KeySet.has_diff]
      by_cases hi : id' = id
      · subst hi
        simp only [decide_true, Bool.and_true, if_true]
        cases (x.labelsOf id').has l <;> cases (KeySet.ofList labels).has l <;> rfl
      · simp [hi, labelsOf, labelsOf?]
    · exact trimmed_foldl (fun l ht => trimmed_addToPosting ht id l) _
        (trimmed_foldl (fun l ht => trimmed_removeFromPosting ht id l) _ h.trimmed)

/-- Taking a label from a list of images touches only these images. -/
theorem get?_foldl_modify (ids : List ImageId) (label : String)
    (labels : Table ImageId (KeySet String)) (id : ImageId) :
    (ids.foldl (fun ls i => ls.modify i (·.remove label)) labels).get? id
      = if id ∈ ids then (labels.get? id).map (·.remove label) else labels.get? id := by
  induction ids generalizing labels with
  | nil => simp
  | cons i ids ih =>
    rw [List.foldl_cons, ih, Table.get?_modify]
    by_cases hi : id = i
    · subst hi
      by_cases hm : id ∈ ids
      · cases labels.get? id with
        | none => simp
        | some s =>
          have htwice : (s.remove label).remove label = s.remove label :=
            KeySet.ext_has fun k => by simp
          simp [htwice]
      · simp [hm]
    · simp [hi]

theorem coherent_dropLabel (h : Coherent x) (label : String) : Coherent (x.dropLabel label) := by
  unfold dropLabel
  split
  · exact h
  · rename_i ids hids
    refine h.relabel (fun l id => ?_) ?_ ?_
    · have hthis : ids.has id = (x.labelsOf id).has label := by
        rw [← h.listed_eq, listed, hids, Option.getD_some]
      have hother : ((x.postings.get? l).getD KeySet.empty).has id = (x.labelsOf id).has l :=
        h.listed_eq l id
      rw [listed, Table.get?_erase, get?_foldl_modify]
      by_cases hm : id ∈ ids.toList
      · -- The label goes from this image, and every other label stays.
        have hget : ((Option.map (·.remove label) (x.labels.get? id)).getD KeySet.empty).has l
            = (!decide (l = label) && (x.labelsOf id).has l) := by
          unfold labelsOf labelsOf?
          cases x.labels.get? id <;> simp
        rw [if_pos hm, hget]
        by_cases hl : l = label
        · simp [hl]
        · simp [hl, hother]
      · rw [if_neg hm]
        rw [KeySet.mem_toList, hthis] at hm
        by_cases hl : l = label
        · subst hl
          simpa [labelsOf, labelsOf?] using (Bool.eq_false_iff.mpr hm).symm
        · simpa [hl, labelsOf, labelsOf?] using hother
    · intro l s hs
      rw [Table.get?_erase] at hs
      split at hs
      · simp at hs
      · exact h.trimmed l s hs
    · intro id hl
      rw [get?_foldl_modify] at hl
      split at hl
      · rw [Option.isSome_map] at hl
        obtain ⟨labels, hlabels⟩ := Option.isSome_iff_exists.mp hl
        exact Option.isSome_iff_exists.mpr (h.registered id labels hlabels)
      · obtain ⟨labels, hlabels⟩ := Option.isSome_iff_exists.mp hl
        exact Option.isSome_iff_exists.mpr (h.registered id labels hlabels)

/-! ## Histories -/

/-- **Every change keeps the tables in agreement**, whether it succeeds or not. -/
theorem coherent_apply (h : Coherent x) (change : IndexChange) : Coherent (x.apply change).2 := by
  cases change with
  | insertImage image =>
    show Coherent (settleDone x (x.insertImage image)).2
    cases hr : x.insertImage image with
    | error e => exact h
    | ok y => exact coherent_insertImage h hr
  | removeImage id =>
    show Coherent (settle x .image (x.removeImage id)).2
    cases hr : x.removeImage id with
    | error e => exact h
    | ok r => exact coherent_removeImage h hr
  | moveImage id path =>
    show Coherent (settleDone x (x.moveImage id path)).2
    cases hr : x.moveImage id path with
    | error e => exact h
    | ok y => exact coherent_moveImage h hr
  | setFingerprint id fingerprint =>
    show Coherent (settleDone x (x.setFingerprint id fingerprint)).2
    cases hr : x.setFingerprint id fingerprint with
    | error e => exact h
    | ok y => exact coherent_setFingerprint h hr
  | tag id label =>
    show Coherent (settle x .flag (x.tag id label)).2
    cases hr : x.tag id label with
    | error e => exact h
    | ok r => exact coherent_tag h hr
  | untag id label =>
    show Coherent (settle x .flag (x.untag id label)).2
    cases hr : x.untag id label with
    | error e => exact h
    | ok r => exact coherent_untag h hr
  | setLabels id labels =>
    show Coherent (settleDone x (x.setLabels id labels)).2
    cases hr : x.setLabels id labels with
    | error e => exact h
    | ok y => exact coherent_setLabels h hr
  | dropLabel label => exact coherent_dropLabel h label

/-- **The tables of an index agree after every history.** -/
theorem coherent_applyAll (h : Coherent x) (changes : List IndexChange) :
    Coherent (x.applyAll changes) := by
  induction changes generalizing x with
  | nil => exact h
  | cons c changes ih => exact ih (coherent_apply h c)

end Gallery.Index
