import Gallery.Library
import Gallery.Proofs.Index.View
import Gallery.Proofs.Table
import Mathlib.Data.Int.Order.Basic
import Mathlib.Order.Hom.Basic

/-!
# `Gallery.Proofs.Library.Renaming` — snapshots with other numbers

A library and a store may number a new tag or image differently, which nobody can tell from the
snapshot.  A renaming moves the numbers and keeps their order; renamed tables have the renamed entries
under the renamed keys, and an index whose tables agree stays one.

## Contents
- `Table.rekey`, a table with its keys moved.
- `Renaming`, with `Renaming.refl` and `shift`; `Tag.rename` up to `Snapshot.rename`, and
  `Renaming.Fixes`, a renaming that keeps the numbers in use.
- `Coherent.rename` and `Index.view_rename`, an index with other numbers and what it says;
  `view_rename_of_fixed` and `view_rename_insert`, if only new numbers are moved.
- `Snapshot.Agrees`, equality of what can be told of two snapshots.
-/

namespace Gallery

/-! ## Tables -/

namespace Table

variable {ν : Type} {f : Int ↪o Int} {t : Table Int ν} {k : Int} {v : ν}

/-- The table with every key moved. -/
def rekey (f : Int ↪o Int) (t : Table Int ν) : Table Int ν where
  entries := t.entries.map fun e => (f e.1, e.2)
  sorted := List.pairwise_map.mpr <| t.sorted.imp fun h =>
    Int.compare_eq_lt.mpr (f.strictMono (Int.compare_eq_lt.mp h))

theorem get?_rekey_eq_some_iff :
    (t.rekey f).get? k = some v ↔ ∃ j, f j = k ∧ t.get? j = some v := by
  rw [← mem_entries_iff, rekey]
  simp only [List.mem_map, Prod.exists, Prod.mk.injEq, mem_entries_iff]
  exact ⟨fun ⟨j, w, h, hk, hw⟩ => ⟨j, hk, hw ▸ h⟩, fun ⟨j, hk, h⟩ => ⟨j, v, h, hk, rfl⟩⟩

theorem get?_rekey (f : Int ↪o Int) (t : Table Int ν) (k : Int) :
    (t.rekey f).get? (f k) = t.get? k := by
  refine Option.ext fun v => ?_
  rw [get?_rekey_eq_some_iff]
  exact ⟨fun ⟨j, hj, h⟩ => f.injective hj ▸ h, fun h => ⟨k, rfl, h⟩⟩

/-- Keys that are not moved. -/
theorem rekey_of_fixed (h : ∀ k v, t.get? k = some v → f k = k) : t.rekey f = t := by
  refine ext_get? fun k => Option.ext fun v => ?_
  rw [get?_rekey_eq_some_iff]
  exact ⟨fun ⟨j, hj, hv⟩ => hj ▸ (h j v hv).symm ▸ hv, fun hv => ⟨k, h k v hv, hv⟩⟩

theorem rekey_insert (f : Int ↪o Int) (t : Table Int ν) (k : Int) (v : ν) :
    (t.insert k v).rekey f = (t.rekey f).insert (f k) v := by
  refine ext_get? fun i => Option.ext fun w => ?_
  rw [get?_rekey_eq_some_iff, get?_insert]
  by_cases hi : i = f k
  · rw [if_pos hi]
    constructor
    · rintro ⟨j, hj, hw⟩
      rwa [f.injective (hj.trans hi), get?_insert_self] at hw
    · intro hw
      exact ⟨k, hi.symm, by rw [get?_insert_self, hw]⟩
  · rw [if_neg hi, get?_rekey_eq_some_iff]
    refine exists_congr fun j => and_congr_right fun hj => ?_
    rw [get?_insert_of_ne t v fun hjk => hi (hj.symm.trans (congrArg f hjk))]

end Table

/-! ## Renamings -/

/-- New numbers for tags and images, in the same order. -/
structure Renaming where
  tags : TagId ↪o TagId
  images : ImageId ↪o ImageId

/-- The renaming that keeps all numbers. -/
def Renaming.refl : Renaming := ⟨RelEmbedding.refl _, RelEmbedding.refl _⟩

/-- Moves a number from `base` on up as far as `next` is above `base`. -/
def moveUp (base next i : Int) : Int := if i < base then i else i + (next - base).toNat

variable {base next : Int}

theorem moveUp_le_iff {i j : Int} : moveUp base next i ≤ moveUp base next j ↔ i ≤ j := by
  unfold moveUp
  split <;> split <;> omega

theorem moveUp_injective : Function.Injective (moveUp base next) := fun _ _ h =>
  Int.le_antisymm (moveUp_le_iff.mp (Int.le_of_eq h)) (moveUp_le_iff.mp (Int.le_of_eq h.symm))

/-- The numbers below `base` stay, and `base` becomes `next`. -/
def shift (base next : Int) : Int ↪o Int := ⟨⟨moveUp base next, moveUp_injective⟩, moveUp_le_iff⟩

theorem shift_of_lt {i : Int} (h : i < base) : shift base next i = i := if_pos h

theorem shift_add (h : base ≤ next) (k : Nat) : shift base next (base + k) = next + k := by
  have hle : ¬base + k < base := Int.not_lt.mpr (Int.le_add_of_nonneg_right (Int.natCast_nonneg k))
  refine (if_neg hle).trans ?_
  rw [Int.toNat_of_nonneg (Int.sub_nonneg_of_le h)]
  omega

theorem shift_self (h : base ≤ next) : shift base next base = next := by
  have hzero := shift_add h 0
  rwa [Int.natCast_zero, Int.add_zero, Int.add_zero] at hzero

/-- The tag with its new number. -/
def Tag.rename (ρ : Renaming) (t : Tag) : Tag := { t with id := ρ.tags t.id }

/-- The image with its new number. -/
def Image.rename (ρ : Renaming) (i : Image) : Image := { i with id := ρ.images i.id }

theorem Image.rename_make (ρ : Renaming) (id : ImageId) (path : String)
    (fingerprint : Option Fingerprint) :
    (make id path fingerprint).rename ρ = make (ρ.images id) path fingerprint := rfl

/-- The catalog with new numbers of tags. -/
def Catalog.rename (ρ : Renaming) (c : Catalog) : Catalog :=
  { c with tags := c.tags.map fun _ => Tag.rename ρ }

/-- The index with new numbers of images. -/
def Index.rename (ρ : Renaming) (x : Index) : Index where
  images := (x.images.map fun _ => Image.rename ρ).rekey ρ.images
  paths := x.paths.map fun _ => ρ.images
  postings := x.postings.map fun _ => Table.rekey ρ.images
  labels := x.labels.rekey ρ.images

/-- The snapshot with new numbers. -/
def Snapshot.rename (ρ : Renaming) (s : Snapshot) : Snapshot where
  catalog := s.catalog.rename ρ
  index := s.index.rename ρ

/-- The renaming keeps the numbers that are in use. -/
structure Renaming.Fixes (ρ : Renaming) (s : Snapshot) : Prop where
  tags : ∀ l t, s.catalog.tag? l = some t → ρ.tags t.id = t.id
  images : ∀ id image, s.index.images.get? id = some image → ρ.images id = id

/-! ## Renamed catalogs -/

namespace Catalog

variable {c c' : Catalog} {label : String}

theorem tags_rename_insert (ρ : Renaming) {t : Tag} (h : c'.tags = c.tags.insert label t) :
    (c'.rename ρ).tags = (c.rename ρ).tags.insert label (t.rename ρ) := by
  rw [rename, h]
  exact Table.map_insert ..

theorem tags_rename_erase (ρ : Renaming) (h : c'.tags = c.tags.erase label) :
    (c'.rename ρ).tags = (c.rename ρ).tags.erase label := by
  rw [rename, h]
  exact Table.map_erase ..

end Catalog

/-! ## Renamed indexes -/

namespace Index

variable {x : Index} {ρ : Renaming} {id : ImageId} {l : String}

theorem has_labelsOf_iff :
    (x.labelsOf id).has l = true ↔ ∃ ls, x.labels.get? id = some ls ∧ ls.has l = true := by
  unfold labelsOf labelsOf?
  cases x.labels.get? id <;> simp

theorem listed_iff {postings : Table String (KeySet ImageId)} :
    listed postings l id = true ↔ ∃ ids, postings.get? l = some ids ∧ ids.has id = true := by
  unfold listed
  cases postings.get? l <;> simp

theorem has_rekey_iff {f : Int ↪o Int} {ids : KeySet ImageId} :
    KeySet.has (ids.rekey f) id = true ↔ ∃ j, f j = id ∧ ids.has j = true := by
  simp only [KeySet.has_iff, Table.get?_rekey_eq_some_iff]

theorem labelsOf_rename (ρ : Renaming) (x : Index) (id : ImageId) :
    (x.rename ρ).labelsOf (ρ.images id) = x.labelsOf id := by
  unfold labelsOf labelsOf? rename
  rw [Table.get?_rekey]

theorem has_rename_iff {id : ImageId} :
    ((x.rename ρ).labelsOf id).has l = true ↔
      ∃ j, ρ.images j = id ∧ (x.labelsOf j).has l = true := by
  simp only [has_labelsOf_iff, rename, Table.get?_rekey_eq_some_iff]
  exact ⟨fun ⟨ls, ⟨j, hj, hls⟩, hl⟩ => ⟨j, hj, ls, hls, hl⟩,
    fun ⟨j, hj, ls, hls, hl⟩ => ⟨ls, ⟨j, hj, hls⟩, hl⟩⟩

theorem images_rename_eq_some_iff {image : Image} :
    (x.rename ρ).images.get? id = some image ↔
      ∃ j i, ρ.images j = id ∧ x.images.get? j = some i ∧ i.rename ρ = image := by
  simp only [rename, Table.get?_rekey_eq_some_iff, Table.get?_map, Option.map_eq_some_iff]
  exact ⟨fun ⟨j, hj, i, hi, himage⟩ => ⟨j, i, hj, hi, himage⟩,
    fun ⟨j, i, hj, hi, himage⟩ => ⟨j, hj, i, hi, himage⟩⟩

/-- **A renamed index is one whose tables agree.** -/
theorem Coherent.rename (h : Coherent x) (ρ : Renaming) : Coherent (x.rename ρ) where
  image_id := by
    intro id image himage
    obtain ⟨j, i, rfl, hi, rfl⟩ := images_rename_eq_some_iff.mp himage
    exact congrArg ρ.images (h.image_id j i hi)
  path_iff := by
    intro path id
    simp only [images_rename_eq_some_iff]
    rw [Index.rename, Table.get?_map, Option.map_eq_some_iff]
    simp only [h.path_iff]
    constructor
    · rintro ⟨j, ⟨i, hi, hpath⟩, hj⟩
      exact ⟨_, ⟨j, i, hj, hi, rfl⟩, hpath⟩
    · rintro ⟨_, ⟨j, i, hj, hi, rfl⟩, hpath⟩
      exact ⟨j, ⟨i, hi, hpath⟩, hj⟩
  listed_eq := by
    -- Both sides say that the image under the old number has the label.
    intro l id
    rw [Bool.eq_iff_iff, has_rename_iff, listed_iff]
    simp only [Index.rename, Table.get?_map, Option.map_eq_some_iff, ← h.listed_eq, listed_iff]
    constructor
    · rintro ⟨_, ⟨ids, hids, rfl⟩, hid⟩
      obtain ⟨j, hj, hhas⟩ := has_rekey_iff.mp hid
      exact ⟨j, hj, ids, hids, hhas⟩
    · rintro ⟨j, hj, ids, hids, hhas⟩
      exact ⟨_, ⟨ids, hids, rfl⟩, has_rekey_iff.mpr ⟨j, hj, hhas⟩⟩
  trimmed := by
    intro l ids hids
    simp only [Index.rename, Table.get?_map, Option.map_eq_some_iff] at hids
    obtain ⟨old, hold, rfl⟩ := hids
    obtain ⟨id, hid⟩ := h.trimmed l old hold
    exact ⟨ρ.images id, has_rekey_iff.mpr ⟨id, rfl, hid⟩⟩
  registered := by
    intro id ls hls
    obtain ⟨j, rfl, hj⟩ := Table.get?_rekey_eq_some_iff.mp hls
    obtain ⟨i, hi⟩ := h.registered j ls hj
    exact ⟨_, images_rename_eq_some_iff.mpr ⟨j, i, rfl, hi, rfl⟩⟩

/-- A renamed index says the same of the renamed images. -/
theorem view_rename (ρ : Renaming) (x : Index) :
    (x.rename ρ).view = (x.view.map fun _ v => (v.1.rename ρ, v.2)).rekey ρ.images := by
  refine Table.ext_get? fun id => Option.ext fun v => ?_
  rw [get?_view, Option.map_eq_some_iff, Table.get?_rekey_eq_some_iff]
  simp only [images_rename_eq_some_iff, Table.get?_map, get?_view, Option.map_map,
    Option.map_eq_some_iff, Function.comp_apply]
  constructor
  · rintro ⟨_, ⟨j, i, rfl, hi, rfl⟩, rfl⟩
    exact ⟨j, rfl, i, hi, by rw [labelsOf_rename]⟩
  · rintro ⟨j, rfl, i, hi, rfl⟩
    exact ⟨_, ⟨j, i, rfl, hi, rfl⟩, by rw [labelsOf_rename]⟩

/-- Numbers that are kept. -/
theorem Coherent.view_rename_of_fixed (h : Coherent x)
    (hfixed : ∀ id image, x.images.get? id = some image → ρ.images id = id) :
    (x.rename ρ).view = x.view := by
  rw [view_rename, Table.rekey_of_fixed]
  · refine Table.ext_get? fun id => ?_
    rw [Table.get?_map, get?_view, Option.map_map]
    cases hi : x.images.get? id with
    | none => rfl
    | some i =>
      have hid : ρ.images i.id = i.id := by rw [h.image_id id i hi, hfixed id i hi]
      simp only [Option.map_some, Function.comp_apply, Image.rename, hid]
  · intro id v hv
    rw [Table.get?_map, get?_view, Option.map_map, Option.map_eq_some_iff] at hv
    obtain ⟨i, hi, -⟩ := hv
    exact hfixed id i hi

/-- Only a new image gets another number. -/
theorem Coherent.view_rename_insert (h : Coherent x)
    (hfixed : ∀ id image, x.images.get? id = some image → ρ.images id = id) {y : Index}
    {image : Image} {labels : KeySet String} (hy : y.view = x.view.insert id (image, labels)) :
    (y.rename ρ).view = x.view.insert (ρ.images id) (image.rename ρ, labels) := by
  rw [view_rename, hy, Table.map_insert, Table.rekey_insert, ← view_rename,
    h.view_rename_of_fixed hfixed]

end Index

/-! ## Snapshots that agree -/

/-- Two snapshots hold the same.  Not compared are the versions of the catalogs, and an image without
labels may have been given none or an empty set. -/
structure Snapshot.Agrees (s t : Snapshot) : Prop where
  tags : s.catalog.tags = t.catalog.tags
  types : s.catalog.types = t.catalog.types
  images : s.index.images = t.index.images
  paths : s.index.paths = t.index.paths
  postings : s.index.postings = t.index.postings
  labels : ∀ id, s.index.labelsOf id = t.index.labelsOf id

end Gallery
