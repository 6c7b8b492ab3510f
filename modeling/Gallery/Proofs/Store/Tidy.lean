import Gallery.Proofs.Store.Exact
import Mathlib.Data.List.Basic

/-!
# `Gallery.Proofs.Store.Tidy` — stores without rows that nothing stands for

Commands write to a store only what a library has accepted, so every row stands for something and
nothing is left out when the store is loaded.  In such a store each change is one operation on the
catalog and the images that the rows stand for.

## Contents
- `Tidy`, the property, with what it says of the catalog and of the images.
- For each change of a store: that it keeps the property, and what it makes of the catalog and of the
  images.
-/

namespace Gallery.Store

/-- Every row stands for something, and nothing of it is left out. -/
structure Tidy (s : Store) : Prop where
  valid : s.Valid
  /-- A type is legal, and its symbol is all there is of the stored text. -/
  type_legal : ∀ i r, s.types.get? i = some r →
    ∃ t, r.toType? i = some t ∧ r.symbol = String.singleton t.symbol
  /-- No type was ever deleted. -/
  type_next : s.types.next = s.types.rows.lastKey?.getD 0 + 1
  tag_legal : ∀ i r, s.tags.get? i = some r → isValidLabel r.label = true
  /-- The tags of images are plain. -/
  tag_plain : ∀ i r t q, s.images.get? i = some r → r.tags.has t = true →
    s.tags.get? t = some q → q.definition = none

variable {s s' : Store} {id : Int} {path label l : String} {fingerprint : Option (List UInt8)}
  {symbol : String} {color : Int} {typeId : Option TypeId} {definition : Option String}
  {labels : List String} {done : Bool}

theorem tidy_empty : (∅ : Store).Tidy where
  valid := valid_empty
  type_legal := fun _ _ h => nomatch h
  type_next := rfl
  tag_legal := fun _ _ h => nomatch h
  tag_plain := fun _ _ _ _ h => nomatch h

/-! ## What the rows stand for -/

theorem Tidy.legible (h : s.Tidy) : s.Legible where
  valid := h.valid
  type_label := fun i r hr => by
    obtain ⟨t, ht, -⟩ := h.type_legal i r hr
    exact (TypeRow.toType?_eq_some_iff.mp ht).1
  type_symbol := fun i r hr => by
    obtain ⟨t, ht, hsymbol⟩ := h.type_legal i r hr
    obtain ⟨-, hvalid, -⟩ := TypeRow.toType?_eq_some_iff.mp ht
    exact ⟨t.symbol, hsymbol, hvalid⟩
  tag_label := h.tag_legal

theorem Tidy.exists_load (h : s.Tidy) (fresh : Version) :
    ∃ m, s.load fresh = .ok m ∧ s.Loads m :=
  h.valid.exists_load h.legible.distinguishable fresh

/-- Types get the same number from a catalog as from the store. -/
theorem Tidy.nextTypeId (h : s.Tidy) : s.catalog.nextTypeId = s.types.next := by
  rw [Catalog.nextTypeId, h.type_next,
    Table.lastKey?_congr (t := s.types.rows) h.legible.contains_types]

/-- The tags of the catalog are the rows. -/
theorem Tidy.tag?_eq_some_iff (h : s.Tidy) {t : Tag} :
    s.catalog.tag? l = some t ↔
      s.tags.get? t.id = some ⟨l, t.typeId, t.definition⟩ ∧ t.label = l :=
  h.legible.tag?_eq_some_iff

/-- A label without tag is in no row. -/
theorem Tidy.label_ne_of_none (h : s.Tidy) (hl : s.catalog.tag? l = none) :
    ∀ i r, s.tags.get? i = some r → r.label ≠ l := by
  rintro i r hr rfl
  rw [h.valid.tag?_of_row hr (h.tag_legal i r hr)] at hl
  cases hl

theorem Tidy.plainLabels_eq (h : s.Tidy) {r : ImageRow} (hr : s.images.get? id = some r) :
    s.plainLabels s.catalog r = s.labelsOf r := by
  refine List.filter_eq_self.mpr fun l hl => ?_
  obtain ⟨t, q, ht, hq, rfl⟩ := mem_labelsOf_iff.mp hl
  rw [h.valid.tag?_of_row hq (h.tag_legal t q hq), Option.any_some, Tag.isCompound,
    h.tag_plain id r t q hr ht hq]
  rfl

/-- Images have the labels of all their tags. -/
theorem Tidy.get?_view (h : s.Tidy) (id : ImageId) :
    s.view.get? id = (s.images.get? id).map fun r => (r.toImage id, .ofList (s.labelsOf r)) := by
  rw [Store.get?_view]
  cases hr : s.images.get? id with
  | none => rfl
  | some r => rw [Option.map_some, Option.map_some, h.plainLabels_eq hr]

/-! ## Changes of images -/

theorem Tidy.addImage (h : s.Tidy) (hs' : s.addImage path fingerprint = .ok (id, s')) :
    s'.Tidy := by
  have hvalid := h.valid.addImage hs'
  obtain ⟨-, -, rfl⟩ := addImage_eq_ok_iff.mp hs'
  refine ⟨hvalid, h.type_legal, h.type_next, h.tag_legal, fun i r t q hr ht hq => ?_⟩
  rw [Numbered.get?_append] at hr
  split at hr
  · cases hr
    cases ht
  · exact h.tag_plain i r t q hr ht hq

theorem Tidy.view_addImage (h : s.Tidy) (hs' : s.addImage path fingerprint = .ok (id, s')) :
    s'.view = s.view.insert id
      (.make id path (fingerprint.bind Fingerprint.ofBytes?), KeySet.empty) := by
  have h' := h.addImage hs'
  obtain ⟨-, rfl, rfl⟩ := addImage_eq_ok_iff.mp hs'
  refine Table.ext_get? fun i => ?_
  rw [h'.get?_view, Numbered.get?_append, Table.get?_insert, h.get?_view]
  split
  · rename_i hi
    rw [hi]
    rfl
  · rfl

theorem Tidy.movePath (h : s.Tidy) (hid : s.images.contains id = true)
    (hs' : s.movePath id path = .ok (done, s')) : s'.Tidy := by
  have hvalid := h.valid.movePath hid hs'
  obtain ⟨-, -, rfl⟩ := (h.valid.movePath_eq_ok_iff hid).mp hs'
  refine ⟨hvalid, h.type_legal, h.type_next, h.tag_legal, fun i r t q hr ht hq => ?_⟩
  rw [Numbered.get?_modify] at hr
  split at hr
  · obtain ⟨r', hr', rfl⟩ := Option.map_eq_some_iff.mp hr
    exact h.tag_plain i r' t q hr' ht hq
  · exact h.tag_plain i r t q hr ht hq

theorem Tidy.view_movePath (h : s.Tidy) (hid : s.images.contains id = true)
    (hs' : s.movePath id path = .ok (done, s')) :
    s'.view = s.view.modify id fun v => (.make v.1.id path v.1.fingerprint, v.2) := by
  have h' := h.movePath hid hs'
  obtain ⟨-, -, rfl⟩ := (h.valid.movePath_eq_ok_iff hid).mp hs'
  refine Table.ext_get? fun i => ?_
  rw [h'.get?_view, Numbered.get?_modify, Table.get?_modify, h.get?_view]
  split
  · rw [Option.map_map, Option.map_map]
    rfl
  · rfl

theorem Tidy.deleteImage (h : s.Tidy) (id : ImageId) : (s.deleteImage id).2.Tidy := by
  refine ⟨h.valid.deleteImage id, h.type_legal, h.type_next, h.tag_legal,
    fun i r t q hr ht hq => ?_⟩
  rw [Store.deleteImage, Numbered.get?_erase] at hr
  split at hr
  · cases hr
  · exact h.tag_plain i r t q hr ht hq

theorem Tidy.view_deleteImage (h : s.Tidy) (id : ImageId) :
    (s.deleteImage id).2.view = s.view.erase id := by
  refine Table.ext_get? fun i => ?_
  rw [(h.deleteImage id).get?_view, Store.deleteImage, Numbered.get?_erase, Table.get?_erase,
    h.get?_view]
  split <;> rfl

theorem Tidy.setImageTags (h : s.Tidy) (hid : s.images.contains id = true)
    (hlabels : ∀ l ∈ labels, s.catalog.meaning l = .plain)
    (hs' : s.setImageTags id labels = .ok s') : s'.Tidy := by
  have hvalid := h.valid.setImageTags hid hs'
  rw [setImageTags_eq_ok hid labels] at hs'
  cases hs'
  refine ⟨hvalid, h.type_legal, h.type_next, h.tag_legal, fun i r t q hr ht hq => ?_⟩
  rw [Numbered.get?_modify] at hr
  split at hr
  · obtain ⟨r', -, rfl⟩ := Option.map_eq_some_iff.mp hr
    rw [KeySet.has_ofList, List.contains_iff_mem, List.mem_filterMap] at ht
    obtain ⟨l, hl, hfind⟩ := ht
    obtain ⟨u, hu, hnone⟩ := Catalog.meaning_eq_plain_iff.mp (hlabels l hl)
    obtain ⟨q', hq', hql⟩ := h.valid.tagId?_eq_some_iff.mp hfind
    cases hq'.symm.trans hq
    rw [← hql, h.valid.tag?_of_row hq (h.tag_legal t q hq)] at hu
    cases hu
    exact hnone
  · exact h.tag_plain i r t q hr ht hq

theorem Tidy.view_setImageTags (h : s.Tidy) (hid : s.images.contains id = true)
    (hlabels : ∀ l ∈ labels, s.catalog.meaning l = .plain)
    (hs' : s.setImageTags id labels = .ok s') :
    s'.view = s.view.modify id fun v => (v.1, KeySet.ofList labels) := by
  have h' := h.setImageTags hid hlabels hs'
  rw [setImageTags_eq_ok hid labels] at hs'
  cases hs'
  refine Table.ext_get? fun i => ?_
  rw [h'.get?_view, Numbered.get?_modify, Table.get?_modify, h.get?_view]
  split
  · rw [Option.map_map, Option.map_map]
    refine congrArg (fun f => (s.images.get? i).map f) (funext fun r => ?_)
    -- Every label has a tag, and a tag has no other label.
    refine congrArg (Prod.mk (r.toImage i)) (KeySet.ext_has fun l => ?_)
    rw [KeySet.has_ofList, KeySet.has_ofList, Bool.eq_iff_iff, List.contains_iff_mem,
      List.contains_iff_mem, mem_labelsOf_iff]
    simp only [KeySet.has_ofList, List.contains_iff_mem, List.mem_filterMap,
      h.valid.tagId?_eq_some_iff]
    constructor
    · rintro ⟨t, q, ⟨l', hl', q', hq', rfl⟩, hq, rfl⟩
      cases hq'.symm.trans hq
      exact hl'
    · intro hl
      obtain ⟨u, hu, -⟩ := Catalog.meaning_eq_plain_iff.mp (hlabels l hl)
      have hq := (h.tag?_eq_some_iff.mp hu).1
      exact ⟨u.id, _, ⟨l, hl, _, hq, rfl⟩, hq, rfl⟩
  · rfl

/-! ## Changes of types -/

/-- The catalogs of two tidy stores have the tags in common that the rows have. -/
theorem Tidy.tags_congr (h : s.Tidy) (h' : s'.Tidy) (htags : s'.tags = s.tags) :
    s'.catalog.tags = s.catalog.tags := by
  refine Table.ext_get? fun l => Option.ext fun t => ?_
  show s'.catalog.tag? l = some t ↔ s.catalog.tag? l = some t
  rw [h'.tag?_eq_some_iff, h.tag?_eq_some_iff, htags]

theorem Tidy.addType {t : TagType} (h : s.Tidy)
    (ht : TypeRow.toType? ⟨label, symbol, color⟩ id = some t)
    (hsymbol : symbol = String.singleton t.symbol)
    (hs' : s.addType label symbol color = .ok (id, s')) : s'.Tidy := by
  have hvalid := h.valid.addType hs'
  obtain ⟨-, -, rfl, rfl⟩ := addType_eq_ok_iff.mp hs'
  refine ⟨hvalid, fun i r hr => ?_, ?_, h.tag_legal, h.tag_plain⟩
  · rw [Numbered.get?_append] at hr
    split at hr
    · rename_i hi
      cases hr
      exact ⟨t, hi ▸ ht, hsymbol⟩
    · exact h.type_legal i r hr
  · rw [Numbered.next_append, Numbered.lastKey?_append, Option.getD_some]

theorem Tidy.types_addType {t : TagType} (ht : TypeRow.toType? ⟨label, symbol, color⟩ id = some t)
    (hs' : s.addType label symbol color = .ok (id, s')) :
    s'.catalog.types = s.catalog.types.insert id t := by
  obtain ⟨-, -, rfl, rfl⟩ := addType_eq_ok_iff.mp hs'
  refine Table.ext_get? fun i => ?_
  show Catalog.tagType? _ i = _
  rw [catalog_tagType?, Numbered.get?_append, Table.get?_insert]
  split
  · rename_i hi
    rw [hi, Option.bind_some, ht]
  · exact (catalog_tagType? s i).symm

theorem Tidy.view_addType {t : TagType} (h : s.Tidy)
    (ht : TypeRow.toType? ⟨label, symbol, color⟩ id = some t)
    (hsymbol : symbol = String.singleton t.symbol)
    (hs' : s.addType label symbol color = .ok (id, s')) : s'.view = s.view := by
  have h' := h.addType ht hsymbol hs'
  obtain ⟨-, -, -, rfl⟩ := addType_eq_ok_iff.mp hs'
  refine Table.ext_get? fun i => ?_
  rw [h'.get?_view, h.get?_view]
  rfl

section

variable {t : TagType} {symbol : Char} {color : UInt32}

/-- What is stored of a type that was made stands for the type. -/
theorem toType?_of_make (ht : TagType.make id label symbol color = .ok t) :
    TypeRow.toType? ⟨label, symbol.toString, color.toNat⟩ id = some t
      ∧ symbol.toString = String.singleton t.symbol := by
  have hsymbol : symbol.toString.toList = [symbol] := String.toList_singleton symbol
  have hcolor : UInt32.ofInt color.toNat = color := by
    have hlt : (color.toNat : Int) < 2 ^ 32 := Int.ofNat_lt.mpr color.toNat_lt
    rw [UInt32.ofInt, Int.emod_eq_of_lt (Int.natCast_nonneg _) hlt, Int.toNat_natCast,
      UInt32.ofNat_toNat]
  constructor
  · rw [TypeRow.toType?, hsymbol]
    dsimp only
    rw [hcolor, ht]
    rfl
  · unfold TagType.make at ht
    split at ht
    · cases ht
    split at ht
    · cases ht
    · cases ht
      rfl

/-- A type that conflicts with none of the catalog is not refused. -/
theorem Tidy.exists_addType {c : Catalog} (h : s.Tidy) (hid : id = s.catalog.nextTypeId)
    (ht : TagType.make id label symbol color = .ok t) (hc : s.catalog.insertType t = .ok c) :
    ∃ s', s.addType label symbol.toString color.toNat = .ok (id, s') := by
  rw [h.nextTypeId] at hid
  obtain ⟨hrow, hsymbol⟩ := toType?_of_make ht
  obtain ⟨hfree, -⟩ := Catalog.insertType_eq_ok_iff.mp hc
  obtain ⟨htid, htl⟩ := TypeRow.toType?_eq_some hrow
  have hapart : ∀ i r, s.types.get? i = some r → r.label ≠ label ∧ r.symbol ≠ symbol.toString := by
    intro i r hr
    obtain ⟨u, hu, hrs⟩ := h.type_legal i r hr
    obtain ⟨hui, hul⟩ := TypeRow.toType?_eq_some hu
    have hmem : s.catalog.types.get? i = some u := by
      rw [← Catalog.tagType?, catalog_tagType?, hr, Option.bind_some, hu]
    have hconflict := hfree u (Table.mem_values_iff.mpr ⟨i, hmem⟩)
    have hne : (u.id != t.id) = true := by
      rw [bne_iff_ne, hui, htid, hid]
      exact Int.ne_of_lt (Numbered.lt_next hr)
    rw [Catalog.conflict, hne, Bool.true_and, Bool.or_eq_false_iff, beq_eq_false_iff_ne,
      beq_eq_false_iff_ne] at hconflict
    refine ⟨fun heq => hconflict.1 (hul.trans (heq.trans htl.symm)), fun heq => hconflict.2 ?_⟩
    exact String.singleton_inj.mp (hrs.symm.trans (heq.trans hsymbol))
  exact ⟨_, addType_eq_ok_iff.mpr
    ⟨fun i r hr => (hapart i r hr).2, fun i r hr => (hapart i r hr).1, hid, rfl⟩⟩

end

/-! ## Changes of tags -/

/-- One label gets a new tag, and the rows of the others stay. -/
theorem Tidy.tags_eq_insert (h : s.Tidy) (h' : s'.Tidy) {u : Tag}
    (hu : s'.tags.get? u.id = some ⟨label, u.typeId, u.definition⟩) (hlabel : u.label = label)
    (hother : ∀ i q, q.label ≠ label → (s'.tags.get? i = some q ↔ s.tags.get? i = some q)) :
    s'.catalog.tags = s.catalog.tags.insert label u := by
  refine Table.ext_get? fun l => ?_
  rw [Table.get?_insert]
  show s'.catalog.tag? l = if l = label then some u else s.catalog.tag? l
  by_cases hl : l = label
  · rw [if_pos hl, hl]
    exact h'.tag?_eq_some_iff.mpr ⟨hu, hlabel⟩
  · rw [if_neg hl]
    refine Option.ext fun t => ?_
    rw [h'.tag?_eq_some_iff, h.tag?_eq_some_iff, hother t.id _ hl]

/-- One label loses its tag, and the rows of the others stay. -/
theorem Tidy.tags_eq_erase (h : s.Tidy) (h' : s'.Tidy)
    (hgone : ∀ i q, s'.tags.get? i = some q → q.label ≠ label)
    (hother : ∀ i q, q.label ≠ label → (s'.tags.get? i = some q ↔ s.tags.get? i = some q)) :
    s'.catalog.tags = s.catalog.tags.erase label := by
  refine Table.ext_get? fun l => Option.ext fun t => ?_
  rw [Table.get?_erase]
  show s'.catalog.tag? l = some t ↔ (if l = label then none else s.catalog.tag? l) = some t
  rw [h'.tag?_eq_some_iff]
  by_cases hl : l = label
  · rw [if_pos hl]
    exact ⟨fun ht => absurd hl (hgone _ _ ht.1), nofun⟩
  · rw [if_neg hl, h.tag?_eq_some_iff, hother t.id _ hl]

theorem Tidy.addTag (h : s.Tidy) (hlegal : isValidLabel label = true)
    (hs' : s.addTag label typeId definition = .ok (id, s')) : s'.Tidy := by
  have hvalid := h.valid.addTag hs'
  obtain ⟨-, -, -, rfl⟩ := addTag_eq_ok_iff.mp hs'
  refine ⟨hvalid, h.type_legal, h.type_next, fun i r hr => ?_, fun i r t q hr ht hq => ?_⟩
  · rw [Numbered.get?_append] at hr
    split at hr
    · cases hr
      exact hlegal
    · exact h.tag_legal i r hr
  · -- No image has the new tag yet.
    obtain ⟨q', hq'⟩ := Numbered.contains_iff.mp (h.valid.tag_exists i r t hr ht)
    rw [Numbered.get?_append, if_neg (Int.ne_of_lt (Numbered.lt_next hq'))] at hq
    exact h.tag_plain i r t q hr ht hq

theorem Tidy.tags_addTag (h : s.Tidy) (hlegal : isValidLabel label = true)
    (hs' : s.addTag label typeId definition = .ok (id, s')) :
    s'.catalog.tags = s.catalog.tags.insert label ⟨id, label, typeId, definition⟩ := by
  have h' := h.addTag hlegal hs'
  obtain ⟨-, -, rfl, rfl⟩ := addTag_eq_ok_iff.mp hs'
  refine h.tags_eq_insert h' ?_ rfl fun i q hq => ?_
  · rw [Numbered.get?_append, if_pos rfl]
  · rw [Numbered.get?_append]
    split
    · -- The new row has the label, and there was no row with its number.
      rename_i hi
      rw [hi, Numbered.get?_next]
      exact ⟨fun heq => absurd (congrArg TagRow.label (Option.some.inj heq)).symm hq, nofun⟩
    · exact .rfl

/-- Rows of tags may change as long as the labels of the tags of images stay. -/
theorem Tidy.view_congr (h : s.Tidy) (h' : s'.Tidy) (himages : s'.images = s.images)
    (hlabels : ∀ t, s.tags.contains t = true →
      (s'.tags.get? t).map (·.label) = (s.tags.get? t).map (·.label)) : s'.view = s.view := by
  refine Table.ext_get? fun i => ?_
  rw [h'.get?_view, h.get?_view, himages]
  cases hr : s.images.get? i with
  | none => rfl
  | some r =>
    have hsame : s'.labelsOf r = s.labelsOf r :=
      List.filterMap_congr fun t ht =>
        hlabels t (h.valid.tag_exists i r t hr (KeySet.mem_toList.mp ht))
    rw [Option.map_some, Option.map_some, hsame]

theorem Tidy.view_addTag (h : s.Tidy) (hlegal : isValidLabel label = true)
    (hs' : s.addTag label typeId definition = .ok (id, s')) : s'.view = s.view := by
  have h' := h.addTag hlegal hs'
  obtain ⟨-, -, -, rfl⟩ := addTag_eq_ok_iff.mp hs'
  refine h.view_congr h' rfl fun t ht => ?_
  obtain ⟨q, hq⟩ := Numbered.contains_iff.mp ht
  rw [Numbered.get?_append, if_neg (Int.ne_of_lt (Numbered.lt_next hq))]

section

variable {u : Tag}

/-- The change of a tag, written with the number of its row. -/
theorem Tidy.of_updateTag (h : s.Tidy) (hu : s.catalog.tag? label = some u)
    (hs' : s.updateTag label typeId definition = .ok (done, s')) :
    s.tags.get? u.id = some ⟨label, u.typeId, u.definition⟩ ∧ s' = { s with
      tags := s.tags.modify u.id fun r => { r with typeId, definition } } := by
  obtain ⟨hq, -⟩ := h.tag?_eq_some_iff.mp hu
  obtain ⟨-, -, heq⟩ := (h.valid.updateTag_eq_ok_iff hq).mp hs'
  exact ⟨hq, heq⟩

/-- A tag that images have stays plain. -/
theorem Tidy.updateTag (h : s.Tidy) (hu : s.catalog.tag? label = some u)
    (hunused : definition.isSome = true → ∀ i v, s.view.get? i = some v → v.2.has label = false)
    (hs' : s.updateTag label typeId definition = .ok (done, s')) : s'.Tidy := by
  have hvalid := h.valid.updateTag hs'
  obtain ⟨hrow, rfl⟩ := h.of_updateTag hu hs'
  refine ⟨hvalid, h.type_legal, h.type_next, fun i r hr => ?_, fun i r t q hr ht hq => ?_⟩
  · rw [Numbered.get?_modify] at hr
    split at hr
    · obtain ⟨r', hr', rfl⟩ := Option.map_eq_some_iff.mp hr
      exact h.tag_legal i r' hr'
    · exact h.tag_legal i r hr
  · rw [Numbered.get?_modify] at hq
    split at hq
    · rename_i htu
      obtain ⟨q', -, rfl⟩ := Option.map_eq_some_iff.mp hq
      cases definition with
      | none => rfl
      | some d =>
        -- The image would have the label.
        have hview := h.get?_view i
        have hr' : s.images.get? i = some r := hr
        rw [hr', Option.map_some] at hview
        have hfree := hunused rfl i _ hview
        rw [KeySet.has_ofList, Bool.eq_false_iff, ne_eq, List.contains_iff_mem] at hfree
        exact absurd (mem_labelsOf_iff.mpr ⟨t, _, ht, htu ▸ hrow, rfl⟩) hfree
    · exact h.tag_plain i r t q hr ht hq

theorem Tidy.tags_updateTag (h : s.Tidy) (hu : s.catalog.tag? label = some u)
    (hunused : definition.isSome = true → ∀ i v, s.view.get? i = some v → v.2.has label = false)
    (hs' : s.updateTag label typeId definition = .ok (done, s')) :
    s'.catalog.tags = s.catalog.tags.insert label ⟨u.id, label, typeId, definition⟩ := by
  have h' := h.updateTag hu hunused hs'
  obtain ⟨hrow, rfl⟩ := h.of_updateTag hu hs'
  refine h.tags_eq_insert h' ?_ rfl fun i q hq => ?_
  · rw [Numbered.get?_modify, if_pos rfl, hrow]
    rfl
  · rw [Numbered.get?_modify]
    split
    · -- The row has the label before and after.
      rename_i hi
      rw [hi, hrow]
      exact ⟨fun heq => absurd (congrArg TagRow.label (Option.some.inj heq)).symm hq,
        fun heq => absurd (congrArg TagRow.label (Option.some.inj heq)).symm hq⟩
    · exact .rfl

theorem Tidy.view_updateTag (h : s.Tidy) (hu : s.catalog.tag? label = some u)
    (hunused : definition.isSome = true → ∀ i v, s.view.get? i = some v → v.2.has label = false)
    (hs' : s.updateTag label typeId definition = .ok (done, s')) : s'.view = s.view := by
  have h' := h.updateTag hu hunused hs'
  obtain ⟨-, rfl⟩ := h.of_updateTag hu hs'
  refine h.view_congr h' rfl fun t _ => ?_
  rw [Numbered.get?_modify]
  split
  · rw [Option.map_map]
    rfl
  · rfl

/-- The deletion of a tag, written with the number of its row. -/
theorem Tidy.deleteTag_eq (h : s.Tidy) (hu : s.catalog.tag? label = some u) :
    s.deleteTag label = (true, { s with
      tags := s.tags.erase u.id
      images := s.images.mapRows fun r => { r with tags := r.tags.remove u.id } }) := by
  obtain ⟨hq, -⟩ := h.tag?_eq_some_iff.mp hu
  rw [deleteTag, h.valid.tagId?_eq_some_iff.mpr ⟨_, hq, rfl⟩]

theorem Tidy.deleteTag (h : s.Tidy) (hu : s.catalog.tag? label = some u) :
    (s.deleteTag label).2.Tidy := by
  have hvalid := h.valid.deleteTag label
  rw [h.deleteTag_eq hu] at hvalid ⊢
  refine ⟨hvalid, h.type_legal, h.type_next, fun i r hr => ?_, fun i r t q hr ht hq => ?_⟩
  · rw [Numbered.get?_erase] at hr
    split at hr
    · cases hr
    · exact h.tag_legal i r hr
  · rw [Numbered.get?_mapRows] at hr
    obtain ⟨r', hr', rfl⟩ := Option.map_eq_some_iff.mp hr
    rw [KeySet.has_remove, Bool.and_eq_true] at ht
    rw [Numbered.get?_erase] at hq
    split at hq
    · cases hq
    · exact h.tag_plain i r' t q hr' ht.2 hq

theorem Tidy.tags_deleteTag (h : s.Tidy) (hu : s.catalog.tag? label = some u) :
    (s.deleteTag label).2.catalog.tags = s.catalog.tags.erase label := by
  have h' := h.deleteTag hu
  obtain ⟨hrow, -⟩ := h.tag?_eq_some_iff.mp hu
  rw [h.deleteTag_eq hu] at h' ⊢
  refine h.tags_eq_erase h' (fun i q hq hlabel => ?_) fun i q hq => ?_
  · rw [Numbered.get?_erase] at hq
    split at hq
    · cases hq
    · rename_i hi
      exact hi (h.valid.tagLabel_unique _ _ _ _ hq hrow hlabel)
  · rw [Numbered.get?_erase]
    split
    · rename_i hi
      rw [hi, hrow]
      exact ⟨nofun, fun heq => absurd (congrArg TagRow.label (Option.some.inj heq)).symm hq⟩
    · exact .rfl

/-- The label goes from the images with the tag. -/
theorem Tidy.view_deleteTag (h : s.Tidy) (hu : s.catalog.tag? label = some u) :
    (s.deleteTag label).2.view = s.view.map fun _ v => (v.1, v.2.remove label) := by
  have h' := h.deleteTag hu
  obtain ⟨hrow, -⟩ := h.tag?_eq_some_iff.mp hu
  rw [h.deleteTag_eq hu] at h' ⊢
  refine Table.ext_get? fun i => ?_
  rw [h'.get?_view, Numbered.get?_mapRows, Table.get?_map, h.get?_view, Option.map_map,
    Option.map_map]
  refine congrArg (fun f => (s.images.get? i).map f) (funext fun r => ?_)
  refine congrArg (Prod.mk (r.toImage i)) (KeySet.ext_has fun l => ?_)
  rw [KeySet.has_ofList, KeySet.has_remove, KeySet.has_ofList, Bool.eq_iff_iff, Bool.and_eq_true,
    Bool.not_eq_true', decide_eq_false_iff_not, List.contains_iff_mem, List.contains_iff_mem,
    mem_labelsOf_iff, mem_labelsOf_iff]
  simp only [KeySet.has_remove, Bool.and_eq_true, Bool.not_eq_true', decide_eq_false_iff_not,
    Numbered.get?_erase]
  -- A row has the label if and only if it is the one that is deleted.
  constructor
  · rintro ⟨t, q, ⟨hne, ht⟩, hq, rfl⟩
    rw [if_neg hne] at hq
    exact ⟨fun heq => hne (h.valid.tagLabel_unique _ _ _ _ hq hrow heq), t, q, ht, hq, rfl⟩
  · rintro ⟨hne, t, q, ht, hq, rfl⟩
    have hid : t ≠ u.id := by
      rintro rfl
      cases hq.symm.trans hrow
      exact hne rfl
    exact ⟨t, q, ⟨hid, ht⟩, (if_neg hid).trans hq, rfl⟩

end

end Gallery.Store
