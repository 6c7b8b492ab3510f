import Gallery.Proofs.Library.Association
import Gallery.Proofs.Store.Loading

/-!
# `Gallery.Proofs.Store.Plain` — the labels of loaded images

A library gives images the labels of plain tags only.  Loading decides anew what an image keeps: it
leaves out tags without a valid label, and it takes from the images the labels of compound tags.  The
label of a tag that was left out is neither, so it stays on the images.

## Contents
- `Valid.tag?_of_row` and `tag?_of_invalid`, what the catalog says of the label of a row.
- `mem_links_iff`, the tags of the images row by row.
- `Valid.mem_plainLabels_iff`, which labels a loaded image has.
- `Valid.plain_iff`, when they are those of plain tags.
-/

namespace Gallery.Store

variable {s : Store} {fresh : Version} {m : Snapshot} {id : Int} {l : String} {q : TagRow}

/-! ## Labels of rows -/

theorem Valid.tag?_of_row (h : s.Valid) (hq : s.tags.get? id = some q)
    (hvalid : isValidLabel q.label = true) :
    s.catalog.tag? q.label
      = some ⟨id, q.label, q.typeId.filter s.catalog.types.contains, q.definition⟩ :=
  h.catalog_tag?_eq_some_iff.mpr ⟨q, hq, TagRow.toTag?_eq_some_iff.mpr ⟨hvalid, rfl⟩, rfl⟩

/-- A tag of the catalog comes from a row, whose label is valid. -/
theorem Valid.row_of_tag? (h : s.Valid) {t : Tag} (ht : s.catalog.tag? l = some t) :
    ∃ q, s.tags.get? t.id = some q ∧ q.label = l ∧ isValidLabel l = true
      ∧ t = ⟨t.id, l, q.typeId.filter s.catalog.types.contains, q.definition⟩ := by
  obtain ⟨q, hq, htag, hl⟩ := h.catalog_tag?_eq_some_iff.mp ht
  obtain ⟨hvalid, heq⟩ := TagRow.toTag?_eq_some_iff.mp htag
  have hlabel : q.label = l := (congrArg Tag.label heq).symm.trans hl
  exact ⟨q, hq, hlabel, hlabel ▸ hvalid, hlabel ▸ heq⟩

theorem Valid.labeled_catalog (h : s.Valid) : s.catalog.Labeled := by
  intro l t ht
  obtain ⟨q, -, -, hvalid, heq⟩ := h.row_of_tag? ht
  exact ⟨congrArg Tag.label heq, hvalid⟩

/-! ## Tags of images -/

theorem mem_links_iff {i : ImageId} {t : TagId} :
    (i, t) ∈ s.links ↔ ∃ r, s.images.get? i = some r ∧ r.tags.has t = true := by
  simp only [links, List.mem_flatMap, List.mem_map, Prod.exists, Prod.mk.injEq,
    Table.mem_entries_iff, KeySet.mem_toList]
  constructor
  · rintro ⟨j, r, hr, u, hu, rfl, rfl⟩
    exact ⟨r, hr, hu⟩
  · rintro ⟨r, hr, ht⟩
    exact ⟨i, r, hr, t, ht, rfl, rfl⟩

/-! ## Labels of images -/

theorem mem_labelsOf_iff {r : ImageRow} :
    l ∈ s.labelsOf r ↔ ∃ t q, r.tags.has t = true ∧ s.tags.get? t = some q ∧ q.label = l := by
  simp only [labelsOf, List.mem_filterMap, KeySet.mem_toList, Option.map_eq_some_iff]
  exact ⟨fun ⟨t, ht, q, hq⟩ => ⟨t, q, ht, hq⟩, fun ⟨t, q, ht, hq⟩ => ⟨t, ht, q, hq⟩⟩

/-- An image keeps the labels of its tags, unless the tag is known to be compound. -/
theorem Valid.mem_plainLabels_iff (h : s.Valid) {r : ImageRow} :
    l ∈ s.plainLabels s.catalog r ↔ ∃ t q, r.tags.has t = true ∧ s.tags.get? t = some q
      ∧ q.label = l ∧ (isValidLabel l = true → q.definition = none) := by
  rw [plainLabels, List.mem_filter, mem_labelsOf_iff, Bool.not_eq_true']
  have hcompound : ∀ {t q}, s.tags.get? t = some q → q.label = l →
      (((s.catalog.tag? l).any Tag.isCompound) = false ↔
        (isValidLabel l = true → q.definition = none)) := by
    rintro t q hq rfl
    by_cases hvalid : isValidLabel q.label = true
    · rw [h.tag?_of_row hq hvalid]
      simp [Tag.isCompound, hvalid]
    · cases hc : s.catalog.tag? q.label with
      | none => simp [hvalid]
      | some u => exact absurd (h.labeled_catalog _ u hc).2 hvalid
  constructor
  · rintro ⟨⟨t, q, ht, hq, hl⟩, hplain⟩
    exact ⟨t, q, ht, hq, hl, (hcompound hq hl).mp hplain⟩
  · rintro ⟨t, q, ht, hq, hl, hplain⟩
    exact ⟨⟨t, q, ht, hq, hl⟩, (hcompound hq hl).mpr hplain⟩

/-- Which labels an image of a loaded snapshot has. -/
theorem Loads.has_iff (hm : s.Loads m) {id : ImageId} :
    (m.index.labelsOf id).has l = true ↔
      ∃ r, s.images.get? id = some r ∧ l ∈ s.plainLabels s.catalog r := by
  have hview := congrArg (·.get? id) hm.view
  simp only [Index.get?_view, get?_view] at hview
  cases hr : s.images.get? id with
  | none =>
    rw [hr, Option.map_none, Option.map_eq_none_iff] at hview
    simp [hm.coherent.labelsOf_of_none hview]
  | some r =>
    rw [hr, Option.map_some, Option.map_eq_some_iff] at hview
    obtain ⟨image, -, hpair⟩ := hview
    rw [(Prod.mk.inj hpair).2, KeySet.has_ofList, List.contains_iff_mem]
    simp only [Option.some.injEq, exists_eq_left']

/-- **When loaded images have labels of plain tags only**: if no image has a tag that was left out. -/
theorem Valid.plain_iff (h : s.Valid) (hm : s.load fresh = .ok m) :
    (∀ id l, (m.index.labelsOf id).has l = true →
        ∃ t, m.catalog.tag? l = some t ∧ t.definition = none)
      ↔ ∀ i r t q, s.images.get? i = some r → r.tags.has t = true → s.tags.get? t = some q →
          isValidLabel q.label = true := by
  have hloads := h.loads hm
  have htag : ∀ l, m.catalog.tag? l = s.catalog.tag? l := fun l =>
    congrArg (·.get? l) hloads.tags
  constructor
  · intro hplain i r t q hr ht hq
    -- If the label was not valid, it would be on the image without a tag.
    refine Classical.byContradiction fun hvalid => ?_
    have hmem : q.label ∈ s.plainLabels s.catalog r :=
      h.mem_plainLabels_iff.mpr ⟨t, q, ht, hq, rfl, fun hv => absurd hv hvalid⟩
    obtain ⟨u, hu, -⟩ := hplain i q.label (hloads.has_iff.mpr ⟨r, hr, hmem⟩)
    exact hvalid (h.labeled_catalog _ u (htag _ ▸ hu)).2
  · intro hlegal id l hl
    obtain ⟨r, hr, hmem⟩ := hloads.has_iff.mp hl
    obtain ⟨t, q, ht, hq, rfl, hplain⟩ := h.mem_plainLabels_iff.mp hmem
    have hvalid := hlegal id r t q hr ht hq
    exact ⟨_, (htag _).trans (h.tag?_of_row hq hvalid), hplain hvalid⟩

/-- A store with one image that has one tag. -/
def ofTagged (label : String) : Store where
  images := (∅ : Numbered ImageRow).append ⟨"a.jpg", none, .ofList [1]⟩
  tags := (∅ : Numbered TagRow).append ⟨label, none, none⟩

theorem valid_ofTagged (label : String) : (ofTagged label).Valid := by
  let tagOnly : Store := { ofTagged label with images := ∅ }
  let apart : Store :=
    { ofTagged label with images := (∅ : Numbered ImageRow).append ⟨"a.jpg", none, ∅⟩ }
  have htag : (∅ : Store).addTag label none none = .ok (1, tagOnly) := rfl
  have himage : tagOnly.addImage "a.jpg" none = .ok (1, apart) := rfl
  have hapart : apart.Valid := (valid_empty.addTag htag).addImage himage
  have hfind : apart.tagId? label = some 1 :=
    hapart.tagId?_eq_some_iff.mpr ⟨⟨label, none, none⟩, rfl, rfl⟩
  have hset : apart.setImageTags 1 [label] = .ok (ofTagged label) := by
    rw [setImageTags_eq_ok rfl, List.filterMap_cons_some hfind]
    rfl
  exact hapart.setImageTags rfl hset

theorem plain_iff_ofTagged : ∃ m, (ofTagged "red").load 1 = .ok m
    ∧ ∀ id l, (m.index.labelsOf id).has l = true →
      ∃ t, m.catalog.tag? l = some t ∧ t.definition = none := by
  obtain ⟨m, hm⟩ := ((valid_ofTagged "red").load_ok_iff 1).mpr fun _ _ _ _ _ _ h => nomatch h
  refine ⟨m, hm, ((valid_ofTagged "red").plain_iff hm).mpr fun i r t q hr ht hq => ?_⟩
  -- The store has one tag, and its label is valid.
  have hrow : (ofTagged "red").tags.get? t = if t = 1 then some ⟨"red", none, none⟩ else none :=
    Numbered.get?_append ..
  rw [hrow] at hq
  split at hq
  · cases hq
    decide +kernel
  · cases hq

/-- The rules of a store let an image have a tag with a label that is not valid, and then the image is
loaded with the label, which no tag has. -/
theorem not_plain_of_valid : ¬∀ (s : Store) (m : Snapshot), s.Valid → s.load 1 = .ok m →
    ∀ id l, (m.index.labelsOf id).has l = true →
      ∃ t, m.catalog.tag? l = some t ∧ t.definition = none := by
  intro hall
  have hlabel : ((ofTagged "no label").load 1).toOption.any
      (fun m => (m.index.labelsOf 1).has "no label" && (m.catalog.tag? "no label").isNone) = true := by
    decide +kernel
  cases hload : (ofTagged "no label").load 1 with
  | error e =>
    rw [hload] at hlabel
    cases hlabel
  | ok m =>
    rw [hload] at hlabel
    obtain ⟨hhas, hnone⟩ := Bool.and_eq_true_iff.mp hlabel
    obtain ⟨t, ht, -⟩ := hall _ m (valid_ofTagged "no label") hload 1 "no label" hhas
    rw [ht] at hnone
    cases hnone

end Gallery.Store
