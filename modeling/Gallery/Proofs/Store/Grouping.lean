import Gallery.Proofs.Store.Plain

/-!
# `Gallery.Proofs.Store.Grouping` — labels that are gathered in any order

The tags of images are listed one by one.  Their labels can be gathered into groups, one for each image
that has any, and the groups visited in any order: an image gets its labels from one group, and the
labels of the others are not touched.  So neither the order of the list nor that of the groups can be
seen in what is loaded.

## Contents
- `mem_foldl_gather` and `groups_gathered`, what the groups hold.
- `Groups.perm` and `Groups.groupTable_eq`, groups in another order; the result: `Valid.loadBy_eq`.
-/

namespace Gallery.Store

variable {s : Store} {c : Catalog} {id : ImageId} {l : String} {rows : List (ImageId × String)}
  {groups groups' : List (ImageId × List String)}

/-! ## What groups hold -/

theorem mem_associations_iff :
    (id, l) ∈ s.associations ↔ ∃ r, s.images.get? id = some r ∧ l ∈ s.labelsOf r := by
  simp only [associations, List.mem_filterMap, Prod.exists, mem_links_iff, Option.map_eq_some_iff,
    Prod.mk.injEq, mem_labelsOf_iff]
  constructor
  · rintro ⟨i, t, ⟨r, hr, ht⟩, q, hq, rfl, rfl⟩
    exact ⟨r, hr, t, q, ht, hq, rfl⟩
  · rintro ⟨r, hr, t, q, ht, hq, rfl⟩
    exact ⟨id, t, ⟨r, hr, ht⟩, q, hq, rfl, rfl⟩

theorem mem_gather {t : Table ImageId (List String)} {row : ImageId × String} :
    l ∈ ((gather t row).get? id).getD [] ↔ l ∈ (t.get? id).getD [] ∨ (id, l) = row := by
  rw [gather, Table.get?_insert]
  by_cases hid : id = row.1
  · rw [if_pos hid, Option.getD_some, List.mem_append, List.mem_singleton, hid, Prod.ext_iff]
    simp only [true_and]
  · rw [if_neg hid, Prod.ext_iff]
    simp only [hid, false_and, or_false]

/-- A group holds the labels of its image. -/
theorem mem_foldl_gather (t : Table ImageId (List String)) (rows : List (ImageId × String)) :
    l ∈ ((rows.foldl gather t).get? id).getD [] ↔ l ∈ (t.get? id).getD [] ∨ (id, l) ∈ rows := by
  induction rows generalizing t with
  | nil => simp only [List.foldl_nil, List.not_mem_nil, or_false]
  | cons row rows ih => rw [List.foldl_cons, ih, mem_gather, List.mem_cons, or_assoc]

/-- No group is empty. -/
theorem ne_nil_of_foldl_gather {t : Table ImageId (List String)} (rows : List (ImageId × String))
    (ht : ∀ id ls, t.get? id = some ls → ls ≠ []) :
    ∀ id ls, (rows.foldl gather t).get? id = some ls → ls ≠ [] := by
  induction rows generalizing t with
  | nil => exact ht
  | cons row rows ih =>
    refine ih fun id ls hls => ?_
    rw [gather, Table.get?_insert] at hls
    split at hls
    · cases hls
      exact List.append_ne_nil_of_right_ne_nil _ (List.cons_ne_nil _ _)
    · exact ht id ls hls

/-- The groups of the associations, in whatever order they are listed. -/
theorem groups_gathered (hrows : rows.Perm s.associations) :
    s.Groups c (gathered c rows).entries := by
  have hmem : ∀ id l, l ∈ ((gathered c rows).get? id).getD [] ↔
      ∃ r, s.images.get? id = some r ∧ l ∈ s.plainLabels c r := by
    intro id l
    rw [gathered, mem_foldl_gather, List.mem_filter, hrows.mem_iff, mem_associations_iff]
    simp only [Table.get?_emptyCollection, Option.getD_none, List.not_mem_nil, false_or, plainLabels,
      List.mem_filter]
    constructor
    · rintro ⟨⟨r, hr, hl⟩, hplain⟩
      exact ⟨r, hr, hl, hplain⟩
    · rintro ⟨r, hr, hl, hplain⟩
      exact ⟨⟨r, hr, hl⟩, hplain⟩
  refine ⟨(gathered c rows).keys_nodup, fun g hg => ?_, fun g hg l => ?_, fun id r l hr hl => ?_⟩
  · have hnone : ∀ id ls, (∅ : Table ImageId (List String)).get? id = some ls → ls ≠ [] := by
      intro id ls hls
      cases hls
    exact ne_nil_of_foldl_gather _ hnone g.1 g.2 (Table.mem_entries_iff.mp hg)
  · rw [← hmem, Table.mem_entries_iff.mp hg, Option.getD_some]
  · have hgroup := (hmem id l).mpr ⟨r, hr, hl⟩
    cases hls : (gathered c rows).get? id with
    | none =>
      rw [hls] at hgroup
      cases hgroup
    | some ls => exact ⟨(id, ls), Table.mem_entries_iff.mpr hls, rfl⟩

/-! ## Groups in any order -/

theorem Groups.perm (h : s.Groups c groups) (hp : groups'.Perm groups) : s.Groups c groups' where
  nodup := (hp.map _).nodup_iff.mpr h.nodup
  nonempty := fun g hg => h.nonempty g (hp.mem_iff.mp hg)
  mem_iff := fun g hg => h.mem_iff g (hp.mem_iff.mp hg)
  covered := fun id r l hr hl => by
    obtain ⟨g, hg, hid⟩ := h.covered id r l hr hl
    exact ⟨g, hp.mem_iff.mpr hg, hid⟩

/-- Groups of the same store give the same. -/
theorem Groups.groupTable_eq (h : s.Groups c groups) (h' : s.Groups c groups') :
    groupTable groups = groupTable groups' := by
  refine Table.ext_get? fun id => Option.ext fun ls => ?_
  rw [h.get?_groupTable_iff, h'.get?_groupTable_iff]

/-- **The order in which labels are gathered and given cannot be seen** in what is loaded. -/
theorem Valid.loadBy_eq (h : s.Valid) (hrows : rows.Perm s.associations)
    {order : List (ImageId × List String) → List (ImageId × List String)}
    (horder : ∀ groups, (order groups).Perm groups) (fresh : Version) :
    s.loadBy rows order fresh = s.load fresh := by
  obtain ⟨x, hx, hcoherent, himages, hlabels⟩ := h.loadImages_ok
  unfold loadBy load
  refine bind_congr fun c₀ => bind_congr fun c => ?_
  have hgathered := (groups_gathered (c := c) hrows).perm (horder _)
  have hrows' := groups_rows s c
  obtain ⟨y, hy, hyc, hyi, hyl⟩ := hgathered.exists_foldlM hcoherent himages hlabels
  obtain ⟨z, hz, hzc, hzi, hzl⟩ := hrows'.exists_foldlM hcoherent himages hlabels
  rw [bind_of_ok hx, bind_of_ok hx, foldlM_loadLabels, bind_of_ok hy, bind_of_ok hz]
  have htable : y.labels = z.labels := by rw [hyl, hzl, hgathered.groupTable_eq hrows']
  rw [hyc.eq_of_tables hzc (hyi.trans hzi.symm) htable]

end Gallery.Store
