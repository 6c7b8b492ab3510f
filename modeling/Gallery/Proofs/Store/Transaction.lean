import Gallery.Proofs.Store.Plain
import Gallery.Store.Transaction
import Mathlib.Data.List.Nodup

/-!
# `Gallery.Proofs.Store.Transaction` — tags are given to an image as a whole or not at all

The transaction that replaces the tags of an image may fail at any of its statements, when those before
it have been done already.  Then it is dropped and the tables are as they were.  `Store.setImageTags`
does in one step what this comes to.

## Contents
- `Tables.Same`, tables with the same rows.
- `linkAll_ok` and `linkAll_error`, one statement that adds rows; `Replaces`, what the statements so far
  have made of the tables, with one lemma for a statement and one for all (`run_linkLabels_ok`).
- The result: when the transaction fails, and what the tables are after it.
-/

namespace Gallery

/-! ## Adding rows -/

/-- The same rows; the order of `links` does not matter. -/
structure Tables.Same (t u : Tables) : Prop where
  images : t.images = u.images
  types : t.types = u.types
  tags : t.tags = u.tags
  links : t.links.Perm u.links

namespace Tables

variable {t u v : Tables} {id : ImageId} {tags : List TagId} {label : String} {labels : List String}

theorem mem_select {tag : TagId} :
    tag ∈ t.select label ↔ ∃ r, t.tags.get? tag = some r ∧ r.label = label := by
  simp only [select, List.mem_map, List.mem_filter, Prod.exists, Table.mem_entries_iff, beq_iff_eq]
  constructor
  · rintro ⟨i, r, ⟨hr, hlabel⟩, rfl⟩
    exact ⟨r, hr, hlabel⟩
  · rintro ⟨r, hr, hlabel⟩
    exact ⟨tag, r, ⟨hr, hlabel⟩, rfl⟩

/-- All tables but `links` are the same. -/
structure Beside (t u : Tables) : Prop where
  images : u.images = t.images
  types : u.types = t.types
  tags : u.tags = t.tags

theorem Beside.refl (t : Tables) : t.Beside t := ⟨rfl, rfl, rfl⟩

theorem Beside.trans (h : t.Beside u) (h' : u.Beside v) : t.Beside v :=
  ⟨h'.images.trans h.images, h'.types.trans h.types, h'.tags.trans h.tags⟩

/-- A row of an image and a tag that exist can be added, and is there once. -/
theorem link_ok (row : ImageId × TagId) (hid : t.images.contains row.1 = true)
    (htag : t.tags.contains row.2 = true) :
    ∃ u, t.link row = .ok u ∧ t.Beside u ∧ (∀ r, r ∈ u.links ↔ r ∈ t.links ∨ r = row)
      ∧ (t.links.Nodup → u.links.Nodup) := by
  unfold link
  by_cases hrow : row ∈ t.links
  · rw [if_pos hrow]
    refine ⟨t, rfl, .refl t, fun r => ?_, fun h => h⟩
    exact (or_iff_left_of_imp fun hr => hr ▸ hrow).symm
  · rw [if_neg hrow, hid, htag]
    refine ⟨_, rfl, ⟨rfl, rfl, rfl⟩, fun r => ?_, fun h => ?_⟩
    · rw [List.mem_append, List.mem_singleton]
    · exact List.nodup_append.mpr ⟨h, List.nodup_singleton row, fun r hr q hq heq =>
        hrow (List.mem_singleton.mp hq ▸ heq ▸ hr)⟩

/-- Rows of an image that exists can be added. -/
theorem linkAll_ok (hid : t.images.contains id = true)
    (htags : ∀ tag ∈ tags, t.tags.contains tag = true) :
    ∃ u, t.linkAll id tags = .ok u ∧ t.Beside u
      ∧ (∀ r, r ∈ u.links ↔ r ∈ t.links ∨ r.1 = id ∧ r.2 ∈ tags)
      ∧ (t.links.Nodup → u.links.Nodup) := by
  induction tags generalizing t with
  | nil => exact ⟨t, rfl, .refl t, fun r => by simp, fun h => h⟩
  | cons tag tags ih =>
    obtain ⟨htag, htags⟩ := List.forall_mem_cons.mp htags
    obtain ⟨u, hu, hbeside, hlinks, hnodup⟩ := link_ok (id, tag) hid htag
    obtain ⟨v, hv, hbeside', hlinks', hnodup'⟩ := ih (t := u) (hbeside.images ▸ hid)
      (hbeside.tags ▸ htags)
    refine ⟨v, ?_, hbeside.trans hbeside', fun r => ?_, fun h => hnodup' (hnodup h)⟩
    · rw [linkAll, List.foldlM_cons, hu]
      exact hv
    · rw [hlinks', hlinks, List.mem_cons, or_assoc, Prod.ext_iff, and_or_left]

/-- No row can be added for an image that does not exist. -/
theorem linkAll_error (hid : t.images.contains id = false) (hlinks : ∀ tag, (id, tag) ∉ t.links)
    (htags : tags ≠ []) : t.linkAll id tags = .error .missingRow := by
  cases tags with
  | nil => exact absurd rfl htags
  | cons tag tags =>
    have hlink : t.link (id, tag) = .error .missingRow := by
      rw [link, if_neg (hlinks tag), hid]
      rfl
    rw [linkAll, List.foldlM_cons, hlink]
    rfl

/-! ## All statements -/

/-- `u` is what the tables `t` become when the rows of an image are replaced by those of the tags with
one of the labels. -/
structure Replaces (t : Tables) (id : ImageId) (labels : List String) (u : Tables) : Prop where
  beside : t.Beside u
  /-- The rows of other images stay. -/
  other : ∀ i tag, i ≠ id → ((i, tag) ∈ u.links ↔ (i, tag) ∈ t.links)
  own : ∀ tag, (id, tag) ∈ u.links ↔ ∃ r, t.tags.get? tag = some r ∧ r.label ∈ labels
  nodup : t.links.Nodup → u.links.Nodup

/-- What the tables become is determined. -/
theorem Replaces.same (hu : t.Replaces id labels u) (hv : t.Replaces id labels v)
    (ht : t.links.Nodup) : u.Same v where
  images := hu.beside.images.trans hv.beside.images.symm
  types := hu.beside.types.trans hv.beside.types.symm
  tags := hu.beside.tags.trans hv.beside.tags.symm
  links := by
    refine (List.perm_ext_iff_of_nodup (hu.nodup ht) (hv.nodup ht)).mpr fun ⟨i, tag⟩ => ?_
    by_cases hi : i = id
    · rw [hi, hu.own, hv.own]
    · rw [hu.other i tag hi, hv.other i tag hi]

theorem replaces_unlink (t : Tables) (id : ImageId) :
    t.Replaces id [] { t with links := t.links.filter (·.1 ≠ id) } where
  beside := ⟨rfl, rfl, rfl⟩
  other := fun i tag hi => by simp [hi]
  own := fun tag => by simp
  nodup := fun h => h.filter _

/-- One more label. -/
theorem Replaces.linkLabel (h : t.Replaces id labels u) (hid : t.images.contains id = true)
    (label : String) :
    ∃ v, u.execute (.linkLabel id label) = .ok v ∧ t.Replaces id (labels ++ [label]) v := by
  have htags : ∀ tag ∈ u.select label, u.tags.contains tag = true := by
    intro tag htag
    obtain ⟨r, hr, -⟩ := mem_select.mp htag
    exact Numbered.contains_iff.mpr ⟨r, hr⟩
  obtain ⟨v, hv, hbeside, hlinks, hnodup⟩ := linkAll_ok (h.beside.images ▸ hid) htags
  refine ⟨v, hv, h.beside.trans hbeside, fun i tag hi => ?_, fun tag => ?_, fun ht =>
    hnodup (h.nodup ht)⟩
  · rw [hlinks, ← h.other i tag hi]
    exact or_iff_left fun hrow => hi hrow.1
  · rw [hlinks, h.own, mem_select, h.beside.tags]
    simp only [true_and, List.mem_append, List.mem_singleton]
    constructor
    · rintro (⟨r, hr, hl⟩ | ⟨r, hr, hl⟩)
      · exact ⟨r, hr, .inl hl⟩
      · exact ⟨r, hr, .inr hl⟩
    · rintro ⟨r, hr, hl | hl⟩
      · exact .inl ⟨r, hr, hl⟩
      · exact .inr ⟨r, hr, hl⟩

/-- A label that no tag has changes nothing. -/
theorem Replaces.linkLabel_of_unknown (h : t.Replaces id labels u) (hnone : t.select label = []) :
    u.execute (.linkLabel id label) = .ok u ∧ t.Replaces id (labels ++ [label]) u := by
  have hselect : u.select label = [] := by
    rw [← hnone, select, select, h.beside.tags]
  refine ⟨?_, h.beside, h.other, fun tag => ?_, h.nodup⟩
  · rw [execute, hselect]
    rfl
  · rw [h.own]
    refine exists_congr fun r => and_congr_right fun hr => ?_
    rw [List.mem_append, List.mem_singleton]
    refine (or_iff_left fun hlabel => ?_).symm
    have hmem : tag ∈ t.select label := mem_select.mpr ⟨r, hr, hlabel⟩
    rw [hnone] at hmem
    cases hmem

/-- The statements that add rows succeed if the image exists, and if no label has a tag. -/
theorem run_linkLabels_ok {done : List String} (h : t.Replaces id done u)
    (hlegal : t.images.contains id = true ∨ ∀ l ∈ labels, t.select l = []) :
    ∃ v, Connection.run ⟨t, u⟩ (labels.map (.linkLabel id)) = (.ok (), ⟨v, v⟩)
      ∧ t.Replaces id (done ++ labels) v := by
  induction labels generalizing done u with
  | nil => exact ⟨u, rfl, (List.append_nil done).symm ▸ h⟩
  | cons label labels ih =>
    have hstep : ∃ v, u.execute (.linkLabel id label) = .ok v
        ∧ t.Replaces id (done ++ [label]) v := by
      rcases hlegal with hid | hnone
      · exact h.linkLabel hid label
      · exact ⟨u, h.linkLabel_of_unknown (hnone label List.mem_cons_self)⟩
    obtain ⟨v, hv, hreplaces⟩ := hstep
    obtain ⟨w, hw, hall⟩ := ih hreplaces
      (hlegal.imp_right fun hnone l hl => hnone l (List.mem_cons_of_mem _ hl))
    refine ⟨w, ?_, ?_⟩
    · rw [List.map_cons, Connection.run, hv]
      exact hw
    · rwa [List.append_assoc, List.singleton_append] at hall

/-- They fail at the first label with a tag if the image does not exist. -/
theorem run_linkLabels_error {done : List String} (h : t.Replaces id done u)
    (hid : t.images.contains id = false) (hlinks : ∀ tag, (id, tag) ∉ u.links)
    (hsome : ∃ l ∈ labels, t.select l ≠ []) :
    Connection.run ⟨t, u⟩ (labels.map (.linkLabel id)) = (.error .missingRow, ⟨t, t⟩) := by
  induction labels generalizing done with
  | nil =>
    obtain ⟨l, hl, -⟩ := hsome
    cases hl
  | cons label labels ih =>
    rw [List.map_cons, Connection.run]
    by_cases hlabel : t.select label = []
    · obtain ⟨hu, hreplaces⟩ := h.linkLabel_of_unknown hlabel
      rw [hu]
      refine ih hreplaces ?_
      obtain ⟨l, hl, hne⟩ := hsome
      rcases List.mem_cons.mp hl with rfl | hl
      · exact absurd hlabel hne
      · exact ⟨l, hl, hne⟩
    · have hselect : u.select label ≠ [] := by
        rwa [select, h.beside.tags]
      have herror : u.execute (.linkLabel id label) = .error .missingRow :=
        linkAll_error (h.beside.images ▸ hid) hlinks hselect
      rw [herror]

end Tables

/-! ## Stores -/

namespace Store

open Tables

variable {s s' : Store} {id : ImageId} {labels : List String}

theorem contains_tables_images (s : Store) (id : ImageId) :
    s.tables.images.contains id = s.images.contains id := by
  show ((s.images.rows.map _).get? id).isSome = (s.images.rows.get? id).isSome
  rw [Table.get?_map, Option.isSome_map]

/-- No row is there twice. -/
theorem nodup_links (s : Store) : s.links.Nodup := by
  refine List.nodup_flatMap.mpr ⟨fun e _ => ?_, ?_⟩
  · exact (e.2.tags.keys_nodup).map fun _ _ h => (Prod.mk.inj h).2
  · refine s.images.rows.sorted.imp fun {e e'} hlt row hrow hrow' => ?_
    obtain ⟨_, -, rfl⟩ := List.mem_map.mp hrow
    obtain ⟨_, -, heq⟩ := List.mem_map.mp hrow'
    rw [(Prod.mk.inj heq).1] at hlt
    exact absurd (Int.compare_eq_lt.mp hlt) (Int.lt_irrefl _)

/-- The tags of the labels that are stored. -/
theorem Valid.mem_filterMap_tagId? (h : s.Valid) {tag : TagId} :
    tag ∈ labels.filterMap s.tagId? ↔ ∃ r, s.tags.get? tag = some r ∧ r.label ∈ labels := by
  simp only [List.mem_filterMap, h.tagId?_eq_some_iff]
  constructor
  · rintro ⟨l, hl, r, hr, rfl⟩
    exact ⟨r, hr, hl⟩
  · rintro ⟨r, hr, hl⟩
    exact ⟨r.label, hl, r, hr, rfl⟩

/-- In one step the tables become what the statements make of them. -/
theorem Valid.replaces_setImageTags (h : s.Valid)
    (hs' : s' = { s with images := s.images.modify id fun r =>
      { r with tags := KeySet.ofList (labels.filterMap s.tagId?) } })
    (hlegal : s.images.contains id = true ∨ labels.filterMap s.tagId? = []) :
    s.tables.Replaces id labels s'.tables := by
  subst hs'
  refine ⟨⟨?_, rfl, rfl⟩, fun i tag hi => ?_, fun tag => ?_, fun _ => nodup_links _⟩
  · refine congrArg (Numbered.mk · s.images.last) (Table.ext_get? fun i => ?_)
    rw [Table.get?_map, Table.get?_map, Numbered.modify, Table.get?_modify]
    split
    · rw [Option.map_map]
      rfl
    · rfl
  · show (i, tag) ∈ links _ ↔ (i, tag) ∈ s.links
    rw [mem_links_iff, mem_links_iff, Numbered.get?_modify, if_neg hi]
  · show (id, tag) ∈ links _ ↔ _
    rw [mem_links_iff, Numbered.get?_modify, if_pos rfl]
    refine Iff.trans ?_ h.mem_filterMap_tagId?
    constructor
    · rintro ⟨r, hr, htag⟩
      obtain ⟨q, -, rfl⟩ := Option.map_eq_some_iff.mp hr
      rwa [KeySet.has_ofList, List.contains_iff_mem] at htag
    · intro htag
      rcases hlegal with hid | hnone
      · obtain ⟨r, hr⟩ := Numbered.contains_iff.mp hid
        refine ⟨_, by rw [hr, Option.map_some], ?_⟩
        rwa [KeySet.has_ofList, List.contains_iff_mem]
      · rw [hnone] at htag
        cases htag

/-- Labels without a tag select nothing. -/
theorem select_eq_nil_iff {l : String} : s.tables.select l = [] ↔ s.tagId? l = none := by
  rw [List.eq_nil_iff_forall_not_mem, tagId?_eq_none_iff]
  simp only [mem_select, not_exists, not_and]
  rfl

/-- The transaction goes on from the tables without the rows of the image. -/
theorem replaceTags_of_run {answer : Except StoreError Unit} {u : Tables}
    (h : Connection.run ⟨s.tables, { s.tables with links := s.tables.links.filter (·.1 ≠ id) }⟩
      (labels.map (.linkLabel id)) = (answer, ⟨u, u⟩)) :
    s.replaceTags id labels = (answer, u) := by
  rw [replaceTags, Connection.run]
  dsimp only [execute]
  rw [h]

/-- The outcome if the image exists or no label has a tag. -/
theorem Valid.replaceTags_ok (h : s.Valid)
    (hlegal : s.images.contains id = true ∨ ∀ l ∈ labels, s.tagId? l = none) :
    ∃ u s', s.replaceTags id labels = (.ok (), u) ∧ s.tables.Replaces id labels u
      ∧ s.setImageTags id labels = .ok s' ∧ u.Same s'.tables := by
  have hselect : s.tables.images.contains id = true ∨ ∀ l ∈ labels, s.tables.select l = [] :=
    hlegal.imp (s.contains_tables_images id).trans fun hnone l hl =>
      select_eq_nil_iff.mpr (hnone l hl)
  obtain ⟨u, hu, hreplaces⟩ := run_linkLabels_ok (replaces_unlink s.tables id) hselect
  have hnone : s.images.contains id = true ∨ labels.filterMap s.tagId? = [] :=
    hlegal.imp_right List.filterMap_eq_nil_iff.mpr
  have hset : s.setImageTags id labels = .ok { s with images := s.images.modify id fun r =>
      { r with tags := KeySet.ofList (labels.filterMap s.tagId?) } } := by
    rcases hnone with hid | hnone
    · exact setImageTags_eq_ok hid labels
    · rw [Store.setImageTags, hnone]
      rfl
  exact ⟨u, _, replaceTags_of_run hu, hreplaces, hset,
    hreplaces.same (h.replaces_setImageTags rfl hnone) s.nodup_links⟩

/-- The outcome if the image does not exist and some label has a tag. -/
theorem replaceTags_error (hid : s.images.contains id = false)
    (hsome : ∃ l ∈ labels, s.tagId? l ≠ none) :
    s.replaceTags id labels = (.error .missingRow, s.tables)
      ∧ s.setImageTags id labels = .error .missingRow := by
  constructor
  · refine replaceTags_of_run (run_linkLabels_error (replaces_unlink s.tables id)
      ((s.contains_tables_images id).trans hid) (fun tag => by simp) ?_)
    obtain ⟨l, hl, htag⟩ := hsome
    exact ⟨l, hl, fun hselect => htag (select_eq_nil_iff.mp hselect)⟩
  · unfold setImageTags
    cases htags : labels.filterMap s.tagId? with
    | nil =>
      obtain ⟨l, hl, htag⟩ := hsome
      exact absurd (List.filterMap_eq_nil_iff.mp htags l hl) htag
    | cons tag tags => simp [hid]

/-- **Tags are given to an image as a whole or not at all.**  The transaction fails if and only if the
image does not exist and some label has a tag.  If it fails, all tables are as before.  Otherwise the
rows of the image are those of the tags with one of the labels, each once, and all other rows are as
before.  `setImageTags` comes to the same. -/
theorem Valid.replaceTags_outcome (h : s.Valid) (id : ImageId) (labels : List String) :
    ((∃ e, (s.replaceTags id labels).1 = .error e)
        ↔ s.images.contains id = false
          ∧ ∃ l ∈ labels, ∃ tag r, s.tags.get? tag = some r ∧ r.label = l)
      ∧ (∀ e, (s.replaceTags id labels).1 = .error e →
          (s.replaceTags id labels).2 = s.tables ∧ s.setImageTags id labels = .error e)
      ∧ ((s.replaceTags id labels).1 = .ok () →
          s.tables.Replaces id labels (s.replaceTags id labels).2
            ∧ ∃ s', s.setImageTags id labels = .ok s'
              ∧ (s.replaceTags id labels).2.Same s'.tables) := by
  have hstored : ∀ l, (∃ tag r, s.tags.get? tag = some r ∧ r.label = l) ↔ s.tagId? l ≠ none := by
    intro l
    rw [Option.ne_none_iff_exists']
    exact exists_congr fun tag => h.tagId?_eq_some_iff.symm
  simp only [hstored]
  by_cases hfails : s.images.contains id = false ∧ ∃ l ∈ labels, s.tagId? l ≠ none
  · obtain ⟨hreplace, hset⟩ := replaceTags_error hfails.1 hfails.2
    rw [hreplace]
    refine ⟨⟨fun _ => hfails, fun _ => ⟨_, rfl⟩⟩, fun e he => ?_, fun hok => nomatch hok⟩
    cases he
    exact ⟨rfl, hset⟩
  · have hlegal : s.images.contains id = true ∨ ∀ l ∈ labels, s.tagId? l = none := by
      refine (Bool.eq_false_or_eq_true _).imp_right fun hid l hl => ?_
      exact Decidable.not_not.mp fun htag => hfails ⟨hid, l, hl, htag⟩
    obtain ⟨u, s', hreplace, hreplaces, hset, hsame⟩ := h.replaceTags_ok hlegal
    rw [hreplace]
    exact ⟨⟨fun ⟨_, he⟩ => (nomatch he), fun hf => absurd hf hfails⟩, fun _ he => (nomatch he),
      fun _ => ⟨hreplaces, s', hset, hsame⟩⟩

/-- A missing image is given a label without a tag and one with: the second one fails, and the rows of
the image that exists stay. -/
theorem replaceTags_outcome_missing :
    (ofTagged "red").Valid
      ∧ (∃ e, ((ofTagged "red").replaceTags 7 ["blue", "red"]).1 = .error e)
      ∧ ((ofTagged "red").replaceTags 7 ["blue", "red"]).2 = (ofTagged "red").tables
      ∧ (ofTagged "red").tables.links = [(1, 1)] := by
  have hvalid := valid_ofTagged "red"
  obtain ⟨hfails, hleft, -⟩ := hvalid.replaceTags_outcome 7 ["blue", "red"]
  obtain ⟨e, he⟩ := hfails.mpr ⟨rfl, "red", by decide, 1, ⟨"red", none, none⟩, rfl, rfl⟩
  exact ⟨hvalid, ⟨e, he⟩, (hleft e he).1, rfl⟩

end Store

end Gallery
