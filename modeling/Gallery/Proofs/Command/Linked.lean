import Gallery.Proofs.Command.Runs
import Gallery.Proofs.Fingerprint
import Gallery.Proofs.Library.Outcomes
import Gallery.Proofs.Library.Redefinition
import Gallery.Proofs.Library.Renaming
import Gallery.Proofs.Store.Tidy

/-!
# `Gallery.Proofs.Command.Linked` — a library and a store that are changed side by side

A command changes the library first and then does the same to the store.  While it runs, the catalogs
of the two are the same up to the numbers of tags that the command has created; at its end the images
are too.  The store keeps to rules that no command breaks, also if it fails.

## Contents
- `Store.Kept`, what all commands keep of a store.
- `Begun`, how a session begins; `exists_begun`.
- `Linked`, catalogs that are the same, and `Mirrors`, snapshots that are; `Mirrors.exists_load`, what
  is loaded from the store of such a session.
- `Linked.redraw`, for changes of images, and one lemma for each change of the catalog, with another
  that says that the store does not refuse it.
-/

namespace Gallery

open Query

theorem Catalog.meaning_of_tag? {c d : Catalog} {l : String} (h : d.tag? l = c.tag? l) :
    d.meaning l = c.meaning l :=
  meaning_congr (congrArg (Option.map (·.definition)) h)

theorem Associated.of_apply {lib lib' : Library} (h : Associated lib.snapshot)
    (change : LibraryChange) (hlib : (lib.apply change).2 = lib') : Associated lib'.snapshot :=
  hlib ▸ h.changes (lib.changes_apply change)

/-! ## Stores -/

namespace Store

/-- What all commands keep of a store: every row stands for something, and every label can be
resolved. -/
structure Kept (s : Store) : Prop where
  tidy : s.Tidy
  resolvable : ∀ l, Resolvable s.catalog l

variable {s s' : Store} {label : String}

theorem kept_empty : (∅ : Store).Kept :=
  ⟨tidy_empty, fun _ => .leaf fun _ h => nomatch h⟩

/-- Only one label has changed, and it can be resolved. -/
theorem Kept.of_changed (h : s.Kept) (h' : s'.Tidy)
    (hother : ∀ l, l ≠ label → s'.catalog.tag? l = s.catalog.tag? l)
    (hlabel : Resolvable s'.catalog label) : s'.Kept := by
  refine ⟨h', fun l => (h.resolvable l).transfer fun m => ?_⟩
  by_cases hm : m = label
  · exact .inr (hm ▸ hlabel)
  · exact .inl (Catalog.meaning_of_tag? (hother m hm))

/-- No label has changed. -/
theorem Kept.of_same (h : s.Kept) (h' : s'.Tidy) (htags : s'.catalog.tags = s.catalog.tags) :
    s'.Kept :=
  ⟨h', fun l => (h.resolvable l).transfer fun m =>
    .inl (Catalog.meaning_of_tag? (congrArg (·.get? m) htags))⟩

/-- A catalog gives a new tag no larger number than the store does. -/
theorem Tidy.nextTagId_le (h : s.Tidy) : s.catalog.nextTagId ≤ s.tags.next := by
  have hmax : ((s.catalog.tags.values.map (·.id)).max?).getD 0 ≤ s.tags.rows.lastKey?.getD 0 := by
    cases hids : (s.catalog.tags.values.map (·.id)).max? with
    | some n =>
      obtain ⟨t, ht, rfl⟩ := List.mem_map.mp (List.max?_eq_some_iff.mp hids).1
      obtain ⟨l, hl⟩ := Table.mem_values_iff.mp ht
      have hrow := (h.tag?_eq_some_iff.mp hl).1
      exact Table.le_lastKey?_getD (Option.isSome_of_eq_some hrow)
    | none =>
      -- Without tags in the catalog there are no rows.
      have hnone : s.tags.rows.lastKey? = none := by
        refine Option.eq_none_iff_forall_ne_some.mpr fun n hn => ?_
        obtain ⟨r, hr⟩ := Option.isSome_iff_exists.mp (Table.lastKey?_eq_some_iff.mp hn).1
        have htag := h.valid.tag?_of_row hr (h.tag_legal n r hr)
        have hmem := List.mem_map_of_mem (f := (·.id)) (Table.mem_values_iff.mpr ⟨_, htag⟩)
        rw [List.max?_eq_none_iff.mp hids] at hmem
        exact absurd hmem List.not_mem_nil
      rw [hnone]
  exact Int.add_le_add_right (Int.le_trans hmax (Int.le_max_right _ _)) 1

end Store

namespace Command

/-! ## Sessions that begin -/

/-- The session is that of a command that begins: the library was just loaded from the store. -/
structure Begun (σ : Session) : Prop where
  kept : σ.store.Kept
  started : σ.library.Started
  loads : σ.store.Loads σ.library.snapshot

theorem exists_begun {s : Store} (h : s.Kept) (similarity : Similarity) :
    ∃ library, Library.ofStore s similarity = .ok library ∧ Begun { library, store := s } := by
  obtain ⟨m, hm, hloads⟩ := h.tidy.exists_load 1
  have hlib : Library.ofStore s similarity
      = .ok { snapshot := m, cache := .empty, fresh := m.catalog.nextFresh 1, similarity } := by
    rw [Library.ofStore, bind_of_ok hm]
    rfl
  exact ⟨_, hlib, h, .loaded s similarity hlib, hloads⟩

/-- Loaded images have labels of plain tags only. -/
theorem Begun.associated {σ : Session} (h : Begun σ) : Associated σ.library.snapshot where
  coherent := h.loads.coherent
  labeled := by
    intro l t ht
    have htag : σ.store.catalog.tag? l = some t := (congrArg (·.get? l) h.loads.tags).symm.trans ht
    exact h.kept.tidy.valid.labeled_catalog l t htag
  plain := by
    intro id l hl
    obtain ⟨r, hr, hmem⟩ := h.loads.has_iff.mp hl
    obtain ⟨t, q, ht, hq, rfl, hplain⟩ := h.kept.tidy.valid.mem_plainLabels_iff.mp hmem
    have hlegal := h.kept.tidy.tag_legal t q hq
    refine Catalog.meaning_eq_plain_iff.mpr ⟨_, (congrArg (·.get? q.label) h.loads.tags).trans
      (h.kept.tidy.valid.tag?_of_row hq hlegal), hplain hlegal⟩

/-! ## Linked catalogs -/

/-- The catalogs of the library and of the store are the same, up to the numbers of tags. -/
structure Linked (ρ : Renaming) (σ : Session) : Prop where
  kept : σ.store.Kept
  associated : Associated σ.library.snapshot
  types : σ.store.catalog.types = σ.library.snapshot.catalog.types
  tags : σ.store.catalog.tags = (σ.library.snapshot.catalog.rename ρ).tags

/-- The snapshots of the library and of the store are the same, up to the numbers of tags and
images. -/
structure Mirrors (ρ : Renaming) (σ : Session) : Prop where
  linked : Linked ρ σ
  view : σ.store.view = (σ.library.snapshot.index.rename ρ).view

variable {ρ : Renaming} {σ τ : Session} {lib : Library} {label l : String}
  {typeId : Option TypeId} {definition : Option String}

theorem Linked.tag?_eq (h : Linked ρ σ) (l : String) :
    σ.store.catalog.tag? l = (σ.library.snapshot.catalog.tag? l).map (Tag.rename ρ) := by
  rw [Catalog.tag?, h.tags]
  exact Table.get?_map ..

theorem Linked.tag?_of_some (h : Linked ρ σ) {t : Tag}
    (ht : σ.library.snapshot.catalog.tag? l = some t) :
    σ.store.catalog.tag? l = some (t.rename ρ) := by
  rw [h.tag?_eq, ht, Option.map_some]

/-- Numbers do not matter for what a label means. -/
theorem meaning_of_tags {c d : Catalog} (h : d.tags = (c.rename ρ).tags) (l : String) :
    d.meaning l = c.meaning l := by
  refine Catalog.meaning_congr ?_
  rw [Catalog.tag?, h, Catalog.rename, Table.get?_map, Option.map_map]
  rfl

theorem Linked.meaning_eq (h : Linked ρ σ) (l : String) :
    σ.store.catalog.meaning l = σ.library.snapshot.catalog.meaning l :=
  meaning_of_tags h.tags l

theorem Begun.linked (h : Begun σ) (hρ : ρ.Fixes σ.library.snapshot) : Linked ρ σ where
  kept := h.kept
  associated := h.associated
  types := h.loads.types.symm
  tags := by
    rw [← h.loads.tags]
    refine Table.ext_get? fun l => ?_
    rw [Catalog.rename, Table.get?_map]
    cases ht : σ.library.snapshot.catalog.tags.get? l with
    | none => rfl
    | some t => rw [Option.map_some, Tag.rename, hρ.tags l t ht]

/-- **What is loaded** from the store of such a session is the snapshot of the library, with other
numbers. -/
theorem Mirrors.exists_load (h : Mirrors ρ σ) (fresh : Version) :
    ∃ m, σ.store.load fresh = .ok m ∧ m.Agrees (σ.library.snapshot.rename ρ) := by
  obtain ⟨m, hm, hloads⟩ := h.linked.kept.tidy.exists_load fresh
  obtain ⟨himages, hpaths, hpostings, hlabels⟩ :=
    hloads.coherent.eq_of_view (h.linked.associated.coherent.rename ρ) (hloads.view.trans h.view)
  exact ⟨m, hm, hloads.tags.trans h.linked.tags, hloads.types.trans h.linked.types, himages, hpaths,
    hpostings, hlabels⟩

/-- Only the numbers of tags differ. -/
theorem Mirrors.of_view (h : Linked ρ σ) (hρ : ∀ id, ρ.images id = id)
    (hview : σ.store.view = σ.library.snapshot.index.view) : Mirrors ρ σ :=
  ⟨h, hview.trans (h.associated.coherent.view_rename_of_fixed fun id _ _ => hρ id).symm⟩

/-- Nothing has changed but the cache and what was printed. -/
theorem Mirrors.congr (h : Mirrors ρ σ) (hstore : τ.store = σ.store)
    (hlib : τ.library.snapshot = σ.library.snapshot) : Mirrors ρ τ := by
  obtain ⟨⟨hkept, hassociated, htypes, htags⟩, hview⟩ := h
  rw [← hstore] at hkept htypes htags hview
  rw [← hlib] at hassociated htypes htags hview
  exact ⟨⟨hkept, hassociated, htypes, htags⟩, hview⟩

theorem fixes_refl (m : Snapshot) : Renaming.refl.Fixes m := ⟨fun _ _ _ => rfl, fun _ _ _ => rfl⟩

theorem Begun.mirrors (h : Begun σ) : Mirrors .refl σ :=
  .of_view (h.linked (fixes_refl _)) (fun _ => rfl) h.loads.view.symm

/-! ## Changes of images -/

/-- Images are changed, and the catalogs are not. -/
theorem Linked.redraw (h : Linked ρ σ) (htidy : τ.store.Tidy)
    (hstore : τ.store.catalog = σ.store.catalog) (hassociated : Associated τ.library.snapshot)
    (hlib : τ.library.snapshot.catalog = σ.library.snapshot.catalog) : Linked ρ τ where
  kept := h.kept.of_same htidy (congrArg Catalog.tags hstore)
  associated := hassociated
  types := by rw [hstore, hlib, h.types]
  tags := by rw [hstore, hlib, h.tags]

/-- A change of the library that leaves the catalog. -/
theorem Linked.redraw_apply (h : Linked ρ σ) (htidy : τ.store.Tidy)
    (hstore : τ.store.catalog = σ.store.catalog) (change : LibraryChange)
    (hlib : (σ.library.apply change).2 = τ.library) {y : Index}
    (hs : τ.library.snapshot = { σ.library.snapshot with index := y }) : Linked ρ τ := by
  refine h.redraw htidy hstore (h.associated.of_apply change hlib) ?_
  rw [hs]

/-- An image with a new path can be added to the store. -/
theorem Linked.exists_addImage (h : Linked ρ σ) {path : String}
    (hfree : ∀ i r, σ.store.images.get? i = some r → r.path ≠ path)
    (fingerprint : Option Fingerprint) :
    ∃ s, σ.store.addImage path (fingerprint.map Fingerprint.toBytes)
        = .ok (σ.store.images.next, s) ∧ s.Tidy ∧ s.catalog = σ.store.catalog
      ∧ s.images.contains σ.store.images.next = true
      ∧ s.view = σ.store.view.insert σ.store.images.next
        (.make σ.store.images.next path fingerprint, KeySet.empty) := by
  have hread : (fingerprint.map Fingerprint.toBytes).bind Fingerprint.ofBytes? = fingerprint := by
    cases fingerprint with
    | none => rfl
    | some f => exact f.ofBytes?_toBytes
  have hs : σ.store.addImage path (fingerprint.map Fingerprint.toBytes) = .ok (_, _) :=
    Store.addImage_eq_ok_iff.mpr ⟨hfree, rfl, rfl⟩
  refine ⟨_, hs, h.kept.tidy.addImage hs, rfl, Numbered.contains_append_next .., ?_⟩
  rw [h.kept.tidy.view_addImage hs, hread]

/-- Labels that the library accepts can be given to an image of the store. -/
theorem Linked.exists_setImageTags (h : Linked ρ σ) {id : ImageId} {labels : List String}
    (hid : σ.store.images.contains id = true)
    (hlabels : ∀ l ∈ labels, σ.library.snapshot.catalog.meaning l = .plain) :
    ∃ s, σ.store.setImageTags id labels = .ok s ∧ s.Tidy ∧ s.catalog = σ.store.catalog
      ∧ s.view = σ.store.view.modify id fun v => (v.1, KeySet.ofList labels) := by
  have hplain : ∀ l ∈ labels, σ.store.catalog.meaning l = .plain := fun l hl =>
    (h.meaning_eq l).trans (hlabels l hl)
  have hs := Store.setImageTags_eq_ok hid labels
  exact ⟨_, hs, h.kept.tidy.setImageTags hid hplain hs, rfl,
    h.kept.tidy.view_setImageTags hid hplain hs⟩

/-! ## Changes of types -/

section

variable {symbol : Char} {color : UInt32} {id : TypeId}

/-- A type that the library has created can be added to the store. -/
theorem Linked.exists_addType (h : Linked ρ σ)
    (hlib : σ.library.createTagType label symbol color = (.ok id, lib)) :
    ∃ s, σ.store.addType label symbol.toString color.toNat = .ok (id, s) := by
  obtain ⟨hid, t, ht, hinsert, -⟩ := Library.of_createTagType hlib
  obtain ⟨hfree, -⟩ := Catalog.insertType_eq_ok_iff.mp hinsert
  refine h.kept.tidy.exists_addType ?_ ht (Catalog.insertType_eq_ok_iff.mpr ⟨?_, rfl⟩)
  · rw [hid, Catalog.nextTypeId, Catalog.nextTypeId, h.types]
  · rwa [h.types]

/-- Then the catalogs are the same again. -/
theorem Linked.createTagType (h : Linked ρ σ) (τ : Session)
    (hlib : σ.library.createTagType label symbol color = (.ok id, lib))
    (hstore : σ.store.addType label symbol.toString color.toNat = .ok (id, τ.store))
    (hτ : τ.library.snapshot = lib.snapshot) :
    Linked ρ τ ∧ τ.store.view = σ.store.view := by
  obtain ⟨hid, t, ht, hinsert, -⟩ := Library.of_createTagType hlib
  obtain ⟨-, hcatalog⟩ := Catalog.insertType_eq_ok_iff.mp hinsert
  obtain ⟨hrow, hsymbol⟩ := Store.toType?_of_make ht
  have htidy := h.kept.tidy.addType hrow hsymbol hstore
  have htags : τ.store.catalog.tags = σ.store.catalog.tags := by
    obtain ⟨-, -, -, hs⟩ := Store.addType_eq_ok_iff.mp hstore
    exact h.kept.tidy.tags_congr htidy (hs ▸ rfl)
  refine ⟨⟨h.kept.of_same htidy htags, ?_, ?_, ?_⟩, h.kept.tidy.view_addType hrow hsymbol hstore⟩
  · rw [hτ]
    exact h.associated.of_apply (.createTagType label symbol color) (congrArg Prod.snd hlib)
  · rw [Store.Tidy.types_addType hrow hstore, hτ, hcatalog, h.types,
      (TypeRow.toType?_eq_some hrow).1]
  · rw [htags, hτ, hcatalog, h.tags]
    rfl

end

/-! ## Changes of tags -/

/-- The tag of one label is changed in both catalogs, and the label can be resolved. -/
theorem Linked.retag (h : Linked ρ σ) (label : String) (htidy : τ.store.Tidy)
    (hassociated : Associated τ.library.snapshot)
    (htypes : τ.store.catalog.types = τ.library.snapshot.catalog.types)
    (htags : τ.store.catalog.tags = (τ.library.snapshot.catalog.rename ρ).tags)
    (hother : ∀ l, l ≠ label → τ.store.catalog.tag? l = σ.store.catalog.tag? l)
    (hlabel : Resolvable τ.library.snapshot.catalog label) : Linked ρ τ where
  kept := h.kept.of_changed htidy hother (hlabel.transfer fun m => .inl (meaning_of_tags htags m))
  associated := hassociated
  types := htypes
  tags := htags

/-- A tag that the library has created can be added to the store. -/
theorem Linked.exists_addTag (h : Linked ρ σ) {id : TagId}
    (hlib : σ.library.createTag label typeId definition = (.ok id, lib)) :
    ∃ n s, σ.store.addTag label typeId definition = .ok (n, s) := by
  obtain ⟨-, -, hinsert, -⟩ := Library.of_createTag hlib
  obtain ⟨hnew, hknown, -⟩ := Catalog.insertTag_eq_ok_iff.mp hinsert
  refine ⟨_, _, Store.addTag_eq_ok_iff.mpr ⟨?_, ?_, rfl, rfl⟩⟩
  · refine h.kept.tidy.label_ne_of_none ?_
    rw [h.tag?_eq, hnew, Option.map_none]
  · refine Store.hasType_iff.mpr fun t ht => ?_
    rw [← h.kept.tidy.legible.contains_types, h.types]
    exact Catalog.unknownType?_eq_none_iff.mp hknown t ht

/-- Then the catalogs are the same again, if the renaming pairs the numbers of the tag. -/
theorem Linked.createTag (h : Linked ρ σ) (τ : Session)
    (hρ : ρ.tags σ.library.snapshot.catalog.nextTagId = σ.store.tags.next) {id n : TagId}
    (hlib : σ.library.createTag label typeId definition = (.ok id, lib))
    (hstore : σ.store.addTag label typeId definition = .ok (n, τ.store))
    (hτ : τ.library.snapshot = lib.snapshot) (hlabel : Resolvable lib.snapshot.catalog label) :
    Linked ρ τ ∧ τ.store.view = σ.store.view := by
  obtain ⟨hid, hlegal, hinsert, -⟩ := Library.of_createTag hlib
  obtain ⟨-, -, hcatalog⟩ := Catalog.insertTag_eq_ok_iff.mp hinsert
  obtain ⟨-, -, hn, hs⟩ := Store.addTag_eq_ok_iff.mp hstore
  have hrow := h.kept.tidy.tags_addTag hlegal hstore
  have hnew : τ.library.snapshot.catalog.tags = σ.library.snapshot.catalog.tags.insert label
      ⟨id, label, typeId, definition⟩ := by
    rw [hτ, hcatalog]
  refine ⟨h.retag label (h.kept.tidy.addTag hlegal hstore) ?_ ?_ ?_ ?_ (hτ ▸ hlabel),
    h.kept.tidy.view_addTag hlegal hstore⟩
  · rw [hτ]
    exact h.associated.of_apply (.createTag label typeId definition) (congrArg Prod.snd hlib)
  · rw [hτ, hcatalog, hs]
    exact h.types
  · rw [Catalog.tags_rename_insert ρ hnew, hrow, h.tags, Tag.rename, hid, hρ, hn]
  · intro l hl
    rw [Catalog.tag?, hrow, Table.get?_insert_of_ne _ _ hl]
    rfl

section

variable {lib₁ lib₂ : Library} {u v : Unit}

/-- What the library has checked and made when it gives a tag another definition and type. -/
theorem of_redefine (h₁ : σ.library.redefineTag label definition = (.ok u, lib₁))
    (h₂ : lib₁.setTagType label typeId = (.ok v, lib₂)) :
    (definition.isSome = true → σ.library.snapshot.index.postingSize label = 0)
      ∧ (∀ i, typeId = some i → σ.library.snapshot.catalog.types.contains i = true)
      ∧ lib₂.snapshot.index = σ.library.snapshot.index
      ∧ lib₂.snapshot.catalog.types = σ.library.snapshot.catalog.types
      ∧ ∃ t, σ.library.snapshot.catalog.tag? label = some t
        ∧ lib₂.snapshot.catalog.tags
          = σ.library.snapshot.catalog.tags.insert label { t with typeId, definition } := by
  obtain ⟨hunused, hdefinition, hindex₁⟩ := Library.of_redefineTag h₁
  obtain ⟨htype, hindex₂⟩ := Library.of_setTagType h₂
  obtain ⟨t, ht, htags₁, htypes₁⟩ := Catalog.of_setDefinition hdefinition
  obtain ⟨hknown, t', ht', htags₂, htypes₂⟩ := Catalog.of_setType htype
  refine ⟨hunused, ?_, hindex₂.trans hindex₁, htypes₂.trans htypes₁, t, ht, ?_⟩
  · rw [← htypes₁]
    exact Catalog.unknownType?_eq_none_iff.mp hknown
  · -- The type is given to the tag with its new definition.
    rw [Catalog.tag?, htags₁, Table.get?_insert_self] at ht'
    cases ht'
    rw [htags₂, htags₁, Table.insert_insert]

/-- A tag that the library has changed can be changed in the store. -/
theorem Linked.exists_updateTag (h : Linked ρ σ)
    (h₁ : σ.library.redefineTag label definition = (.ok u, lib₁))
    (h₂ : lib₁.setTagType label typeId = (.ok v, lib₂)) :
    ∃ done s, σ.store.updateTag label typeId definition = .ok (done, s) := by
  obtain ⟨-, hknown, -, -, t, ht, -⟩ := of_redefine h₁ h₂
  obtain ⟨hrow, -⟩ := h.kept.tidy.tag?_eq_some_iff.mp (h.tag?_of_some ht)
  refine ⟨_, _, (h.kept.tidy.valid.updateTag_eq_ok_iff hrow).mpr ⟨?_, rfl, rfl⟩⟩
  refine Store.hasType_iff.mpr fun i hi => ?_
  rw [← h.kept.tidy.legible.contains_types, h.types]
  exact hknown i hi

/-- Then the catalogs are the same again. -/
theorem Linked.updateTag (h : Linked ρ σ) (τ : Session)
    (hview : σ.store.view = σ.library.snapshot.index.view)
    (h₁ : σ.library.redefineTag label definition = (.ok u, lib₁))
    (h₂ : lib₁.setTagType label typeId = (.ok v, lib₂)) {done : Bool}
    (hstore : σ.store.updateTag label typeId definition = .ok (done, τ.store))
    (hτ : τ.library.snapshot = lib₂.snapshot) (hlabel : Resolvable lib₂.snapshot.catalog label) :
    Linked ρ τ ∧ τ.store.view = σ.store.view := by
  obtain ⟨hposting, -, -, htypes, t, ht, htags⟩ := of_redefine h₁ h₂
  have hrow := h.tag?_of_some ht
  -- The library has asked its postings; the store would see it at the images.
  have hunused : definition.isSome = true →
      ∀ i v, σ.store.view.get? i = some v → v.2.has label = false := by
    intro hsome i v hv
    rw [hview, Index.get?_view, Option.map_eq_some_iff] at hv
    obtain ⟨image, -, rfl⟩ := hv
    exact h.associated.coherent.has_of_postingSize (hposting hsome) i
  have hnew := h.kept.tidy.tags_updateTag hrow hunused hstore
  obtain ⟨-, hs⟩ := h.kept.tidy.of_updateTag hrow hstore
  refine ⟨h.retag label (h.kept.tidy.updateTag hrow hunused hstore) ?_ ?_ ?_ ?_
    (hτ ▸ hlabel), h.kept.tidy.view_updateTag hrow hunused hstore⟩
  · have hassociated₁ : Associated lib₁.snapshot :=
      h.associated.of_apply (.redefineTag label definition) (congrArg Prod.snd h₁)
    rw [hτ]
    exact hassociated₁.of_apply (.setTagType label typeId) (congrArg Prod.snd h₂)
  · rw [hτ, htypes, hs]
    exact h.types
  · rw [hτ, Catalog.tags_rename_insert ρ htags, hnew, h.tags]
    simp only [Tag.rename, (h.associated.labeled label t ht).1]
  · intro l hl
    rw [Catalog.tag?, hnew, Table.get?_insert_of_ne _ _ hl]
    rfl

end

/-- A tag that the library has removed is deleted from the store, and the label goes from the
images of both. -/
theorem Linked.removeTag (h : Linked ρ σ) (τ : Session)
    (hview : σ.store.view = σ.library.snapshot.index.view) {t : Tag}
    (hlib : σ.library.removeTag label = (.ok t, lib))
    (hstore : τ.store = (σ.store.deleteTag label).2) (hτ : τ.library.snapshot = lib.snapshot) :
    Linked ρ τ ∧ τ.store.view = lib.snapshot.index.view := by
  obtain ⟨hremove, hindex⟩ := Library.of_removeTag hlib
  obtain ⟨ht, htags, htypes⟩ := Catalog.of_removeTag hremove
  have hrow := h.tag?_of_some ht
  have hnew := h.kept.tidy.tags_deleteTag hrow
  refine ⟨h.retag label (hstore ▸ h.kept.tidy.deleteTag hrow) ?_ ?_ ?_ ?_ ?_, ?_⟩
  · rw [hτ]
    exact h.associated.of_apply (.removeTag label) (congrArg Prod.snd hlib)
  · rw [hτ, htypes, hstore, h.kept.tidy.deleteTag_eq hrow]
    exact h.types
  · rw [hτ, Catalog.tags_rename_erase ρ htags, hstore, hnew, h.tags]
  · intro l hl
    rw [hstore, Catalog.tag?, hnew, Table.get?_erase, if_neg hl]
    rfl
  · -- A label without a tag is no reason for a query to fail.
    refine resolvable_of_meaning (.inl ?_)
    rw [hτ, Catalog.meaning, Catalog.tag?, htags, Table.get?_erase, if_pos rfl]
  · rw [hstore, h.kept.tidy.view_deleteTag hrow, hview, hindex,
      h.associated.coherent.view_dropLabel]

end Command

end Gallery
