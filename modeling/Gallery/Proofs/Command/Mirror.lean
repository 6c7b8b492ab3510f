import Gallery.Command.Run
import Gallery.Proofs.Command.Linked

/-!
# `Gallery.Proofs.Command.Mirror` — each command does the same to the library and to the store

A command that succeeds leaves a store that mirrors the library, and one that fails leaves a store that
keeps the rules of all commands.  There is one lemma for each command; those that create tags or images
end with the numbers paired that the two give next when the command begins.

## Contents
- `Session.pairing`, the numbers that the library and the store give next; `Aligned`.
- `Ensured` and `runs_ensureTags`, the loop that creates missing tags.
- One lemma for each command, and `Begun.runs_perform` for all of them.
-/

namespace Gallery.Command

open Query

variable {ρ : Renaming} {σ τ : Session} {P : Store → Prop} {label path : String}

/-! ## The next numbers -/

/-- Pairs the numbers that the library gives next with those that the store gives next. -/
def Session.pairing (σ : Session) : Renaming where
  tags := shift σ.library.snapshot.catalog.nextTagId σ.store.tags.next
  images := shift σ.library.snapshot.index.nextImageId σ.store.images.next

/-- The same, with the numbers of images as they are. -/
def Session.tagPairing (σ : Session) : Renaming := { σ.pairing with images := Renaming.refl.images }

/-- The next tags of the library and of the store are paired. -/
def Aligned (ρ : Renaming) (σ : Session) : Prop :=
  ∀ k : Nat, ρ.tags (σ.library.snapshot.catalog.nextTagId + k) = σ.store.tags.next + k

theorem Aligned.next (h : Aligned ρ σ) :
    ρ.tags σ.library.snapshot.catalog.nextTagId = σ.store.tags.next := by
  have h0 := h 0
  rwa [Int.natCast_zero, Int.add_zero, Int.add_zero] at h0

theorem fixes_pairing (σ : Session) : σ.pairing.Fixes σ.library.snapshot :=
  ⟨fun _ _ ht => shift_of_lt (Catalog.lt_nextTagId ht),
    fun _ _ hi => shift_of_lt (Index.lt_nextImageId hi)⟩

theorem fixes_tagPairing (σ : Session) : σ.tagPairing.Fixes σ.library.snapshot :=
  ⟨(fixes_pairing σ).tags, fun _ _ _ => rfl⟩

theorem Begun.aligned (h : Begun σ) : Aligned σ.pairing σ := by
  have hle : σ.library.snapshot.catalog.nextTagId ≤ σ.store.tags.next := by
    unfold Catalog.nextTagId
    rw [h.loads.tags]
    exact h.kept.tidy.nextTagId_le
  exact shift_add hle

/-- The next images are paired too. -/
theorem Begun.pairing_images (h : Begun σ) :
    σ.pairing.images σ.library.snapshot.index.nextImageId = σ.store.images.next := by
  have hkeys : σ.library.snapshot.index.images.lastKey? = σ.store.images.rows.lastKey? := by
    refine Table.lastKey?_congr fun i => ?_
    have hview := congrArg (fun t => (t.get? i).isSome) h.loads.view
    simp only [Index.get?_view, Store.get?_view, Option.isSome_map] at hview
    exact hview
  have hle : σ.library.snapshot.index.nextImageId ≤ σ.store.images.next := by
    rw [Index.nextImageId, hkeys]
    exact Int.add_le_add_right (Int.le_max_right _ _) 1
  exact shift_self hle

/-! ## Images of the library and of the store -/

/-- The rows have the paths of the images. -/
theorem Begun.path_of_row (h : Begun σ) {i : ImageId} {r : ImageRow}
    (hr : σ.store.images.get? i = some r) :
    ∃ image, σ.library.snapshot.index.images.get? i = some image ∧ image.path = r.path := by
  have hview := congrArg (·.get? i) h.loads.view
  simp only [Index.get?_view, Store.get?_view, hr, Option.map_some, Option.map_eq_some_iff] at hview
  obtain ⟨image, himage, heq⟩ := hview
  exact ⟨image, himage, by rw [(Prod.mk.inj heq).1]; rfl⟩

/-- What the library registers, the store holds. -/
theorem contains_of_view (h : σ.store.view = σ.library.snapshot.index.view) {i : ImageId}
    {image : Image} (hi : σ.library.snapshot.index.images.get? i = some image) :
    σ.store.images.contains i = true := by
  have hview := congrArg (fun t => (t.get? i).isSome) h
  simp only [Index.get?_view, Store.get?_view, Option.isSome_map, hi, Option.isSome_some] at hview
  exact hview

theorem Mirrors.view_eq (h : Mirrors .refl σ) : σ.store.view = σ.library.snapshot.index.view :=
  h.view.trans (h.linked.associated.coherent.view_rename_of_fixed fun _ _ _ => rfl)

/-! ## Missing tags -/

/-- What the loop keeps that creates missing tags: only catalogs change. -/
structure Ensured (ρ : Renaming) (σ τ : Session) : Prop where
  linked : Linked ρ τ
  aligned : Aligned ρ τ
  index : τ.library.snapshot.index = σ.library.snapshot.index
  images : τ.store.images = σ.store.images
  view : τ.store.view = σ.store.view

theorem Ensured.refl (h : Linked ρ σ) (ha : Aligned ρ σ) : Ensured ρ σ σ := ⟨h, ha, rfl, rfl, rfl⟩

/-- A tag that was just created is plain, so its label can be resolved. -/
theorem resolvable_of_createTag {lib lib' : Library} {id : TagId} {typeId : Option TypeId}
    (h : lib.createTag label typeId none = (.ok id, lib')) :
    Resolvable lib'.snapshot.catalog label := by
  obtain ⟨-, -, hinsert, -⟩ := Library.of_createTag h
  obtain ⟨-, -, hcatalog⟩ := Catalog.insertTag_eq_ok_iff.mp hinsert
  have htag : lib'.snapshot.catalog.tag? label = some ⟨id, label, typeId, none⟩ := by
    rw [hcatalog, Catalog.tag?, Table.get?_insert_self]
  exact resolvable_of_meaning (.inr (Catalog.meaning_eq_plain_iff.mpr ⟨_, htag, rfl⟩))

theorem runs_ensureTag (h : Ensured ρ σ τ) (label : String) :
    Runs Store.Kept τ (ensureTag label) fun _ => Ensured ρ σ := by
  refine runs_bind (runs_current ?_)
  split
  · refine runs_bind (runs_inLibrary h.linked.kept fun id lib hlib => ?_)
    obtain ⟨n, s, hstore⟩ := h.linked.exists_addTag hlib
    refine runs_bind (runs_inStore hstore (runs_pure ?_))
    obtain ⟨hid, -, hinsert, hindex⟩ := Library.of_createTag hlib
    obtain ⟨-, -, -, hs⟩ := Store.addTag_eq_ok_iff.mp hstore
    obtain ⟨hlinked, hview⟩ := h.linked.createTag { τ with library := lib, store := s }
      h.aligned.next hlib hstore rfl (resolvable_of_createTag hlib)
    refine ⟨hlinked, fun k => ?_, hindex.trans h.index, hs ▸ h.images, hview.trans h.view⟩
    -- Both numbers have moved on by one.
    have hk := h.aligned (k + 1)
    show ρ.tags (lib.snapshot.catalog.nextTagId + k) = s.tags.next + k
    rw [Catalog.nextTagId_insertTag hid hinsert, hs, Numbered.next_append, Int.add_assoc,
      Int.add_assoc, Int.add_comm 1]
    exact hk
  · exact runs_pure h

theorem runs_ensureTags (h : Ensured ρ σ τ) (labels : List String) :
    Runs Store.Kept τ (ensureTags labels) fun _ => Ensured ρ σ :=
  runs_forM (fun label _ _ ht => runs_ensureTag ht label) h

/-! ## Images -/

theorem runs_move (h : Begun σ) (source target : String) :
    Runs Store.Kept σ (performMove source target) fun _ => Mirrors .refl := by
  refine runs_bind (runs_findImage (fun _ => h.kept) fun image himage => ?_)
  refine runs_bind (runs_inLibrary h.kept fun _ lib hlib => ?_)
  obtain ⟨y, hy, hs⟩ := Library.of_moveImage hlib
  have hrow := contains_of_view h.loads.view.symm (h.loads.coherent.get?_of_imageByPath? himage)
  have hfree : ∀ i r, σ.store.images.get? i = some r → r.path = target → i = image.id := by
    intro i r hr hpath
    obtain ⟨old, hold, heq⟩ := h.path_of_row hr
    exact h.loads.coherent.eq_of_moveImage hy i old hold (heq.trans hpath)
  have hstore := (h.kept.tidy.valid.movePath_eq_ok_iff hrow).mpr ⟨hfree, rfl, rfl⟩
  refine runs_bind (runs_inStore hstore (runs_say ?_))
  refine .of_view (h.mirrors.linked.redraw_apply (h.kept.tidy.movePath hrow hstore) rfl
    (.moveImage image.id target) (congrArg Prod.snd hlib) hs) (fun _ => rfl) ?_
  show _ = lib.snapshot.index.view
  rw [hs, h.loads.coherent.view_moveImage hy, h.loads.view]
  exact h.kept.tidy.view_movePath hrow hstore

theorem runs_remove (h : Mirrors .refl σ) (path : String) :
    Runs Store.Kept σ (performRemove path) fun _ => Mirrors .refl := by
  have hkept := h.linked.kept
  refine runs_bind (runs_findImage (fun _ => hkept) fun image himage => ?_)
  refine runs_bind (runs_inLibrary hkept fun removed lib hlib => ?_)
  obtain ⟨y, hy, hs⟩ := Library.of_removeImage hlib
  refine runs_bind (runs_surely (runs_say ?_))
  refine .of_view (h.linked.redraw_apply (hkept.tidy.deleteImage image.id) rfl
    (.removeImage image.id) (congrArg Prod.snd hlib) hs) (fun _ => rfl) ?_
  show _ = lib.snapshot.index.view
  rw [hs, Index.view_removeImage hy, ← h.view_eq]
  exact hkept.tidy.view_deleteImage image.id

theorem runs_storeImageTags {id : ImageId} {labels : List String} {s : Store}
    {Q : Unit → Session → Prop} (hs : σ.store.setImageTags id labels = .ok s)
    (h : Q () { σ with store := s }) : Runs P σ (storeImageTags id labels) Q :=
  runs_inStore (by rw [hs]; rfl) h

/-- An image that both have is given labels, once their tags have been created. -/
theorem runs_relabel (h : Ensured ρ σ τ) (hρ : ∀ id, ρ.images id = id)
    (hview : σ.store.view = σ.library.snapshot.index.view) {id : ImageId} {image : Image}
    (hid : σ.library.snapshot.index.images.get? id = some image) (hP : P τ.store)
    (labels : List String) (line : String) :
    Runs P τ (do
      inLibrary fun lib => lib.setImageTags id labels
      storeImageTags id labels
      say line) fun _ => Mirrors ρ := by
  refine runs_bind (runs_inLibrary hP fun _ lib hlib => ?_)
  obtain ⟨hplain, y, hy, hs⟩ := Library.of_setImageTags hlib
  have hrow : τ.store.images.contains id = true := by
    rw [h.images]
    exact contains_of_view hview hid
  obtain ⟨s, hstore, htidy, hcatalog, hlabels⟩ := h.linked.exists_setImageTags hrow hplain
  refine runs_bind (runs_storeImageTags hstore (runs_say ?_))
  refine .of_view (h.linked.redraw_apply htidy hcatalog (.setImageTags id labels)
    (congrArg Prod.snd hlib) hs) hρ ?_
  show s.view = lib.snapshot.index.view
  rw [hs, Index.view_setLabels hy, hlabels, h.view, h.index, hview]

theorem runs_tag (h : Begun σ) (path : String) (tags : List String) (mode : TagMode) :
    Runs Store.Kept σ (performTag path tags mode) fun _ => Mirrors σ.tagPairing := by
  have hbegun : Ensured σ.tagPairing σ σ := .refl (h.linked (fixes_tagPairing σ)) h.aligned
  refine runs_bind (runs_findImage (fun _ => h.kept) fun image himage => ?_)
  have hid := h.loads.coherent.get?_of_imageByPath? himage
  refine runs_bind (runs_current ?_)
  dsimp only
  split
  · refine runs_bind ((runs_ensureTags hbegun tags).imp fun _ τ hτ => ?_)
    exact runs_relabel hτ (fun _ => rfl) h.loads.view.symm hid hτ.linked.kept _ _
  · exact runs_relabel hbegun (fun _ => rfl) h.loads.view.symm hid h.kept _ _

/-- A new image with its labels in the store. -/
theorem runs_storeImage (h : Linked ρ τ) {fingerprint : Option Fingerprint} {labels : List String}
    (hfree : ∀ i r, τ.store.images.get? i = some r → r.path ≠ path)
    (hplain : ∀ l ∈ labels, τ.library.snapshot.catalog.meaning l = .plain) (line : String) :
    Runs P τ (do
      let id ← inStore fun s => s.addImage path (fingerprint.map Fingerprint.toBytes)
      storeImageTags id labels
      say line) fun _ t => Linked ρ t ∧ t.library = τ.library
        ∧ t.store.view = τ.store.view.insert τ.store.images.next
          (.make τ.store.images.next path fingerprint, KeySet.ofList labels) := by
  obtain ⟨s, hs, htidy, hcatalog, hrow, hview⟩ := h.exists_addImage hfree fingerprint
  refine runs_bind (runs_inStore hs ?_)
  have hadded : Linked ρ { τ with store := s } := h.redraw htidy hcatalog h.associated rfl
  obtain ⟨s', hs', htidy', hcatalog', hview'⟩ := hadded.exists_setImageTags hrow hplain
  refine runs_bind (runs_storeImageTags hs' (runs_say ⟨?_, rfl, ?_⟩))
  · exact hadded.redraw htidy' hcatalog' h.associated rfl
  · refine hview'.trans ?_
    rw [hview, Table.modify_insert]

section

variable {fingerprint : Option Fingerprint} {id : ImageId} {lib₁ : Library}

/-- The library has registered the image; the store has not yet, but its catalog is the same. -/
theorem Begun.ensured_registered (h : Begun σ)
    (hlib₁ : σ.library.registerImage path fingerprint = (.ok id, lib₁)) :
    Ensured σ.pairing { σ with library := lib₁ } { σ with library := lib₁ } := by
  obtain ⟨-, x, -, hs₁⟩ := Library.of_registerImage hlib₁
  refine .refl ((h.linked (fixes_pairing σ)).redraw_apply h.kept.tidy rfl
    (.registerImage path fingerprint) (congrArg Prod.snd hlib₁) hs₁) fun k => ?_
  show σ.pairing.tags (lib₁.snapshot.catalog.nextTagId + k) = _
  rw [hs₁]
  exact h.aligned k

/-- A registered image is stored once its tags have been created. -/
theorem runs_storeRegistered (h : Begun σ)
    (hlib₁ : σ.library.registerImage path fingerprint = (.ok id, lib₁))
    (hτ : Ensured σ.pairing { σ with library := lib₁ } τ) (hP : P τ.store) (tags : List String)
    (line : String) :
    Runs P τ (do
      inLibrary fun lib => lib.setImageTags id tags
      let stored ← inStore fun s => s.addImage path (fingerprint.map Fingerprint.toBytes)
      storeImageTags stored tags
      say line) fun _ => Mirrors σ.pairing := by
  obtain ⟨hid, x, hx, hs₁⟩ := Library.of_registerImage hlib₁
  refine runs_bind (runs_inLibrary hP fun _ lib₂ hlib₂ => ?_)
  obtain ⟨hplain, y, hy, hs₂⟩ := Library.of_setImageTags hlib₂
  have hlabeled : Linked σ.pairing { τ with library := lib₂ } :=
    hτ.linked.redraw_apply hτ.linked.kept.tidy rfl (.setImageTags id tags)
      (congrArg Prod.snd hlib₂) hs₂
  have hfree : ∀ i r, τ.store.images.get? i = some r → r.path ≠ path := by
    intro i r hr hpath
    rw [hτ.images] at hr
    obtain ⟨old, hold, heq⟩ := h.path_of_row hr
    exact h.loads.coherent.path_ne_of_insertImage hx i old hold (heq.trans hpath)
  have hplain₂ : ∀ l ∈ tags, lib₂.snapshot.catalog.meaning l = .plain := hs₂ ▸ hplain
  -- In the library the image was added and then labeled, with missing tags created in between.
  have hindex : y.view = σ.library.snapshot.index.view.insert id
      (.make id path fingerprint, KeySet.ofList tags) := by
    rw [Index.view_setLabels hy, hτ.index]
    show lib₁.snapshot.index.view.modify _ _ = _
    rw [hs₁, h.loads.coherent.view_insertImage hx, Image.make_id, Table.modify_insert]
  refine (runs_storeImage hlabeled hfree hplain₂ _).imp fun _ t ⟨hlinked, hlib, hview⟩ =>
    ⟨hlinked, ?_⟩
  rw [hview, hlib]
  show _ = (lib₂.snapshot.index.rename σ.pairing).view
  rw [hs₂, h.loads.coherent.view_rename_insert (fixes_pairing σ).images hindex, Image.rename_make, hid,
    h.pairing_images, hτ.view, hτ.images, h.loads.view]

end

/-- The library knows the image before its tags are created, the store only after. -/
theorem runs_add (h : Begun σ) (path : String) (fingerprint : Option Fingerprint)
    (tags : List String) :
    Runs Store.Kept σ (performAdd path fingerprint tags) fun _ => Mirrors σ.pairing := by
  refine runs_bind (runs_inLibrary h.kept fun id lib₁ hlib₁ => ?_)
  refine runs_bind ((runs_ensureTags (h.ensured_registered hlib₁) tags).imp fun _ τ hτ => ?_)
  exact runs_storeRegistered h hlib₁ hτ hτ.linked.kept tags _

/-! ## Tags and types -/

theorem runs_findType {Q : TypeId → Session → Prop} (hP : P σ.store) (h : ∀ id, Q id σ) :
    Runs P σ (findType label) Q := by
  refine runs_bind (runs_current ?_)
  split
  · exact runs_throw nofun hP
  · exact runs_pure (h _)

/-- A tag that passes can be resolved, and only the cache has changed. -/
theorem runs_checkDefinition {Q : Unit → Session → Prop} (hlib : σ.library.Historic)
    (hlabel : isValidLabel label = true) (hP : P σ.store)
    (h : ∀ t, Resolvable σ.library.snapshot.catalog label → t.store = σ.store →
      t.library.snapshot = σ.library.snapshot → Q () t) : Runs P σ (checkDefinition label) Q := by
  refine runs_bind (runs_ask nofun hP fun warnings lib hv => ?_)
  obtain ⟨hresolvable, hsnapshot⟩ := hlib.resolvable_of_validate hlabel hv
  -- Warnings are printed, which keeps the store and the snapshot.
  have hsame : ∀ t : Session,
      t.store = σ.store ∧ t.library.snapshot = σ.library.snapshot → Q () t :=
    fun t ht => h t hresolvable ht.1 ht.2
  exact (runs_forM (fun _ _ _ ht => runs_warn ht) ⟨rfl, hsnapshot⟩).imp fun _ => hsame

/-- A tag gets another definition and type. -/
theorem runs_changeTag (h : Begun σ) {old : Tag}
    (hold : σ.library.snapshot.catalog.tag? label = some old) (typeId : Option TypeId)
    (definition : Option String) {rest : Action Unit}
    (hrest : ∀ t, Mirrors σ.tagPairing t → Runs Store.Kept t rest fun _ => Mirrors σ.tagPairing) :
    Runs Store.Kept σ (do
      inLibrary fun lib => lib.redefineTag label definition
      inLibrary fun lib => lib.setTagType label typeId
      checkDefinition label
      let _ ← inStore fun s => s.updateTag label typeId definition
      rest) fun _ => Mirrors σ.tagPairing := by
  have hlinked := h.linked (fixes_tagPairing σ)
  refine runs_bind (runs_inLibrary h.kept fun _ lib₁ h₁ => ?_)
  refine runs_bind (runs_inLibrary h.kept fun _ lib₂ h₂ => ?_)
  have hhistoric₁ : lib₁.Historic := h.started.historic.of_apply (.redefineTag label definition)
    (congrArg Prod.snd h₁)
  have hhistoric₂ : lib₂.Historic := hhistoric₁.of_apply (.setTagType label typeId)
    (congrArg Prod.snd h₂)
  have hlegal := (h.associated.labeled label old hold).2
  refine runs_bind (runs_checkDefinition hhistoric₂ hlegal h.kept fun t hresolvable hs hlib => ?_)
  obtain ⟨done, s, hstore⟩ := hlinked.exists_updateTag h₁ h₂
  refine runs_bind (runs_inStore (hs ▸ hstore) (hrest _ ?_))
  obtain ⟨hchanged, hview⟩ := hlinked.updateTag { t with store := s } h.loads.view.symm h₁ h₂
    hstore hlib hresolvable
  -- Neither the tag nor its type shows in the index.
  obtain ⟨-, -, hindex, -⟩ := of_redefine h₁ h₂
  refine .of_view hchanged (fun _ => rfl) (hview.trans ?_)
  show _ = t.library.snapshot.index.view
  rw [hlib, hindex, h.loads.view]

/-- A tag is created. -/
theorem runs_createTag (h : Begun σ) (label : String) (typeId : Option TypeId)
    (definition : Option String) {rest : Action Unit}
    (hrest : ∀ t, Mirrors σ.tagPairing t → Runs Store.Kept t rest fun _ => Mirrors σ.tagPairing) :
    Runs Store.Kept σ (do
      let _ ← inLibrary fun lib => lib.createTag label typeId definition
      checkDefinition label
      let _ ← inStore fun s => s.addTag label typeId definition
      rest) fun _ => Mirrors σ.tagPairing := by
  have hlinked := h.linked (fixes_tagPairing σ)
  refine runs_bind (runs_inLibrary h.kept fun id lib hlib => ?_)
  obtain ⟨-, hlegal, -, hindex⟩ := Library.of_createTag hlib
  have hhistoric : lib.Historic := h.started.historic.of_apply (.createTag label typeId definition)
    (congrArg Prod.snd hlib)
  refine runs_bind (runs_checkDefinition hhistoric hlegal h.kept fun t hresolvable hs hsame => ?_)
  obtain ⟨n, s, hstore⟩ := hlinked.exists_addTag hlib
  refine runs_bind (runs_inStore (hs ▸ hstore) (hrest _ ?_))
  obtain ⟨hcreated, hview⟩ := hlinked.createTag { t with store := s } h.aligned.next hlib hstore
    hsame hresolvable
  refine .of_view hcreated (fun _ => rfl) (hview.trans ?_)
  show _ = t.library.snapshot.index.view
  rw [hsame, hindex, h.loads.view]

theorem runs_define (h : Begun σ) (label : String) (change : DefinitionChange)
    (typeLabel : Option String) :
    Runs Store.Kept σ (performDefine label change typeLabel) fun _ => Mirrors σ.tagPairing := by
  have hgiven : Runs Store.Kept σ (typeLabel.mapM findType) fun _ t => t = σ := by
    cases typeLabel with
    | none => exact runs_pure rfl
    | some l => exact runs_bind (runs_findType h.kept fun _ => runs_pure rfl)
  refine runs_bind (hgiven.imp fun given t ht => ?_)
  subst ht
  refine runs_bind (runs_current ?_)
  dsimp only
  have hreport : ∀ line u, Mirrors t.tagPairing u →
      Runs Store.Kept u (say line) fun _ => Mirrors t.tagPairing :=
    fun _ _ hu => runs_say (hu.congr rfl rfl)
  split
  · rename_i old hold
    refine runs_changeTag h hold _ _ fun u hu => ?_
    cases change <;> exact hreport _ u hu
  · refine runs_createTag h label _ _ fun u hu => ?_
    cases change <;> exact hreport _ u hu

/-- The label of a removed tag goes from the images too. -/
theorem runs_undefine (h : Begun σ) (label : String) :
    Runs Store.Kept σ (performUndefine label) fun _ => Mirrors .refl := by
  refine runs_bind (runs_inLibrary h.kept fun t lib hlib => ?_)
  refine runs_bind (runs_surely (runs_say ?_))
  obtain ⟨hlinked, hview⟩ := h.mirrors.linked.removeTag { σ with
    library := lib, store := (σ.store.deleteTag label).2, out := _ } h.loads.view.symm hlib rfl rfl
  exact .of_view hlinked (fun _ => rfl) hview

theorem runs_defineType (h : Begun σ) (label : String) (symbol : Char) (color : UInt32) :
    Runs Store.Kept σ (performDefineType label symbol color) fun _ => Mirrors .refl := by
  refine runs_bind (runs_inLibrary h.kept fun id lib hlib => ?_)
  obtain ⟨s, hstore⟩ := h.mirrors.linked.exists_addType hlib
  obtain ⟨-, -, -, -, hindex⟩ := Library.of_createTagType hlib
  refine runs_bind (runs_inStore hstore (runs_say ?_))
  obtain ⟨hlinked, hview⟩ := h.mirrors.linked.createTagType { σ with
    library := lib, store := s, out := _ } hlib hstore rfl
  refine .of_view hlinked (fun _ => rfl) (hview.trans ?_)
  show _ = lib.snapshot.index.view
  rw [hindex, h.loads.view]

/-! ## Questions -/

/-- A question to the library changes nothing but its cache. -/
theorem runs_question {ε α : Type} {failure : ε → Failure} {work : Library → Except ε α × Library}
    (h : Mirrors ρ σ) (hfailure : ∀ e x, failure e ≠ .store x)
    (hwork : (work σ.library).2.snapshot = σ.library.snapshot) :
    Runs Store.Kept σ (ask failure work) fun _ => Mirrors ρ :=
  runs_ask hfailure h.linked.kept fun _ _ hlib =>
    h.congr rfl ((congrArg (fun r => r.2.snapshot) hlib).symm.trans hwork)

theorem runs_sayAll (h : Mirrors ρ σ) (lines : List String) :
    Runs P σ (lines.forM say) fun _ => Mirrors ρ :=
  runs_forM (fun _ _ _ ht => runs_say (ht.congr rfl rfl)) h

theorem runs_warnAll (h : Mirrors ρ σ) (warnings : List Warning) :
    Runs P σ (warnings.forM warn) fun _ => Mirrors ρ :=
  runs_forM (fun _ _ _ ht => runs_warn (ht.congr rfl rfl)) h

theorem runs_query (h : Mirrors ρ σ) (text : String) (count : Nat) (format : OutputFormat) :
    Runs Store.Kept σ (performQuery text count format) fun _ => Mirrors ρ := by
  have hlib := congrArg Library.snapshot (σ.library.query_snd text .never)
  refine runs_bind ((runs_question h nofun hlib).imp fun o t ht => ?_)
  exact runs_bind ((runs_warnAll ht o.warnings).imp fun _ u hu => runs_sayAll hu _)

theorem runs_validate (h : Mirrors ρ σ) (text : String) :
    Runs Store.Kept σ (performValidate text) fun _ => Mirrors ρ := by
  have hlib := congrArg Library.snapshot (σ.library.validate_snd text)
  refine runs_bind ((runs_question h nofun hlib).imp fun warnings t ht => ?_)
  exact runs_bind ((runs_warnAll ht warnings).imp fun _ u hu => runs_say (hu.congr rfl rfl))

theorem runs_explain (h : Mirrors ρ σ) (text : String) :
    Runs Store.Kept σ (performExplain text) fun _ => Mirrors ρ := by
  have hlib := congrArg Library.snapshot (σ.library.explain_snd text)
  exact runs_bind ((runs_question h nofun hlib).imp fun _ t ht => runs_say (ht.congr rfl rfl))

theorem runs_untagged (h : Mirrors ρ σ) : Runs P σ performUntagged fun _ => Mirrors ρ :=
  runs_bind (runs_get (runs_sayAll h _))

/-! ## All commands -/

/-- **Every command keeps a store that mirrors the library**, up to the numbers that it has given. -/
theorem Begun.runs_perform (h : Begun σ) (c : Command) :
    ∃ ρ : Renaming, ρ.Fixes σ.library.snapshot
      ∧ Runs Store.Kept σ c.perform fun _ => Mirrors ρ := by
  cases c with
  | add path fingerprint tags => exact ⟨_, fixes_pairing σ, runs_add h path fingerprint tags⟩
  | move source target => exact ⟨_, fixes_refl _, runs_move h source target⟩
  | remove paths =>
    exact ⟨_, fixes_refl _, runs_forM (fun path _ _ ht => runs_remove ht path) h.mirrors⟩
  | tag path tags mode => exact ⟨_, fixes_tagPairing σ, runs_tag h path tags mode⟩
  | define label change typeLabel =>
    exact ⟨_, fixes_tagPairing σ, runs_define h label change typeLabel⟩
  | undefine label => exact ⟨_, fixes_refl _, runs_undefine h label⟩
  | defineType label symbol color => exact ⟨_, fixes_refl _, runs_defineType h label symbol color⟩
  | query text threshold count format =>
    exact ⟨_, fixes_refl _, runs_query h.mirrors text count format⟩
  | validate text => exact ⟨_, fixes_refl _, runs_validate h.mirrors text⟩
  | explain text => exact ⟨_, fixes_refl _, runs_explain h.mirrors text⟩
  | untagged => exact ⟨_, fixes_refl _, runs_untagged h.mirrors⟩

end Gallery.Command
