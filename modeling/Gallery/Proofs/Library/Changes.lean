import Gallery.Catalog.Change
import Gallery.Proofs.Library.Moves

/-!
# `Gallery.Proofs.Library.Changes` — what a change of a library does to its snapshot

A change of a library checks what the catalog and the index know of each other and then changes one
of them; only when a tag is removed are both changed.  `Snapshot.Changes` names these ways once, with
what the checks have made sure of, so that an invariant of snapshots is shown by four cases.

## Contents
- `IndexChange.given` and `CatalogChange.retracted`, the labels that a check is about.
- `Snapshot.Changes`, the ways of a change; `Library.changes_apply`, there is no other.
- `Library.catalogChange?` and `Library.indexChange?`, what a change does to the catalog and to the
  index, with `Library.catalog_apply` and `Library.index_apply`.
- `Library.Reachable`, the libraries that changes lead to.
-/

namespace Gallery

/-! ## Labels that are checked -/

/-- The labels that a change may give to an image. -/
def IndexChange.given : IndexChange → List String
  | .tag _ label => [label]
  | .setLabels _ labels => labels
  | _ => []

/-- The labels whose tag a change may remove or make compound. -/
def CatalogChange.retracted : CatalogChange → List String
  | .removeTag label => [label]
  | .setDefinition label (some _) => [label]
  | _ => []

/-! ## Changes of a snapshot -/

/-- What is left when a change has been answered. -/
def left {α σ : Type} (s : σ) : Except LibraryError (α × σ) → σ
  | .error _ => s
  | .ok (_, t) => t

/-- What is left is what there was, unless the change succeeded. -/
theorem left_cases {α σ : Type} (s : σ) (r : Except LibraryError (α × σ)) :
    left s r = s ∨ ∃ a, r = .ok (a, left s r) := by
  cases r with
  | error e => exact .inl rfl
  | ok r => exact .inr ⟨r.1, rfl⟩

theorem settle_snd {α σ : Type} (s : σ) (reply : α → Reply) (r : Except LibraryError (α × σ)) :
    (settle s reply r).2 = left s r := by
  cases r <;> rfl

theorem settleDone_snd {σ : Type} (s : σ) (r : Except LibraryError σ) :
    (settleDone s r).2 = left s (Library.plain r) := by
  cases r <;> rfl

namespace Snapshot

/-- What a change of a library may make of its snapshot. -/
inductive Changes (s : Snapshot) (fresh : Version) : Snapshot → Prop
  | same : Changes s fresh s
  /-- Labels that are given to images are those of plain tags. -/
  | index (change : IndexChange) (hplain : ∀ l ∈ change.given, s.catalog.meaning l = .plain) :
      Changes s fresh { s with index := (s.index.apply change).2 }
  /-- No image carries a label whose tag becomes compound. -/
  | catalog (change : CatalogChange)
      (hunused : ∀ l ∈ change.retracted, s.index.postingSize l = 0) :
      Changes s fresh { s with catalog := (s.catalog.apply fresh change).2 }
  /-- The label of a tag that is removed is taken from all images. -/
  | removeTag (label : String) :
      Changes s fresh ⟨(s.catalog.apply fresh (.removeTag label)).2, s.index.dropLabel label⟩

variable {s : Snapshot} {fresh : Version} {α : Type}

theorem catalog_onIndex (s : Snapshot) (change : Index → Except LibraryError (α × Index)) :
    (s.onIndex change).2.catalog = s.catalog := by
  unfold onIndex
  cases change s.index <;> rfl

/-- Changing the catalog as a change of catalogs does leaves what the change leaves. -/
theorem snd_onCatalog {change : Catalog → Except LibraryError (α × Catalog)} (c : CatalogChange)
    (happly : (s.catalog.apply fresh c).2 = left s.catalog (change s.catalog)) :
    (s.onCatalog change).2 = { s with catalog := (s.catalog.apply fresh c).2 } := by
  rw [happly, onCatalog]
  cases change s.catalog <;> rfl

theorem changes_onIndex {change : Index → Except LibraryError (α × Index)} (c : IndexChange)
    (happly : (s.index.apply c).2 = left s.index (change s.index))
    (hplain : ∀ l ∈ c.given, s.catalog.meaning l = .plain) :
    s.Changes fresh (s.onIndex change).2 := by
  have hthis : (s.onIndex change).2 = { s with index := (s.index.apply c).2 } := by
    rw [happly, onIndex]
    cases change s.index <;> rfl
  exact hthis ▸ .index c hplain

theorem changes_onCatalog {change : Catalog → Except LibraryError (α × Catalog)}
    (c : CatalogChange) (happly : (s.catalog.apply fresh c).2 = left s.catalog (change s.catalog))
    (hunused : ∀ l ∈ c.retracted, s.index.postingSize l = 0) :
    s.Changes fresh (s.onCatalog change).2 := by
  rw [snd_onCatalog c happly]
  exact .catalog c hunused

end Snapshot

/-! ## Changes of a library -/

namespace Library

variable {lib : Library} {α : Type}

/-- A change of a library changes the snapshot as it says. -/
theorem mutate_snapshot (lib : Library) (affected : List String)
    (change : Snapshot → Except LibraryError α × Snapshot) :
    (lib.mutate affected change).2.snapshot = (change lib.snapshot).2 := by
  unfold mutate
  rcases change lib.snapshot with ⟨e | a, s⟩
  · rfl
  · rfl

/-- Only labels of plain tags can be given to images. -/
theorem meaning_of_assignable {c : Catalog} {label : String} (h : assignable c label = .ok ()) :
    c.meaning label = .plain := by
  unfold assignable at h
  unfold Catalog.meaning
  cases ht : c.tag? label with
  | none =>
    rw [ht] at h
    cases h
  | some t =>
    rw [ht] at h
    dsimp only at h ⊢
    cases hd : t.definition with
    | none => rfl
    | some definition =>
      rw [Tag.isCompound, hd] at h
      cases h

theorem meaning_of_allAssignable {c : Catalog} {labels : List String}
    (h : allAssignable c labels = .ok ()) : ∀ l ∈ labels, c.meaning l = .plain := by
  induction labels with
  | nil => exact fun l hl => absurd hl List.not_mem_nil
  | cons l labels ih =>
    rw [allAssignable] at h
    split at h
    · cases h
    · rename_i hl
      exact List.forall_mem_cons.mpr ⟨meaning_of_assignable hl, ih h⟩

/-- With its number, the image is inserted like any other. -/
theorem changes_registerImage (lib : Library) (path : String) (fingerprint : Option Fingerprint) :
    lib.snapshot.Changes lib.fresh (lib.registerImage path fingerprint).2.snapshot := by
  rw [registerImage, mutateIndex, mutate_snapshot]
  refine Snapshot.changes_onIndex
    (.insertImage (.make lib.snapshot.index.nextImageId path fingerprint)) ?_ nofun
  refine (settleDone_snd _ (lib.snapshot.index.insertImage _)).trans ?_
  dsimp only
  cases lib.snapshot.index.insertImage _ <;> rfl

theorem changes_tagImage (lib : Library) (id : ImageId) (label : String) :
    lib.snapshot.Changes lib.fresh (lib.tagImage id label).2.snapshot := by
  rw [tagImage, mutate_snapshot]
  cases h : assignable lib.snapshot.catalog label with
  | error e => exact .same
  | ok u =>
    exact Snapshot.changes_onIndex (.tag id label) (settle_snd ..)
      (List.forall_mem_singleton.mpr (meaning_of_assignable h))

theorem changes_setImageTags (lib : Library) (id : ImageId) (labels : List String) :
    lib.snapshot.Changes lib.fresh (lib.setImageTags id labels).2.snapshot := by
  rw [setImageTags, mutate_snapshot]
  cases h : allAssignable lib.snapshot.catalog labels with
  | error e => exact .same
  | ok u =>
    exact Snapshot.changes_onIndex (.setLabels id labels) (settleDone_snd ..)
      (meaning_of_allAssignable h)

/-- With its number, the type is inserted like any other. -/
theorem snapshot_createTagType (lib : Library) (label : String) (symbol : Char) (color : UInt32) :
    (lib.createTagType label symbol color).2.snapshot = { lib.snapshot with
      catalog := (lib.snapshot.catalog.apply lib.fresh
        (.insertType lib.snapshot.catalog.nextTypeId label symbol color)).2 } := by
  rw [createTagType, mutateCatalog, mutate_snapshot]
  refine Snapshot.snd_onCatalog
    (.insertType lib.snapshot.catalog.nextTypeId label symbol color) ?_
  rw [Catalog.apply]
  dsimp only
  cases TagType.make lib.snapshot.catalog.nextTypeId label symbol color with
  | error e => rfl
  | ok t =>
    refine (settleDone_snd _ (lib.snapshot.catalog.insertType t)).trans ?_
    dsimp only
    cases lib.snapshot.catalog.insertType t <;> rfl

/-- With its number, the tag is inserted like any other. -/
theorem snapshot_createTag (lib : Library) (label : String) (typeId : Option TypeId)
    (definition : Option String) :
    (lib.createTag label typeId definition).2.snapshot = { lib.snapshot with
      catalog := (lib.snapshot.catalog.apply lib.fresh
        (.insertTag lib.snapshot.catalog.nextTagId label typeId definition)).2 } := by
  rw [createTag, mutateCatalog, mutate_snapshot]
  refine Snapshot.snd_onCatalog
    (.insertTag lib.snapshot.catalog.nextTagId label typeId definition) ?_
  rw [Catalog.apply]
  dsimp only
  cases Tag.make lib.snapshot.catalog.nextTagId label typeId definition with
  | error e => rfl
  | ok t =>
    refine (settleDone_snd _ (lib.snapshot.catalog.insertTag lib.fresh t)).trans ?_
    dsimp only
    cases lib.snapshot.catalog.insertTag lib.fresh t <;> rfl

theorem snapshot_insertTagType (lib : Library) {id : TypeId} {label : String} {symbol : Char}
    {color : UInt32} {t : TagType} (ht : TagType.make id label symbol color = .ok t) :
    (lib.insertTagType t).2.snapshot = { lib.snapshot with
      catalog := (lib.snapshot.catalog.apply lib.fresh (.insertType id label symbol color)).2 } := by
  rw [insertTagType, mutateCatalog, mutate_snapshot]
  refine Snapshot.snd_onCatalog (.insertType id label symbol color) ?_
  rw [Catalog.apply, ht]
  exact settleDone_snd ..

theorem snapshot_insertTag (lib : Library) {id : TagId} {label : String} {typeId : Option TypeId}
    {definition : Option String} {t : Tag} (ht : Tag.make id label typeId definition = .ok t) :
    (lib.insertTag t).2.snapshot = { lib.snapshot with
      catalog := (lib.snapshot.catalog.apply lib.fresh (.insertTag id label typeId definition)).2 } := by
  rw [insertTag, mutateCatalog, mutate_snapshot]
  refine Snapshot.snd_onCatalog (.insertTag id label typeId definition) ?_
  rw [Catalog.apply, ht]
  exact settleDone_snd ..

/-- A tag that images carry is not made compound. -/
theorem changes_redefineTag (lib : Library) (label : String) (definition : Option String) :
    lib.snapshot.Changes lib.fresh (lib.redefineTag label definition).2.snapshot := by
  rw [redefineTag, mutate_snapshot]
  split
  · exact .same
  · rename_i hfree
    refine Snapshot.changes_onCatalog (.setDefinition label definition) (settleDone_snd ..) ?_
    cases definition with
    | none => exact fun l hl => absurd hl List.not_mem_nil
    | some definition =>
      refine List.forall_mem_singleton.mpr ?_
      simpa using hfree

theorem changes_removeTag (lib : Library) (label : String) :
    lib.snapshot.Changes lib.fresh (lib.removeTag label).2.snapshot := by
  rw [removeTag, mutate_snapshot]
  have hcatalog := settle_snd lib.snapshot.catalog .tag
    (lib.snapshot.catalog.removeTag lib.fresh label)
  have hchanges : lib.snapshot.Changes lib.fresh
      ⟨left lib.snapshot.catalog (lib.snapshot.catalog.removeTag lib.fresh label),
        lib.snapshot.index.dropLabel label⟩ := hcatalog ▸ .removeTag label
  unfold Snapshot.onCatalog
  dsimp only
  cases h : lib.snapshot.catalog.removeTag lib.fresh label with
  | error e => exact .same
  | ok r =>
    rw [h] at hchanges
    exact hchanges

/-- **Every change of a library** does one of these things to its snapshot, also if it is refused. -/
theorem changes_apply (lib : Library) (change : LibraryChange) :
    lib.snapshot.Changes lib.fresh (lib.apply change).2.snapshot := by
  cases change with
  | registerImage path fingerprint => exact changes_registerImage lib path fingerprint
  | insertImage image =>
    show Snapshot.Changes _ _ (lib.mutate [] _).2.snapshot
    rw [mutate_snapshot]
    exact Snapshot.changes_onIndex (.insertImage image) (settleDone_snd ..) nofun
  | removeImage id =>
    show Snapshot.Changes _ _ (lib.mutate [] _).2.snapshot
    rw [mutate_snapshot]
    exact Snapshot.changes_onIndex (.removeImage id) (settle_snd ..) nofun
  | moveImage id path =>
    show Snapshot.Changes _ _ (lib.mutate [] _).2.snapshot
    rw [mutate_snapshot]
    exact Snapshot.changes_onIndex (.moveImage id path) (settleDone_snd ..) nofun
  | setFingerprint id fingerprint =>
    show Snapshot.Changes _ _ (lib.mutate [] _).2.snapshot
    rw [mutate_snapshot]
    exact Snapshot.changes_onIndex (.setFingerprint id fingerprint) (settleDone_snd ..) nofun
  | tagImage id label => exact changes_tagImage lib id label
  | untagImage id label =>
    show Snapshot.Changes _ _ (lib.mutate [] _).2.snapshot
    rw [mutate_snapshot]
    exact Snapshot.changes_onIndex (.untag id label) (settle_snd ..) nofun
  | setImageTags id labels => exact changes_setImageTags lib id labels
  | createTagType label symbol color =>
    show Snapshot.Changes _ _ (lib.createTagType label symbol color).2.snapshot
    rw [snapshot_createTagType]
    exact .catalog _ nofun
  | insertTagType id label symbol color =>
    unfold apply
    dsimp only
    split
    · exact .same
    · rename_i t ht
      show Snapshot.Changes _ _ (lib.insertTagType t).2.snapshot
      rw [snapshot_insertTagType lib ht]
      exact .catalog _ nofun
  | removeTagType id =>
    show Snapshot.Changes _ _ (lib.mutate [] _).2.snapshot
    rw [mutate_snapshot]
    exact Snapshot.changes_onCatalog (.removeType id) (settle_snd ..) nofun
  | createTag label typeId definition =>
    show Snapshot.Changes _ _ (lib.createTag label typeId definition).2.snapshot
    rw [snapshot_createTag]
    exact .catalog _ nofun
  | insertTag id label typeId definition =>
    unfold apply
    dsimp only
    split
    · exact .same
    · rename_i t ht
      show Snapshot.Changes _ _ (lib.insertTag t).2.snapshot
      rw [snapshot_insertTag lib ht]
      exact .catalog _ nofun
  | redefineTag label definition => exact changes_redefineTag lib label definition
  | setTagType label typeId =>
    show Snapshot.Changes _ _ (lib.mutate [] _).2.snapshot
    rw [mutate_snapshot]
    exact Snapshot.changes_onCatalog (.setType label typeId) (settleDone_snd ..) nofun
  | removeTag label => exact changes_removeTag lib label

/-! ## Changes of the catalog -/

/-- The change of the catalog that a change of a library is, if its checks do not refuse it. -/
def catalogChange? (lib : Library) : LibraryChange → Option CatalogChange
  | .createTagType label symbol color =>
    some (.insertType lib.snapshot.catalog.nextTypeId label symbol color)
  | .insertTagType id label symbol color => some (.insertType id label symbol color)
  | .removeTagType id => some (.removeType id)
  | .createTag label typeId definition =>
    some (.insertTag lib.snapshot.catalog.nextTagId label typeId definition)
  | .insertTag id label typeId definition => some (.insertTag id label typeId definition)
  | .redefineTag label definition =>
    if definition.isSome && 0 < lib.snapshot.index.postingSize label then none
    else some (.setDefinition label definition)
  | .setTagType label typeId => some (.setType label typeId)
  | .removeTag label => some (.removeTag label)
  | _ => none

/-- **A change of a library does to the catalog** what its change of the catalog does. -/
theorem catalog_apply (lib : Library) (change : LibraryChange) :
    (lib.apply change).2.snapshot.catalog = match lib.catalogChange? change with
      | none => lib.snapshot.catalog
      | some c => (lib.snapshot.catalog.apply lib.fresh c).2 := by
  cases change with
  | registerImage | insertImage | removeImage | moveImage | setFingerprint | untagImage =>
    show (lib.mutate [] _).2.snapshot.catalog = lib.snapshot.catalog
    rw [mutate_snapshot, Snapshot.catalog_onIndex]
  | tagImage id label =>
    show (lib.tagImage id label).2.snapshot.catalog = lib.snapshot.catalog
    rw [tagImage, mutate_snapshot]
    cases assignable lib.snapshot.catalog label with
    | error e => rfl
    | ok u => exact Snapshot.catalog_onIndex ..
  | setImageTags id labels =>
    show (lib.setImageTags id labels).2.snapshot.catalog = lib.snapshot.catalog
    rw [setImageTags, mutate_snapshot]
    cases allAssignable lib.snapshot.catalog labels with
    | error e => rfl
    | ok u => exact Snapshot.catalog_onIndex ..
  | createTagType label symbol color =>
    exact congrArg Snapshot.catalog (snapshot_createTagType lib label symbol color)
  | insertTagType id label symbol color =>
    dsimp only [apply, catalogChange?]
    cases ht : TagType.make id label symbol color with
    | error e => rw [Catalog.apply, ht]; rfl
    | ok t => exact congrArg Snapshot.catalog (snapshot_insertTagType lib ht)
  | removeTagType id =>
    show (lib.mutate _ _).2.snapshot.catalog = _
    rw [mutate_snapshot]
    refine congrArg Snapshot.catalog (Snapshot.snd_onCatalog (.removeType id) ?_)
    exact settle_snd ..
  | createTag label typeId definition =>
    exact congrArg Snapshot.catalog (snapshot_createTag lib label typeId definition)
  | insertTag id label typeId definition =>
    dsimp only [apply, catalogChange?]
    cases ht : Tag.make id label typeId definition with
    | error e => rw [Catalog.apply, ht]; rfl
    | ok t => exact congrArg Snapshot.catalog (snapshot_insertTag lib ht)
  | redefineTag label definition =>
    show (lib.redefineTag label definition).2.snapshot.catalog = _
    rw [redefineTag, mutate_snapshot, catalogChange?]
    split
    · rfl
    · refine congrArg Snapshot.catalog (Snapshot.snd_onCatalog (.setDefinition label definition) ?_)
      exact settleDone_snd ..
  | setTagType label typeId =>
    show (lib.mutate _ _).2.snapshot.catalog = _
    rw [mutate_snapshot]
    refine congrArg Snapshot.catalog (Snapshot.snd_onCatalog (.setType label typeId) ?_)
    exact settleDone_snd ..
  | removeTag label =>
    have hleft : (lib.snapshot.onCatalog (·.removeTag lib.fresh label)).2 = _ :=
      Snapshot.snd_onCatalog (.removeTag label) (settle_snd ..)
    show (lib.removeTag label).2.snapshot.catalog = _
    rw [removeTag, mutate_snapshot]
    refine Eq.trans ?_ (congrArg Snapshot.catalog hleft)
    split <;> rename_i hs <;> rw [hs]

/-! ## Changes of the index -/

/-- The change of the index that a change of a library is, if its checks do not refuse it. -/
def indexChange? (lib : Library) : LibraryChange → Option IndexChange
  | .registerImage path fingerprint =>
    some (.insertImage (.make lib.snapshot.index.nextImageId path fingerprint))
  | .insertImage image => some (.insertImage image)
  | .removeImage id => some (.removeImage id)
  | .moveImage id path => some (.moveImage id path)
  | .setFingerprint id fingerprint => some (.setFingerprint id fingerprint)
  | .tagImage id label =>
    (assignable lib.snapshot.catalog label).toOption.map fun _ => .tag id label
  | .untagImage id label => some (.untag id label)
  | .setImageTags id labels =>
    (allAssignable lib.snapshot.catalog labels).toOption.map fun _ => .setLabels id labels
  | .removeTag label => (lib.snapshot.catalog.tag? label).map fun _ => .dropLabel label
  | _ => none

/-- Changing the index as a change of indexes does leaves what the change leaves. -/
theorem index_mutate {affected : List String}
    {change : Snapshot → Except LibraryError α × Snapshot}
    {f : Index → Except LibraryError (α × Index)} (c : IndexChange)
    (hchange : change lib.snapshot = lib.snapshot.onIndex f)
    (happly : (lib.snapshot.index.apply c).2 = left lib.snapshot.index (f lib.snapshot.index)) :
    (lib.mutate affected change).2.snapshot.index = (lib.snapshot.index.apply c).2 := by
  rw [mutate_snapshot, hchange, happly, Snapshot.onIndex]
  cases f lib.snapshot.index <;> rfl

theorem index_mutateCatalog (lib : Library) (affected : List String)
    (change : Catalog → Except LibraryError (α × Catalog)) :
    (lib.mutateCatalog affected change).2.snapshot.index = lib.snapshot.index := by
  rw [mutateCatalog, mutate_snapshot, Snapshot.onCatalog]
  cases change lib.snapshot.catalog <;> rfl

/-- **A change of a library does to the index** what its change of the index does. -/
theorem index_apply (lib : Library) (change : LibraryChange) :
    (lib.apply change).2.snapshot.index = match lib.indexChange? change with
      | none => lib.snapshot.index
      | some c => (lib.snapshot.index.apply c).2 := by
  cases change with
  | registerImage path fingerprint =>
    refine index_mutate (.insertImage _) rfl ?_
    refine (settleDone_snd _ (lib.snapshot.index.insertImage _)).trans ?_
    dsimp only
    cases lib.snapshot.index.insertImage _ <;> rfl
  | insertImage image => exact index_mutate (.insertImage image) rfl (settleDone_snd ..)
  | removeImage id => exact index_mutate (.removeImage id) rfl (settle_snd ..)
  | moveImage id path => exact index_mutate (.moveImage id path) rfl (settleDone_snd ..)
  | setFingerprint id fingerprint =>
    exact index_mutate (.setFingerprint id fingerprint) rfl (settleDone_snd ..)
  | untagImage id label => exact index_mutate (.untag id label) rfl (settle_snd ..)
  | tagImage id label =>
    show (lib.tagImage id label).2.snapshot.index = _
    rw [tagImage, indexChange?]
    cases h : assignable lib.snapshot.catalog label with
    | error e => rw [mutate_snapshot, h]; rfl
    | ok u => exact index_mutate (f := (·.tag id label)) _ (by rw [h]) (settle_snd ..)
  | setImageTags id labels =>
    show (lib.setImageTags id labels).2.snapshot.index = _
    rw [setImageTags, indexChange?]
    cases h : allAssignable lib.snapshot.catalog labels with
    | error e => rw [mutate_snapshot, h]; rfl
    | ok u =>
      exact index_mutate (f := fun x => plain (x.setLabels id labels)) _ (by rw [h])
        (settleDone_snd ..)
  | createTagType | removeTagType | createTag | setTagType => exact index_mutateCatalog ..
  | insertTagType id label symbol color =>
    unfold apply
    dsimp only
    cases TagType.make id label symbol color with
    | error e => rfl
    | ok t => exact index_mutateCatalog ..
  | insertTag id label typeId definition =>
    unfold apply
    dsimp only
    cases Tag.make id label typeId definition with
    | error e => rfl
    | ok t => exact index_mutateCatalog ..
  | redefineTag label definition =>
    show (lib.redefineTag label definition).2.snapshot.index = lib.snapshot.index
    rw [redefineTag, mutate_snapshot]
    split
    · rfl
    · unfold Snapshot.onCatalog
      split <;> rfl
  | removeTag label =>
    show (lib.removeTag label).2.snapshot.index = _
    rw [removeTag, mutate_snapshot, indexChange?, Snapshot.onCatalog, Catalog.tag?, Catalog.removeTag]
    cases lib.snapshot.catalog.tags.get? label <;> rfl

/-- The library is what changes, successful or not, have made of an empty one. -/
def Reachable (lib : Library) : Prop :=
  ∃ similarity changes, lib = ({ similarity } : Library).applyAll changes

end Library

end Gallery
