import Gallery.Proofs.Store.Rows
import Gallery.Store

/-!
# `Gallery.Proofs.Store.Rules` — the changes of a store keep its rules

A change is refused exactly when it would break a rule, so the rules hold of every store that changes
lead to.  Each change that can be refused has one equation that says when it succeeds and what the
store is then.

## Contents
- `tagId?_eq_some_iff` and `imageId?_eq_some_iff`, searches by label and by path.
- `addImage_eq_ok_iff`, `addType_eq_ok_iff`, `addTag_eq_ok_iff` and, for stores that keep the rules,
  `Valid.movePath_eq_ok_iff` and `Valid.updateTag_eq_ok_iff`; `setImageTags_eq_ok`.
- `valid_iff`, rules that are decided by the entries.
- `valid_empty`, and one lemma for each change: `Valid.addImage` to `Valid.setImageTags`.
-/

namespace Gallery.Store

variable {s s' : Store} {id : Int} {path label symbol : String} {color : Int}
  {fingerprint : Option (List UInt8)} {typeId : Option TypeId} {definition : Option String}
  {labels : List String} {done : Bool}

/-! ## Searches -/

theorem Valid.tagId?_eq_some_iff (h : s.Valid) :
    s.tagId? label = some id ↔ ∃ r, s.tags.get? id = some r ∧ r.label = label := by
  have hsep : s.tags.Separates (·.label) := h.tagLabel_unique
  simp only [tagId?, Option.map_eq_some_iff, Prod.exists,
    hsep.find?_eq_some_iff]
  exact ⟨fun ⟨_, r, hr, hid⟩ => ⟨r, hid ▸ hr⟩, fun ⟨r, hr⟩ => ⟨id, r, hr, rfl⟩⟩

theorem tagId?_eq_none_iff :
    s.tagId? label = none ↔ ∀ id r, s.tags.get? id = some r → r.label ≠ label := by
  simp only [tagId?, Option.map_eq_none_iff, Numbered.find?_eq_none_iff, beq_eq_false_iff_ne]

theorem Valid.imageId?_eq_some_iff (h : s.Valid) :
    s.imageId? path = some id ↔ ∃ r, s.images.get? id = some r ∧ r.path = path := by
  have hsep : s.images.Separates (·.path) := h.path_unique
  simp only [imageId?, Option.map_eq_some_iff, Prod.exists, hsep.find?_eq_some_iff]
  exact ⟨fun ⟨_, r, hr, hid⟩ => ⟨r, hid ▸ hr⟩, fun ⟨r, hr⟩ => ⟨id, r, hr, rfl⟩⟩

theorem hasType_iff :
    s.hasType typeId = true ↔ ∀ t, typeId = some t → s.types.contains t = true := by
  cases typeId with
  | none => simp [hasType]
  | some t => simp [hasType]

/-! ## Which changes succeed -/

/-- A field that no row has. -/
theorem any_eq_false_iff {ν : Type} {t : Numbered ν} {f : ν → String} {a : String} :
    ¬(t.any fun r => f r == a) = true ↔ ∀ i r, t.get? i = some r → f r ≠ a := by
  rw [Numbered.any_iff]
  simp only [beq_iff_eq, not_exists, not_and]

theorem addImage_eq_ok_iff :
    s.addImage path fingerprint = .ok (id, s') ↔
      (∀ i r, s.images.get? i = some r → r.path ≠ path) ∧ id = s.images.next
        ∧ s' = { s with images := s.images.append { path, fingerprint } } := by
  rw [← any_eq_false_iff (f := ImageRow.path)]
  unfold addImage
  split
  · rename_i htaken
    exact ⟨nofun, fun h => absurd htaken h.1⟩
  · rename_i hfree
    simp only [Except.ok.injEq, Prod.mk.injEq, eq_comm, hfree, Bool.false_eq_true,
      not_false_eq_true, true_and]

theorem Valid.movePath_eq_ok_iff (h : s.Valid) (hid : s.images.contains id = true) :
    s.movePath id path = .ok (done, s') ↔
      (∀ i r, s.images.get? i = some r → r.path = path → i = id) ∧ done = true
        ∧ s' = { s with images := s.images.modify id fun r => { r with path } } := by
  have hfree : ¬((s.imageId? path).any (· != id)) = true ↔
      ∀ i r, s.images.get? i = some r → r.path = path → i = id := by
    rw [Option.any_eq_true]
    simp only [h.imageId?_eq_some_iff, bne_iff_ne, not_exists, not_and, ne_eq,
      Decidable.not_not]
    exact ⟨fun hall i r hr hpath => hall i ⟨r, hr, hpath⟩,
      fun hall i ⟨r, hr, hpath⟩ => hall i r hr hpath⟩
  rw [← hfree]
  unfold movePath
  rw [hid, Bool.not_true, if_neg Bool.false_ne_true]
  split
  · rename_i htaken
    exact ⟨nofun, fun h => absurd htaken h.1⟩
  · rename_i hown
    simp only [Except.ok.injEq, Prod.mk.injEq, eq_comm, hown, Bool.false_eq_true,
      not_false_eq_true, true_and]

theorem addType_eq_ok_iff :
    s.addType label symbol color = .ok (id, s') ↔
      (∀ i r, s.types.get? i = some r → r.symbol ≠ symbol)
        ∧ (∀ i r, s.types.get? i = some r → r.label ≠ label) ∧ id = s.types.next
        ∧ s' = { s with types := s.types.append { label, symbol, color } } := by
  rw [← any_eq_false_iff (f := TypeRow.symbol), ← any_eq_false_iff (f := TypeRow.label)]
  unfold addType
  split
  · rename_i htaken
    exact ⟨nofun, fun h => absurd htaken h.1⟩
  split
  · rename_i htaken
    exact ⟨nofun, fun h => absurd htaken h.2.1⟩
  · rename_i hsymbol hlabel
    simp only [Except.ok.injEq, Prod.mk.injEq, eq_comm, hsymbol, hlabel,
      Bool.false_eq_true, not_false_eq_true, true_and]

theorem addTag_eq_ok_iff :
    s.addTag label typeId definition = .ok (id, s') ↔
      (∀ i r, s.tags.get? i = some r → r.label ≠ label) ∧ s.hasType typeId = true
        ∧ id = s.tags.next
        ∧ s' = { s with tags := s.tags.append { label, typeId, definition } } := by
  rw [← tagId?_eq_none_iff]
  unfold addTag
  cases s.tagId? label with
  | some taken => exact ⟨nofun, nofun⟩
  | none =>
    cases s.hasType typeId with
    | false => exact ⟨nofun, nofun⟩
    | true =>
      simp only [Option.isSome_none, Bool.not_true, Bool.false_eq_true, if_false, Except.ok.injEq,
        Prod.mk.injEq, eq_comm, true_and]

theorem Valid.updateTag_eq_ok_iff (h : s.Valid) {r : TagRow} (hid : s.tags.get? id = some r) :
    s.updateTag r.label typeId definition = .ok (done, s') ↔
      s.hasType typeId = true ∧ done = true
        ∧ s' = { s with tags := s.tags.modify id fun r => { r with typeId, definition } } := by
  unfold updateTag
  rw [h.tagId?_eq_some_iff.mpr ⟨r, hid, rfl⟩]
  cases s.hasType typeId with
  | false => exact ⟨nofun, nofun⟩
  | true =>
    simp only [Bool.not_true, Bool.false_eq_true, if_false, Except.ok.injEq, Prod.mk.injEq, eq_comm,
      true_and]

/-- The tags that an image is given are those of the labels that are stored. -/
theorem setImageTags_eq_ok (hid : s.images.contains id = true) (labels : List String) :
    s.setImageTags id labels = .ok { s with images := s.images.modify id fun r =>
      { r with tags := KeySet.ofList (labels.filterMap s.tagId?) } } := by
  unfold setImageTags
  cases labels.filterMap s.tagId? with
  | nil => rfl
  | cons t ts =>
    dsimp only
    rw [if_pos hid]

/-! ## The rules are kept -/

theorem valid_empty : (∅ : Store).Valid where
  path_unique := fun _ _ _ _ h => nomatch h
  typeLabel_unique := fun _ _ _ _ h => nomatch h
  symbol_unique := fun _ _ _ _ h => nomatch h
  tagLabel_unique := fun _ _ _ _ h => nomatch h
  type_exists := fun _ _ _ h => nomatch h
  tag_exists := fun _ _ _ h => nomatch h

/-- The rules are decided by the entries. -/
theorem valid_iff : s.Valid ↔ s.images.Separates (·.path) ∧ s.types.Separates (·.label)
    ∧ s.types.Separates (·.symbol) ∧ s.tags.Separates (·.label)
    ∧ (∀ e ∈ s.tags.rows.entries, ∀ t ∈ e.2.typeId, s.types.contains t = true)
    ∧ ∀ e ∈ s.images.rows.entries, ∀ t ∈ e.2.tags.toList, s.tags.contains t = true := by
  simp only [KeySet.mem_toList]
  constructor
  · intro h
    exact ⟨h.path_unique, h.typeLabel_unique, h.symbol_unique, h.tagLabel_unique,
      Numbered.forall_get?_iff.mp fun i r hr t ht => h.type_exists i r t hr ht,
      Numbered.forall_get?_iff.mp fun i r hr t ht => h.tag_exists i r t hr ht⟩
  · rintro ⟨hpath, hlabel, hsymbol, htag, htypes, htags⟩
    have htypes' : ∀ i r, s.tags.get? i = some r → ∀ t ∈ r.typeId, s.types.contains t = true :=
      Numbered.forall_get?_iff.mpr htypes
    have htags' : ∀ i r, s.images.get? i = some r → ∀ t, r.tags.has t = true →
        s.tags.contains t = true := Numbered.forall_get?_iff.mpr htags
    exact ⟨hpath, hlabel, hsymbol, htag, fun i r t hr => htypes' i r hr t,
      fun i r t hr => htags' i r hr t⟩

instance decidableValid (s : Store) : Decidable s.Valid := decidable_of_iff _ valid_iff.symm

/-- New images keep the rules that name only paths and tags of images. -/
theorem Valid.withImages (h : s.Valid) {images : Numbered ImageRow}
    (hpaths : images.Separates (·.path))
    (htags : ∀ i r t, images.get? i = some r → r.tags.has t = true → s.tags.contains t = true) :
    Valid { s with images } where
  path_unique := hpaths
  typeLabel_unique := h.typeLabel_unique
  symbol_unique := h.symbol_unique
  tagLabel_unique := h.tagLabel_unique
  type_exists := h.type_exists
  tag_exists := htags

theorem Valid.addImage (h : s.Valid) (hs' : s.addImage path fingerprint = .ok (id, s')) :
    s'.Valid := by
  obtain ⟨hfree, -, rfl⟩ := addImage_eq_ok_iff.mp hs'
  have hsep : s.images.Separates (·.path) := h.path_unique
  refine h.withImages (hsep.append hfree) fun i r t hr ht => ?_
  rw [Numbered.get?_append] at hr
  split at hr
  · cases hr
    cases ht
  · exact h.tag_exists i r t hr ht

/-- A change of one image row. -/
theorem Valid.modifyImage (h : s.Valid) {g : ImageRow → ImageRow}
    (hpaths : (s.images.modify id g).Separates (·.path))
    (htags : ∀ r t, s.images.get? id = some r → (g r).tags.has t = true →
      s.tags.contains t = true) :
    Valid { s with images := s.images.modify id g } := by
  refine h.withImages hpaths fun i r t hr ht => ?_
  rw [Numbered.get?_modify] at hr
  split at hr
  · rename_i hi
    obtain ⟨q, hq, rfl⟩ := Option.map_eq_some_iff.mp hr
    exact htags q t (hi ▸ hq) ht
  · exact h.tag_exists i r t hr ht

theorem Valid.movePath (h : s.Valid) (hid : s.images.contains id = true)
    (hs' : s.movePath id path = .ok (done, s')) : s'.Valid := by
  obtain ⟨hfree, -, rfl⟩ := (h.movePath_eq_ok_iff hid).mp hs'
  have hsep : s.images.Separates (·.path) := h.path_unique
  refine h.modifyImage (hsep.of_changed hfree fun i r hr => ?_) fun r t hr ht =>
    h.tag_exists id r t hr ht
  rw [Numbered.get?_modify] at hr
  split at hr
  · rename_i hi
    obtain ⟨q, -, rfl⟩ := Option.map_eq_some_iff.mp hr
    exact .inl ⟨hi, rfl⟩
  · rename_i hi
    exact .inr ⟨hi, r, hr, rfl⟩

theorem Valid.deleteImage (h : s.Valid) (id : ImageId) : (s.deleteImage id).2.Valid := by
  have hsep : s.images.Separates (·.path) := h.path_unique
  refine h.withImages (hsep.erase id) fun i r t hr ht => ?_
  rw [Numbered.get?_erase] at hr
  split at hr
  · cases hr
  · exact h.tag_exists i r t hr ht

theorem Valid.setImageTags (h : s.Valid) (hid : s.images.contains id = true)
    (hs' : s.setImageTags id labels = .ok s') : s'.Valid := by
  rw [setImageTags_eq_ok hid labels] at hs'
  cases hs'
  have hsep : s.images.Separates (·.path) := h.path_unique
  refine h.modifyImage (hsep.modify id _ fun _ => rfl) fun r t hr ht => ?_
  rw [KeySet.has_ofList, List.contains_iff_mem, List.mem_filterMap] at ht
  obtain ⟨l, -, hl⟩ := ht
  obtain ⟨q, hq, -⟩ := h.tagId?_eq_some_iff.mp hl
  exact Numbered.contains_iff.mpr ⟨q, hq⟩

theorem Valid.addType (h : s.Valid) (hs' : s.addType label symbol color = .ok (id, s')) :
    s'.Valid := by
  obtain ⟨hsymbol, hlabel, -, rfl⟩ := addType_eq_ok_iff.mp hs'
  have hlabels : s.types.Separates (·.label) := h.typeLabel_unique
  have hsymbols : s.types.Separates (·.symbol) := h.symbol_unique
  refine ⟨h.path_unique, hlabels.append hlabel, hsymbols.append hsymbol, h.tagLabel_unique,
    fun i r t hr ht => ?_, h.tag_exists⟩
  obtain ⟨q, hq⟩ := Numbered.contains_iff.mp (h.type_exists i r t hr ht)
  refine Numbered.contains_iff.mpr ⟨q, ?_⟩
  -- The new type has a number that no type had.
  rw [Numbered.get?_append, if_neg (Int.ne_of_lt (Numbered.lt_next hq)), hq]

/-- The tags of a deleted type are left without one, so no tag refers to it. -/
theorem Valid.deleteType (h : s.Valid) (id : TypeId) : (s.deleteType id).2.Valid := by
  have hlabels : s.types.Separates (·.label) := h.typeLabel_unique
  have hsymbols : s.types.Separates (·.symbol) := h.symbol_unique
  have htags : s.tags.Separates (·.label) := h.tagLabel_unique
  refine ⟨h.path_unique, hlabels.erase id, hsymbols.erase id, htags.mapRows _ fun r => ?_,
    fun i r t hr ht => ?_, fun i r t hr ht => ?_⟩
  · split <;> rfl
  · rw [Store.deleteType, Numbered.get?_mapRows, Option.map_eq_some_iff] at hr
    obtain ⟨q, hq, rfl⟩ := hr
    split at ht
    · cases ht
    · rename_i hne
      obtain ⟨u, hu⟩ := Numbered.contains_iff.mp (h.type_exists i q t hq ht)
      refine Numbered.contains_iff.mpr ⟨u, ?_⟩
      rw [Store.deleteType, Numbered.get?_erase, if_neg (fun heq : t = id => hne (heq ▸ ht)), hu]
  · obtain ⟨q, hq⟩ := Numbered.contains_iff.mp (h.tag_exists i r t hr ht)
    exact Numbered.contains_iff.mpr
      ⟨_, (Numbered.get?_mapRows s.tags _ t).trans (congrArg (Option.map _) hq)⟩

/-- Tags that keep their numbers keep the rule that the tags of images exist. -/
theorem Valid.withTags (h : s.Valid) {tags : Numbered TagRow} (hlabels : tags.Separates (·.label))
    (htypes : ∀ i r t, tags.get? i = some r → r.typeId = some t → s.types.contains t = true)
    (hkept : ∀ i r, s.tags.get? i = some r → ∃ q, tags.get? i = some q) : Valid { s with tags } where
  path_unique := h.path_unique
  typeLabel_unique := h.typeLabel_unique
  symbol_unique := h.symbol_unique
  tagLabel_unique := hlabels
  type_exists := htypes
  tag_exists := fun i r t hr ht => by
    obtain ⟨q, hq⟩ := Numbered.contains_iff.mp (h.tag_exists i r t hr ht)
    exact Numbered.contains_iff.mpr (hkept t q hq)

theorem Valid.addTag (h : s.Valid) (hs' : s.addTag label typeId definition = .ok (id, s')) :
    s'.Valid := by
  obtain ⟨hfree, htype, -, rfl⟩ := addTag_eq_ok_iff.mp hs'
  have hsep : s.tags.Separates (·.label) := h.tagLabel_unique
  refine h.withTags (hsep.append hfree) (fun i r t hr ht => ?_) fun i r hr => ⟨r, ?_⟩
  · rw [Numbered.get?_append] at hr
    split at hr
    · cases hr
      exact hasType_iff.mp htype t ht
    · exact h.type_exists i r t hr ht
  · rw [Numbered.get?_append, if_neg (Int.ne_of_lt (Numbered.lt_next hr)), hr]

theorem Valid.updateTag (h : s.Valid) (hs' : s.updateTag label typeId definition = .ok (done, s')) :
    s'.Valid := by
  cases hfind : s.tagId? label with
  | none =>
    rw [Store.updateTag, hfind] at hs'
    cases hs'
    exact h
  | some id =>
    obtain ⟨q, hq, rfl⟩ := h.tagId?_eq_some_iff.mp hfind
    obtain ⟨htype, -, rfl⟩ := (h.updateTag_eq_ok_iff hq).mp hs'
    have hsep : s.tags.Separates (·.label) := h.tagLabel_unique
    refine h.withTags (hsep.modify id _ fun _ => rfl) (fun i r t hr ht => ?_) fun i r hr => ?_
    · rw [Numbered.get?_modify] at hr
      split at hr
      · obtain ⟨u, -, rfl⟩ := Option.map_eq_some_iff.mp hr
        exact hasType_iff.mp htype t ht
      · exact h.type_exists i r t hr ht
    · rw [Numbered.get?_modify]
      split
      · exact ⟨_, by rw [hr, Option.map_some]⟩
      · exact ⟨r, hr⟩

/-- A deleted tag goes from the images too, so no image refers to it. -/
theorem Valid.deleteTag (h : s.Valid) (label : String) : (s.deleteTag label).2.Valid := by
  unfold Store.deleteTag
  split
  · exact h
  · rename_i id hfind
    have hpaths : s.images.Separates (·.path) := h.path_unique
    have htags : s.tags.Separates (·.label) := h.tagLabel_unique
    refine ⟨hpaths.mapRows _ fun _ => rfl, h.typeLabel_unique, h.symbol_unique, htags.erase id,
      fun i r t hr ht => ?_, fun i r t hr ht => ?_⟩
    · rw [Numbered.get?_erase] at hr
      split at hr
      · cases hr
      · exact h.type_exists i r t hr ht
    · rw [Numbered.get?_mapRows, Option.map_eq_some_iff] at hr
      obtain ⟨q, hq, rfl⟩ := hr
      rw [KeySet.has_remove, Bool.and_eq_true, Bool.not_eq_true', decide_eq_false_iff_not] at ht
      obtain ⟨u, hu⟩ := Numbered.contains_iff.mp (h.tag_exists i q t hq ht.2)
      refine Numbered.contains_iff.mpr ⟨u, ?_⟩
      rw [Numbered.get?_erase, if_neg ht.1, hu]

end Gallery.Store
