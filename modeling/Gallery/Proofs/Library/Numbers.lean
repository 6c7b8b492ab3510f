import Gallery.Proofs.Library.Association

/-!
# `Gallery.Proofs.Library.Numbers` — when numbers tell tags apart

Images are kept under their numbers, so no two share one.  Tags are kept under their labels, and their
numbers come from two sources: a tag that is created gets one above all others, a tag that is inserted
brings its own, which is not compared with those in use.  So the numbers of tags are different exactly
as long as no tag is inserted with the number of another.  All this is said of runs that stay within
the numbers of 64 bits, above the largest of which nothing can be created.

## Contents
- `Catalog.Distinct`, the property, and `Catalog.Reuses`, what breaks it; `Distinct.edit_iff`, nothing
  else does.
- `Library.edit?`, the operation on the catalog that a change is, and `Library.catalog_applyRaw`.
- `Snapshot.Uses`, the numbers in use; `Library.uses_applyRaw`, a change brings into use no number but
  the one that it gives.
- `RawChange.Reuses`, a tag is inserted with the number of another, with `distinct_applyRaw_iff` for one
  change and `distinct_after_iff` for a whole run.
- The result, `numbers_identify`, beside a library in which two tags have one number
  (`not_distinct_of_reachable`).
-/

namespace Gallery

/-! ## Catalogs -/

namespace Catalog

/-- No two tags have the same number. -/
def Distinct (c : Catalog) : Prop :=
  ∀ l m t u, c.tag? l = some t → c.tag? m = some u → t.id = u.id → l = m

theorem distinct_empty : Distinct ∅ := fun _ _ _ _ h => nomatch h

/-- A tag is added and has the number of another one. -/
def Reuses (c : Catalog) (t : Tag) : Prop :=
  c.tag? t.label = none ∧ c.unknownType? t.typeId = none ∧ ∃ l u, c.tag? l = some u ∧ u.id = t.id

variable {c c' : Catalog} {fresh : Version} {e : CatalogEdit}

theorem Distinct.edits (h : c.Distinct) (hc : c.Edits fresh e c')
    (hfree : ∀ t, e = .insertTag t → ¬c.Reuses t) : c'.Distinct := by
  -- The number of the inserted tag is that of no tag that was there before.
  have hother : ∀ l t u, e = .insertTag t → c.tag? l = some u → t.id ≠ u.id := by
    rintro l t u rfl hu hid
    cases hc with
    | insertTag hnew hknown => exact hfree t rfl ⟨hnew, hknown, l, u, hu, hid.symm⟩
  intro l m t u ht hu hid
  rcases hc.tag_cases ht with ⟨t₀, ht₀, hidt, -⟩ | ⟨het, hlt⟩
  · rcases hc.tag_cases hu with ⟨u₀, hu₀, hidu, -⟩ | ⟨heu, -⟩
    · exact h l m t₀ u₀ ht₀ hu₀ (by rw [← hidt, ← hidu, hid])
    · exact absurd (hid.symm.trans hidt) (hother l u t₀ heu ht₀)
  · rcases hc.tag_cases hu with ⟨u₀, hu₀, hidu, -⟩ | ⟨heu, hlu⟩
    · exact absurd (hid.trans hidu) (hother m t u₀ het hu₀)
    · obtain rfl := CatalogEdit.insertTag.inj (het.symm.trans heu)
      exact hlt.symm.trans hlu

/-- Two tags have one number after it has been given again. -/
theorem Reuses.not_distinct {t : Tag} (h : c.Reuses t) :
    ¬(c.edit fresh (.insertTag t)).2.Distinct := by
  obtain ⟨hnew, hknown, l, u, hu, hid⟩ := h
  have hinsert : c.insertTag fresh t
      = .ok { c with tags := c.tags.insert t.label t, version := fresh } :=
    insertTag_eq_ok_iff.mpr ⟨hnew, hknown, rfl⟩
  have hl : l ≠ t.label := by
    rintro rfl
    cases hnew.symm.trans hu
  intro hdistinct
  rw [edit, hinsert] at hdistinct
  refine hl (hdistinct l t.label u t ?_ (Table.get?_insert_self ..) hid)
  exact (Table.get?_insert_of_ne _ _ hl).trans hu

/-- A change inserts a tag if it names the parts of one with a valid label. -/
theorem made_eq_insertTag_iff {change : CatalogChange} {t : Tag} :
    change.made = .ok (.insertTag t) ↔
      isValidLabel t.label = true ∧ change = .insertTag t.id t.label t.typeId t.definition := by
  cases change with
  | insertTag id label typeId definition =>
    rw [CatalogChange.made, Tag.make]
    constructor
    · intro h
      split at h
      · rename_i hlabel
        cases h
        exact ⟨hlabel, rfl⟩
      · cases h
    · rintro ⟨hlabel, h⟩
      cases h
      rw [if_pos hlabel]
      rfl
  | insertType id label symbol color =>
    rw [CatalogChange.made]
    constructor
    · intro h
      cases hmake : TagType.make id label symbol color <;> rw [hmake] at h <;> cases h
    · rintro ⟨-, h⟩
      cases h
  | removeType | removeTag | setDefinition | setType =>
    constructor
    · intro h
      cases h
    · rintro ⟨-, h⟩
      cases h

/-- **Numbers stay different** over all operations but those that insert a tag with the number of
another. -/
theorem Distinct.edit_iff (h : c.Distinct) (e : CatalogEdit) :
    (c.edit fresh e).2.Distinct ↔ ∀ t, e = .insertTag t → ¬c.Reuses t := by
  constructor
  · rintro hdistinct t rfl hreuses
    exact hreuses.not_distinct hdistinct
  · intro hfree
    exact keeps_edit h fun c' hc => h.edits hc hfree

/-- A type was there before, or it is the one that is inserted. -/
theorem Edits.type_cases (h : c.Edits fresh e c') {i : TypeId} (hi : c'.types.contains i = true) :
    c.types.contains i = true ∨ ∃ t, e = .insertType t ∧ t.id = i := by
  cases h with
  | @insertType t =>
    rw [Table.contains_insert, Bool.or_eq_true, decide_eq_true_eq] at hi
    exact hi.symm.imp_right fun hid => ⟨t, rfl, hid.symm⟩
  | removeType =>
    rw [Table.contains_erase, Bool.and_eq_true] at hi
    exact .inl hi.2
  | insertTag | removeTag | sameDefinition | setDefinition | setType => exact .inl hi

/-- A change that inserts a type has its number. -/
theorem of_made_eq_insertType {change : CatalogChange} {t : TagType}
    (h : change.made = .ok (.insertType t)) :
    ∃ label symbol color, change = .insertType t.id label symbol color := by
  cases change with
  | insertType id label symbol color =>
    rw [CatalogChange.made, TagType.make] at h
    split at h
    · cases h
    split at h
    · cases h
    · cases h
      exact ⟨_, _, _, rfl⟩
  | insertTag id label typeId definition =>
    rw [CatalogChange.made] at h
    cases hmake : Tag.make id label typeId definition <;> rw [hmake] at h <;> cases h
  | removeType | removeTag | setDefinition | setType => cases h

end Catalog

/-! ## Images -/

/-- A change registers no image but the one that it inserts. -/
theorem Index.registered_apply {x : Index} {i : ImageId} (change : IndexChange)
    (h : (x.apply change).2.images.contains i = true) :
    x.images.contains i = true ∨ ∃ image, change = .insertImage image ∧ image.id = i := by
  cases change with
  | insertImage image =>
    rw [apply, settleDone_snd, insertImage] at h
    split at h
    · exact .inl h
    split at h
    · exact .inl h
    · replace h : (x.images.insert image.id image).contains i = true := h
      rw [Table.contains_insert, Bool.or_eq_true, decide_eq_true_eq] at h
      exact h.symm.imp_right fun hid => ⟨image, rfl, hid.symm⟩
  | removeImage id =>
    rw [apply, settle_snd, removeImage] at h
    split at h
    · exact .inl h
    · replace h : (x.images.erase id).contains i = true := h
      rw [Table.contains_erase, Bool.and_eq_true] at h
      exact .inl h.2
  | moveImage id path =>
    rw [apply, settleDone_snd, moveImage] at h
    split at h
    · exact .inl h
    split at h
    · exact .inl h
    · rename_i image himage
      exact .inl ((Table.contains_insert_of_some himage i _).symm.trans h)
  | setFingerprint id fingerprint =>
    rw [apply, settleDone_snd, setFingerprint] at h
    split at h
    · exact .inl h
    · rename_i image himage
      exact .inl ((Table.contains_insert_of_some himage i _).symm.trans h)
  | tag id label =>
    rw [apply, settle_snd, tag] at h
    split at h
    · exact .inl h
    · dsimp only at h
      split at h <;> exact .inl h
  | untag id label =>
    rw [apply, settle_snd, untag] at h
    split at h
    · exact .inl h
    · dsimp only at h
      split at h <;> exact .inl h
  | setLabels id labels =>
    rw [apply, settleDone_snd, setLabels] at h
    split at h <;> exact .inl h
  | dropLabel label =>
    rw [apply, dropLabel] at h
    split at h <;> exact .inl h

/-! ## The operation of a change -/

namespace Library

variable {lib : Library} {change : RawChange} {i : Int}

/-- The operation on the catalog that a change is, if its checks do not refuse it. -/
def edit? (lib : Library) : RawChange → Option CatalogEdit
  | .checked change => (lib.catalogChange? change).bind fun c => c.made.toOption
  | .insertTagType t => some (.insertType t)
  | .insertTag t => some (.insertTag t)

theorem edit?_checked_eq_some_iff {change : LibraryChange} {e : CatalogEdit} :
    lib.edit? (.checked change) = some e ↔
      ∃ c, lib.catalogChange? change = some c ∧ c.made = .ok e := by
  rw [edit?, Option.bind_eq_some_iff]
  refine exists_congr fun c => and_congr_right fun _ => ?_
  cases c.made <;> simp [Except.toOption]

/-- A change does its operation to the catalog. -/
theorem catalog_applyRaw (lib : Library) (change : RawChange) :
    (lib.applyRaw change).2.snapshot.catalog = match lib.edit? change with
      | none => lib.snapshot.catalog
      | some e => (lib.snapshot.catalog.edit lib.fresh e).2 := by
  cases change with
  | checked change =>
    rw [applyRaw, catalog_apply, edit?]
    cases lib.catalogChange? change with
    | none => rfl
    | some c =>
      dsimp only [Option.bind_some]
      rw [Catalog.apply_eq]
      cases c.made <;> rfl
  | insertTagType t =>
    refine Eq.trans ?_ (settleDone_snd ..).symm
    show (lib.insertTagType t).2.snapshot.catalog = _
    rw [insertTagType, mutateCatalog, mutate_snapshot, Snapshot.onCatalog]
    cases lib.snapshot.catalog.insertType t <;> rfl
  | insertTag t =>
    refine Eq.trans ?_ (settleDone_snd ..).symm
    show (lib.insertTag t).2.snapshot.catalog = _
    rw [insertTag, mutateCatalog, mutate_snapshot, Snapshot.onCatalog]
    cases lib.snapshot.catalog.insertTag lib.fresh t <;> rfl

/-- What holds of a catalog and of all that the operation of a change makes of it holds afterwards. -/
theorem keeps_applyRaw {P : Catalog → Prop} (h : P lib.snapshot.catalog)
    (hedits : ∀ e c', lib.edit? change = some e → lib.snapshot.catalog.Edits lib.fresh e c' → P c') :
    P (lib.applyRaw change).2.snapshot.catalog := by
  rw [catalog_applyRaw]
  cases he : lib.edit? change with
  | none => exact h
  | some e => exact Catalog.keeps_edit h fun c' => hedits e c' he

/-! ### Numbers that are given -/

/-- An image that a change inserts has the number that the change gives. -/
theorem number?_of_insertImage {change : LibraryChange} {image : Image}
    (h : lib.indexChange? change = some (.insertImage image)) :
    (RawChange.checked change).number? lib.snapshot = some image.id := by
  cases change <;> simp only [indexChange?, Option.map_eq_some_iff, reduceCtorEq, and_false,
    exists_false, Option.some.injEq, IndexChange.insertImage.injEq] at h
  all_goals
    subst h
    rfl

/-- So has a tag. -/
theorem number?_of_insertTag {t : Tag} (h : lib.edit? change = some (.insertTag t)) :
    change.number? lib.snapshot = some t.id := by
  cases change with
  | checked change =>
    obtain ⟨c, hc, hmade⟩ := edit?_checked_eq_some_iff.mp h
    obtain ⟨-, rfl⟩ := Catalog.made_eq_insertTag_iff.mp hmade
    cases change <;> simp only [catalogChange?, reduceCtorEq, Option.some.injEq,
      CatalogChange.insertTag.injEq, Option.ite_none_left_eq_some, and_false] at hc
    all_goals exact congrArg some hc.1
  | insertTagType t' => cases h
  | insertTag t' =>
    cases h
    rfl

/-- So has a type. -/
theorem number?_of_insertType {t : TagType} (h : lib.edit? change = some (.insertType t)) :
    change.number? lib.snapshot = some t.id := by
  cases change with
  | checked change =>
    obtain ⟨c, hc, hmade⟩ := edit?_checked_eq_some_iff.mp h
    obtain ⟨label, symbol, color, rfl⟩ := Catalog.of_made_eq_insertType hmade
    cases change <;> simp only [catalogChange?, reduceCtorEq, Option.some.injEq,
      CatalogChange.insertType.injEq, Option.ite_none_left_eq_some, and_false] at hc
    all_goals exact congrArg some hc.1
  | insertTagType t' =>
    cases h
    rfl
  | insertTag t' => cases h

end Library

/-! ## Numbers in use -/

/-- A number is that of an image, of a tag or of a type. -/
def Snapshot.Uses (s : Snapshot) (i : Int) : Prop :=
  s.index.images.contains i = true ∨ (∃ l t, s.catalog.tag? l = some t ∧ t.id = i)
    ∨ s.catalog.types.contains i = true

namespace Library

variable {lib : Library} {change : RawChange} {i : Int}

/-- A change registers no image but the one that it gives a number. -/
theorem registered_applyRaw
    (h : (lib.applyRaw change).2.snapshot.index.images.contains i = true) :
    lib.snapshot.index.images.contains i = true ∨ change.number? lib.snapshot = some i := by
  cases change with
  | checked change =>
    rw [applyRaw, index_apply] at h
    cases hc : lib.indexChange? change with
    | none =>
      rw [hc] at h
      exact .inl h
    | some c =>
      rw [hc] at h
      refine (Index.registered_apply c h).imp_right ?_
      rintro ⟨image, rfl, rfl⟩
      exact number?_of_insertImage hc
  | insertTagType t =>
    exact .inl (index_mutateCatalog lib [] (fun c => plain (c.insertType t)) ▸ h)
  | insertTag t =>
    exact .inl (index_mutateCatalog lib [t.label] (fun c => plain (c.insertTag lib.fresh t)) ▸ h)

theorem coherent_applyRaw (h : lib.snapshot.index.Coherent) (change : RawChange) :
    (lib.applyRaw change).2.snapshot.index.Coherent := by
  cases change with
  | checked change =>
    rw [applyRaw, index_apply]
    cases lib.indexChange? change with
    | none => exact h
    | some c => exact Index.coherent_apply h c
  | insertTagType t =>
    exact (index_mutateCatalog lib [] (fun c => plain (c.insertType t))).symm ▸ h
  | insertTag t =>
    exact (index_mutateCatalog lib [t.label] (fun c => plain (c.insertTag lib.fresh t))).symm ▸ h

/-- **A change brings into use** no number but the one that it gives. -/
theorem uses_applyRaw (h : (lib.applyRaw change).2.snapshot.Uses i) :
    lib.snapshot.Uses i ∨ change.number? lib.snapshot = some i := by
  rcases h with himage | ⟨l, t, ht, hid⟩ | htype
  · exact (registered_applyRaw himage).imp_left .inl
  · revert l t
    refine keeps_applyRaw (P := fun c => ∀ l t, c.tag? l = some t → t.id = i → _) ?_ ?_
    · exact fun l t ht hid => .inl (.inr (.inl ⟨l, t, ht, hid⟩))
    · rintro e c' he hc l t ht rfl
      rcases hc.tag_cases ht with ⟨old, hold, hid, -⟩ | ⟨rfl, -⟩
      · exact .inl (.inr (.inl ⟨l, old, hold, hid.symm⟩))
      · exact .inr (number?_of_insertTag he)
  · revert htype
    refine keeps_applyRaw (P := fun c => c.types.contains i = true → _) ?_ ?_
    · exact fun htype => .inl (.inr (.inr htype))
    · intro e c' he hc htype
      rcases hc.type_cases htype with hold | ⟨t, rfl, rfl⟩
      · exact .inl (.inr (.inr hold))
      · exact .inr (number?_of_insertType he)

end Library

/-! ## Changes that give a number again -/

/-- A tag is inserted into a library and has the number of another one. -/
def RawChange.Reuses (c : Catalog) : RawChange → Prop
  | .checked (.insertTag id label typeId definition) =>
    isValidLabel label = true ∧ c.Reuses ⟨id, label, typeId, definition⟩
  | .insertTag t => c.Reuses t
  | _ => False

namespace Library

variable {lib : Library}

/-- Of all changes, only the insertion of a tag can give a number again; a tag that is created gets a
number above all others. -/
theorem reuses_iff (lib : Library) (change : RawChange) :
    change.Reuses lib.snapshot.catalog ↔
      ∃ t, lib.edit? change = some (.insertTag t) ∧ lib.snapshot.catalog.Reuses t := by
  constructor
  · intro h
    cases change with
    | checked change =>
      cases change with
      | insertTag id label typeId definition =>
        refine ⟨⟨id, label, typeId, definition⟩, edit?_checked_eq_some_iff.mpr ⟨_, rfl, ?_⟩, h.2⟩
        exact Catalog.made_eq_insertTag_iff.mpr ⟨h.1, rfl⟩
      | registerImage | insertImage | removeImage | moveImage | setFingerprint | tagImage | untagImage
      | setImageTags | createTagType | insertTagType | removeTagType | createTag | redefineTag
      | setTagType | removeTag => exact h.elim
    | insertTagType t => exact h.elim
    | insertTag t => exact ⟨t, rfl, h⟩
  · rintro ⟨t, he, hreuses⟩
    cases change with
    | checked change =>
      obtain ⟨c, hc, hmade⟩ := edit?_checked_eq_some_iff.mp he
      obtain ⟨hlabel, rfl⟩ := Catalog.made_eq_insertTag_iff.mp hmade
      cases change <;> simp only [catalogChange?, reduceCtorEq, Option.some.injEq,
        CatalogChange.insertTag.injEq, Option.ite_none_left_eq_some, and_false] at hc
      case createTag =>
        obtain ⟨-, -, l, u, hu, hid⟩ := hreuses
        exact absurd (hid.trans hc.1.symm) (Int.ne_of_lt (Catalog.lt_nextTagId hu))
      case insertTag =>
        obtain ⟨rfl, rfl, rfl, rfl⟩ := hc
        exact ⟨hlabel, hreuses⟩
    | insertTagType t' => cases he
    | insertTag t' =>
      cases he
      exact hreuses

theorem distinct_applyRaw_iff (h : lib.snapshot.catalog.Distinct) (change : RawChange) :
    (lib.applyRaw change).2.snapshot.catalog.Distinct ↔ ¬change.Reuses lib.snapshot.catalog := by
  rw [catalog_applyRaw, reuses_iff]
  cases he : lib.edit? change with
  | none => exact iff_of_true h fun ⟨t, ht, _⟩ => nomatch ht
  | some e =>
    refine (h.edit_iff e).trans ?_
    simp only [Option.some.injEq, not_exists, not_and]

/-! ## Whole runs -/

/-- The library after the first changes of a run that begins with an empty one. -/
def after (similarity : Similarity) (changes : List RawChange) (n : Nat) : Library :=
  ({ similarity } : Library).applyAllRaw (changes.take n)

variable {similarity : Similarity} {changes : List RawChange} {n : Nat}

theorem after_succ {change : RawChange} (h : changes[n]? = some change) :
    after similarity changes (n + 1) = ((after similarity changes n).applyRaw change).2 := by
  rw [after, List.take_add_one, h, Option.toList_some, applyAllRaw, List.foldl_append]
  rfl

/-- The run has come to its end already. -/
theorem after_succ_of_none (h : changes[n]? = none) :
    after similarity changes (n + 1) = after similarity changes n := by
  rw [after, List.take_add_one, h, Option.toList_none, List.append_nil, after]

/-- **What every change of a run keeps** holds all the time. -/
theorem after_induction {P : Library → Prop} (h : P { similarity })
    (hstep : ∀ n change, changes[n]? = some change → P (after similarity changes n) →
      P ((after similarity changes n).applyRaw change).2) (n : Nat) :
    P (after similarity changes n) := by
  induction n with
  | zero => exact h
  | succ n ih =>
    cases hchange : changes[n]? with
    | none => rwa [after_succ_of_none hchange]
    | some change =>
      rw [after_succ hchange]
      exact hstep n change hchange ih

/-- The numbers that a run gives are given one by one. -/
theorem Numbers.isNumber {lib : Library} {i : Int} (h : lib.Numbers changes) {change : RawChange}
    (hchange : changes[n]? = some change)
    (hi : change.number? (lib.applyAllRaw (changes.take n)).snapshot = some i) : IsNumber i := by
  induction changes generalizing lib n with
  | nil => cases hchange
  | cons c changes ih =>
    cases n with
    | zero =>
      obtain rfl := Option.some.inj hchange
      exact h.1 i hi
    | succ n => exact ih h.2 hchange hi

/-- All numbers in use have 64 bits as long as those that are given have. -/
theorem isNumber_after (h : ({ similarity } : Library).Numbers changes) (n : Nat) :
    ∀ i, (after similarity changes n).snapshot.Uses i → IsNumber i := by
  refine after_induction (P := fun lib => ∀ i, lib.snapshot.Uses i → IsNumber i) ?_ ?_ n
  · rintro i (h | ⟨l, t, h, -⟩ | h) <;> cases h
  · intro n change hchange ih i hi
    rcases uses_applyRaw hi with hold | hgiven
    · exact ih i hold
    · exact h.isNumber hchange hgiven

theorem coherent_after (similarity : Similarity) (changes : List RawChange) (n : Nat) :
    (after similarity changes n).snapshot.index.Coherent := by
  refine after_induction (P := fun lib => lib.snapshot.index.Coherent) Index.coherent_empty ?_ n
  intro n change _ ih
  exact coherent_applyRaw ih change

/-- **Over a whole run** numbers are different at every moment if and only if no change of it inserts
a tag with the number of another. -/
theorem distinct_after_iff (similarity : Similarity) (changes : List RawChange) :
    (∀ n, (after similarity changes n).snapshot.catalog.Distinct) ↔
      ∀ (n : Nat) (change : RawChange), changes[n]? = some change →
        ¬change.Reuses (after similarity changes n).snapshot.catalog := by
  constructor
  · intro hall n change hchange
    refine (distinct_applyRaw_iff (hall n) change).mp ?_
    rw [← after_succ hchange]
    exact hall (n + 1)
  · intro hfree
    refine after_induction (P := fun lib => lib.snapshot.catalog.Distinct) Catalog.distinct_empty ?_
    intro n change hchange ih
    exact (distinct_applyRaw_iff ih change).mpr (hfree n change hchange)

/-- **When numbers identify.**  Let changes begin with an empty library and give numbers of 64 bits.
Then all numbers in use have 64 bits all the time, an image is told by its number, and the numbers of
tags have been different all the time if and only if no tag was inserted with the number of another. -/
theorem numbers_identify (similarity : Similarity) (changes : List RawChange)
    (hnumbers : ({ similarity } : Library).Numbers changes) :
    (∀ n i, (after similarity changes n).snapshot.Uses i → IsNumber i)
      ∧ (∀ n i j a b, (after similarity changes n).snapshot.index.images.get? i = some a →
          (after similarity changes n).snapshot.index.images.get? j = some b →
          a.id = b.id → i = j ∧ a = b)
      ∧ ((∀ n, (after similarity changes n).snapshot.catalog.Distinct) ↔
        ∀ (n : Nat) (change : RawChange), changes[n]? = some change →
          ¬change.Reuses (after similarity changes n).snapshot.catalog) := by
  refine ⟨isNumber_after hnumbers, fun n i j a b ha hb hid => ?_,
    distinct_after_iff similarity changes⟩
  have hcoherent := coherent_after similarity changes n
  have hij : i = j := by
    rw [← hcoherent.image_id i a ha, ← hcoherent.image_id j b hb, hid]
  subst hij
  exact ⟨rfl, Option.some.inj (ha.symm.trans hb)⟩

/-- A tag is created after another one is gone, and one is inserted with the largest number. -/
def replacement : List RawChange :=
  [.checked (.createTag "cat" none none), .checked (.createTag "dog" none none),
    .checked (.removeTag "cat"), .checked (.createTag "owl" none none),
    .insertTag ⟨Int64.maxValue.toInt, "cat", none, none⟩]

/-- The numbers of the tags are different all the time. -/
theorem numbers_identify_replacement :
    ({} : Library).Numbers replacement
      ∧ ∀ n, (after default replacement n).snapshot.catalog.Distinct := by
  have hnumbers : ({} : Library).Numbers replacement := by decide +kernel
  refine ⟨hnumbers, (numbers_identify default replacement hnumbers).2.2.mpr ?_⟩
  intro n change hchange
  match n with
  | 0 | 1 | 2 | 3 =>
    obtain rfl := Option.some.inj hchange
    exact not_false
  | 4 =>
    obtain rfl := Option.some.inj hchange
    rintro ⟨-, -, l, u, hu, hid⟩
    have hids : (after default replacement 4).snapshot.catalog.tags.values.map (·.id) = [2, 3] := by
      decide +kernel
    have hmem := List.mem_map_of_mem (f := (·.id)) (Table.mem_values_iff.mpr ⟨l, hu⟩)
    rw [hids, hid] at hmem
    exact absurd hmem (by decide)
  | n + 5 => cases hchange

/-- Two tags are inserted with one number. -/
def reuse : List LibraryChange := [.insertTag 1 "cat" none none, .insertTag 1 "dog" none none]

/-- There is a library in which two tags have one number. -/
theorem not_distinct_of_reachable :
    ¬∀ lib : Library, lib.Reachable → lib.snapshot.catalog.Distinct := by
  intro h
  have hdistinct := h _ ⟨default, reuse, rfl⟩
  have hcat : (({} : Library).applyAll reuse).snapshot.catalog.tag? "cat"
      = some ⟨1, "cat", none, none⟩ := by decide +kernel
  have hdog : (({} : Library).applyAll reuse).snapshot.catalog.tag? "dog"
      = some ⟨1, "dog", none, none⟩ := by decide +kernel
  exact absurd (hdistinct "cat" "dog" _ _ hcat hdog rfl) (by decide)

end Library

end Gallery
