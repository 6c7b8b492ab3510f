import Gallery.Proofs.Catalog.Edits
import Gallery.Proofs.Table

/-!
# `Gallery.Proofs.Catalog.Integrity` — catalogs stay in order

The tags and the types of a catalog are two tables, and each refers to the other: tags name types, and
types must be told apart by all who display tags.  Operations look at different parts of this, one
doubles as an update, and another has to clear what refers to a type.  Whatever their order, the
catalog stays in order.

## Contents
- `Labeled`, `Typed`, `Numbered` and (elsewhere) `Harmonious`, the parts of the invariant, with one
  lemma for each that says what an operation needs to keep it; `Intact`, all of them.
- `Edits.tag_cases`, where a tag comes from; `labeled_apply` and `intact_apply`, for changes.
- `Catalog.applyAll` and the result for whole runs, `integrity`.
-/

namespace Gallery.Catalog

variable {c c' : Catalog} {fresh : Version} {e : CatalogEdit} {l : String}

/-! ## Tags and their labels -/

/-- Every tag is kept under its label, which is valid. -/
def Labeled (c : Catalog) : Prop :=
  ∀ l t, c.tag? l = some t → t.label = l ∧ isValidLabel l = true

/-- A tag was there before with the same number and label, or it is the one that is inserted. -/
theorem Edits.tag_cases (h : c.Edits fresh e c') {t : Tag} (ht : c'.tag? l = some t) :
    (∃ old, c.tag? l = some old ∧ t.id = old.id ∧ t.label = old.label)
      ∨ e = .insertTag t ∧ t.label = l := by
  -- A tag that is put in place of one with the same label.
  have hreplaced : ∀ {label : String} {old new : Tag}, c.tag? label = some old →
      (c.tags.insert label new).get? l = some t → new.id = old.id ∧ new.label = old.label →
      ∃ old, c.tag? l = some old ∧ t.id = old.id ∧ t.label = old.label := by
    intro label old new hold hget hnew
    rw [Table.get?_insert] at hget
    split at hget
    · rename_i hl
      cases hget
      exact ⟨old, hl ▸ hold, hnew⟩
    · exact ⟨t, hget, rfl, rfl⟩
  cases h with
  | insertType | sameDefinition => exact .inl ⟨t, ht, rfl, rfl⟩
  | removeType =>
    rw [tag?, Table.get?_map, Option.map_eq_some_iff] at ht
    obtain ⟨old, hold, rfl⟩ := ht
    refine .inl ⟨old, hold, ?_⟩
    split <;> exact ⟨rfl, rfl⟩
  | @insertTag new =>
    rw [tag?, Table.get?_insert] at ht
    split at ht
    · rename_i hl
      cases ht
      exact .inr ⟨rfl, hl.symm⟩
    · exact .inl ⟨t, ht, rfl, rfl⟩
  | removeTag =>
    rw [tag?, Table.get?_erase] at ht
    split at ht
    · cases ht
    · exact .inl ⟨t, ht, rfl, rfl⟩
  | setDefinition hold => exact .inl (hreplaced hold ht ⟨rfl, rfl⟩)
  | setType hold => exact .inl (hreplaced hold ht ⟨rfl, rfl⟩)

theorem labeled_empty : Labeled ∅ := fun _ _ h => nomatch h

theorem Labeled.edits (h : c.Labeled) (he : e.Proper) (hc : c.Edits fresh e c') : c'.Labeled := by
  intro l t ht
  rcases hc.tag_cases ht with ⟨old, hold, -, hlabel⟩ | ⟨rfl, rfl⟩
  · rw [hlabel]
    exact h l old hold
  · exact ⟨rfl, he⟩

/-- Changes of types leave the labels alone, and new tags have valid ones. -/
theorem labeled_apply (h : c.Labeled) (change : CatalogChange) :
    (c.apply fresh change).2.Labeled :=
  keeps_apply h change fun _ _ he hc => h.edits he hc

/-! ## Types -/

/-- The types that tags name exist. -/
def Typed (c : Catalog) : Prop :=
  ∀ l t id, c.tag? l = some t → t.typeId = some id → (c.tagType? id).isSome = true

/-- Every type is kept under its number and can be displayed. -/
def Numbered (c : Catalog) : Prop :=
  ∀ id t, c.tagType? id = some t →
    t.id = id ∧ isValidSymbol t.symbol = true ∧ t.color.toNat < 2 ^ 24

/-- A tag that names a type which exists. -/
theorem Typed.insert (h : c.Typed) {t : Tag} {version : Version}
    (ht : ∀ id, t.typeId = some id → (c.tagType? id).isSome = true) :
    Typed { c with tags := c.tags.insert l t, version } := by
  intro l' t' id ht' hid
  rw [tag?, Table.get?_insert] at ht'
  split at ht'
  · cases ht'
    exact ht id hid
  · exact h l' t' id ht' hid

theorem Typed.edits (h : c.Typed) (hc : c.Edits fresh e c') : c'.Typed := by
  cases hc with
  | @insertType new hfree =>
    intro l t id ht hid
    show ((c.types.insert new.id new).get? id).isSome = true
    rw [Table.get?_insert]
    split
    · rfl
    · exact h l t id ht hid
  | @removeType removed old hold =>
    intro l t id ht hid
    rw [tag?, Table.get?_map, Option.map_eq_some_iff] at ht
    obtain ⟨before, hbefore, rfl⟩ := ht
    -- A tag that still names a type names another one, for the rest have been cleared.
    have hkept : before.typeId = some id ∧ id ≠ removed := by
      split at hid
      · cases hid
      · rename_i hother
        exact ⟨hid, fun hsame => hother (hsame ▸ hid)⟩
    show ((c.types.erase removed).get? id).isSome = true
    rw [Table.get?_erase, if_neg hkept.2]
    exact h l before id hbefore hkept.1
  | insertTag hnew hknown => exact h.insert (unknownType?_eq_none_iff.mp hknown)
  | removeTag hold =>
    intro l t id ht hid
    rw [tag?, Table.get?_erase] at ht
    split at ht
    · cases ht
    · exact h l t id ht hid
  | sameDefinition hold => exact h
  | @setDefinition label definition old hold hnew => exact h.insert fun id => h label old id hold
  | setType hold hknown => exact h.insert (unknownType?_eq_none_iff.mp hknown)

theorem Numbered.edits (h : c.Numbered) (he : e.Proper) (hc : c.Edits fresh e c') :
    c'.Numbered := by
  cases hc with
  | insertType hfree =>
    intro id t ht
    rw [tagType?, Table.get?_insert] at ht
    split at ht
    · rename_i hid
      cases ht
      exact ⟨hid.symm, he.2⟩
    · exact h id t ht
  | removeType hold =>
    intro id t ht
    rw [tagType?, Table.get?_erase] at ht
    split at ht
    · cases ht
    · exact h id t ht
  | insertTag | removeTag | sameDefinition | setDefinition | setType => exact h

theorem Harmonious.edits (h : c.Harmonious) (hc : c.Edits fresh e c') : c'.Harmonious := by
  cases hc with
  | insertType hfree => exact h.insertType (insertType_eq_ok_iff.mpr ⟨hfree, rfl⟩)
  | removeType hold =>
    intro i j t u ht hu
    rw [tagType?, Table.get?_erase] at ht hu
    split at ht
    · cases ht
    split at hu
    · cases hu
    · exact h i j t u ht hu
  | insertTag | removeTag | sameDefinition | setDefinition | setType => exact h

/-! ## The invariant -/

/-- The catalog is in order. -/
structure Intact (c : Catalog) : Prop where
  labeled : c.Labeled
  typed : c.Typed
  numbered : c.Numbered
  harmonious : c.Harmonious

theorem intact_empty : Intact ∅ where
  labeled := labeled_empty
  typed := fun _ _ _ h => nomatch h
  numbered := fun _ _ h => nomatch h
  harmonious := fun _ _ _ _ h => nomatch h

theorem Intact.edits (h : c.Intact) (he : e.Proper) (hc : c.Edits fresh e c') : c'.Intact where
  labeled := h.labeled.edits he hc
  typed := h.typed.edits hc
  numbered := h.numbered.edits he hc
  harmonious := h.harmonious.edits hc

/-- **Every change keeps the catalog in order**, also one that is refused. -/
theorem intact_apply (h : c.Intact) (fresh : Version) (change : CatalogChange) :
    (c.apply fresh change).2.Intact :=
  keeps_apply h change fun _ _ he hc => h.edits he hc

/-- The catalog after several changes, whether they succeed or not, each with the version that it may
use. -/
def applyAll (c : Catalog) (changes : List (Version × CatalogChange)) : Catalog :=
  changes.foldl (fun c change => (c.apply change.1 change.2).2) c

theorem intact_applyAll (h : c.Intact) (changes : List (Version × CatalogChange)) :
    (c.applyAll changes).Intact := by
  induction changes generalizing c with
  | nil => exact h
  | cons change changes ih => exact ih (intact_apply h change.1 change.2)

/-! ## What readers see -/

/-- A tag is found with its type. -/
theorem Intact.typeId_of_lookup? (h : c.Intact) {t : Tag} {type? : Option TagType}
    (hl : c.lookup? l = some (t, type?)) : type?.map (·.id) = t.typeId := by
  obtain ⟨t', ht, heq⟩ := Option.map_eq_some_iff.mp hl
  obtain ⟨rfl, rfl⟩ := Prod.mk.inj heq
  cases hid : t'.typeId with
  | none => rfl
  | some id =>
    obtain ⟨type, htype⟩ := Option.isSome_iff_exists.mp (h.typed l t' id ht hid)
    rw [Option.bind_some, htype, Option.map_some, (h.numbered id type htype).1]

/-- Types under two numbers can be told apart. -/
theorem Intact.distinct_types (h : c.Intact) {i j : TypeId} {t u : TagType}
    (ht : c.tagType? i = some t) (hu : c.tagType? j = some u) (hij : i ≠ j) :
    t.label ≠ u.label ∧ t.symbol ≠ u.symbol := by
  have hfree := h.harmonious i j t u ht hu
  have hne : t.id ≠ u.id := by rwa [(h.numbered i t ht).1, (h.numbered j u hu).1]
  simpa [conflict, hne] using hfree

/-- The next number belongs to no type. -/
theorem tagType?_nextTypeId (c : Catalog) : c.tagType? c.nextTypeId = none := by
  rw [Option.eq_none_iff_forall_ne_some]
  intro t ht
  have hle : c.nextTypeId ≤ c.types.lastKey?.getD 0 :=
    Table.le_lastKey?_getD (Option.isSome_of_eq_some ht)
  exact absurd hle (Int.not_le.mpr (Int.lt_add_one_of_le (Int.le_refl _)))

/-- **Catalogs stay in order over whole runs.**  After any changes of an empty catalog, whether they
succeed or not: tags are kept under their labels, which are valid; the type that a tag names exists and
is found with it; two types share neither label nor symbol; types are kept under their numbers, with a
valid symbol and a color of 24 bits; and the numbers for the next tag and the next type are not in
use. -/
theorem integrity (changes : List (Version × CatalogChange)) :
    let c := applyAll ∅ changes
    (∀ l t, c.tag? l = some t → t.label = l ∧ isValidLabel l = true)
      ∧ (∀ l t id, c.tag? l = some t → t.typeId = some id → (c.tagType? id).isSome = true)
      ∧ (∀ l t type?, c.lookup? l = some (t, type?) → type?.map (·.id) = t.typeId)
      ∧ (∀ i j t u, c.tagType? i = some t → c.tagType? j = some u → i ≠ j →
          t.label ≠ u.label ∧ t.symbol ≠ u.symbol)
      ∧ (∀ i t, c.tagType? i = some t →
          t.id = i ∧ isValidSymbol t.symbol = true ∧ t.color.toNat < 2 ^ 24)
      ∧ (∀ l t, c.tag? l = some t → t.id ≠ c.nextTagId)
      ∧ c.tagType? c.nextTypeId = none := by
  intro c
  have h : c.Intact := intact_applyAll intact_empty changes
  refine ⟨h.labeled, h.typed, fun l t type? => h.typeId_of_lookup?, ?_, h.numbered, ?_, ?_⟩
  · exact fun i j t u => h.distinct_types
  · exact fun l t ht => Int.ne_of_lt (lt_nextTagId ht)
  · exact tagType?_nextTypeId c

end Gallery.Catalog
