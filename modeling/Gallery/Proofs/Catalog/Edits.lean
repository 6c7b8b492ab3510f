import Gallery.Catalog.Change
import Gallery.Proofs.Catalog.Outcomes
import Mathlib.Algebra.Group.Nat.Defs

/-!
# `Gallery.Proofs.Catalog.Edits` — the operations of a catalog

A change of a catalog first makes the type or the tag that it names and then does one of six
operations.  What an operation may do is said once, checks included, so that an invariant of
catalogs is shown by one case for each way in which an operation succeeds.

## Contents
- `CatalogEdit`, the operations as data, and `Catalog.edit`; `apply_eq`, a change is an operation on
  what it makes.
- `CatalogEdit.Proper`, operations on types and tags that can be made.
- `Catalog.Edits`, the ways in which an operation succeeds, with one lemma for each operation;
  `edit_cases`, there is no other, and an operation that is refused leaves the catalog.
-/

namespace Gallery

/-- An operation of a catalog.  Types and tags are inserted as they are given. -/
inductive CatalogEdit where
  | insertType (t : TagType)
  | removeType (id : TypeId)
  | insertTag (t : Tag)
  | removeTag (label : String)
  | setDefinition (label : String) (definition : Option String)
  | setType (label : String) (typeId : Option TypeId)

/-- Does an operation; if labels or definitions change, the catalog gets the version `fresh`. -/
def Catalog.edit (c : Catalog) (fresh : Version) : CatalogEdit → Except LibraryError Reply × Catalog
  | .insertType t => settleDone c (c.insertType t)
  | .removeType id => settle c .tagType (c.removeType id)
  | .insertTag t => settleDone c (c.insertTag fresh t)
  | .removeTag label => settle c .tag (c.removeTag fresh label)
  | .setDefinition label definition => settleDone c (c.setDefinition fresh label definition)
  | .setType label typeId => settleDone c (c.setType label typeId)

/-! ## Changes -/

/-- The operation of a change, on the type or the tag that it makes. -/
def CatalogChange.made : CatalogChange → Except LibraryError CatalogEdit
  | .insertType id label symbol color => (TagType.make id label symbol color).map .insertType
  | .removeType id => .ok (.removeType id)
  | .insertTag id label typeId definition => (Tag.make id label typeId definition).map .insertTag
  | .removeTag label => .ok (.removeTag label)
  | .setDefinition label definition => .ok (.setDefinition label definition)
  | .setType label typeId => .ok (.setType label typeId)

/-- What is inserted could have been made. -/
def CatalogEdit.Proper : CatalogEdit → Prop
  | .insertType t => TagType.isValidLabel t.label = true ∧ isValidSymbol t.symbol = true
      ∧ t.color.toNat < 2 ^ 24
  | .insertTag t => isValidLabel t.label = true
  | _ => True

variable {c c' : Catalog} {fresh : Version} {e : CatalogEdit}

/-- A change does the operation on what it makes, if that can be made. -/
theorem Catalog.apply_eq (c : Catalog) (fresh : Version) (change : CatalogChange) :
    c.apply fresh change = match change.made with
      | .error e => (.error e, c)
      | .ok e => c.edit fresh e := by
  cases change with
  | insertType id label symbol color =>
    rw [apply, CatalogChange.made]
    cases TagType.make id label symbol color <;> rfl
  | insertTag id label typeId definition =>
    rw [apply, CatalogChange.made]
    cases Tag.make id label typeId definition <;> rfl
  | removeType | removeTag | setDefinition | setType => rfl

/-- A clipped color has 24 bits. -/
theorem TagType.toNat_clipColor_lt (color : UInt32) : (clipColor color).toNat < 2 ^ 24 := by
  rw [clipColor, UInt32.toNat_and]
  exact Nat.lt_of_le_of_lt Nat.and_le_right (by decide)

theorem CatalogChange.proper_of_made {change : CatalogChange} (h : change.made = .ok e) :
    e.Proper := by
  cases change with
  | insertType id label symbol color =>
    rw [made, TagType.make] at h
    split at h
    · cases h
    split at h
    · cases h
    · rename_i hlabel hsymbol
      cases h
      rw [Bool.not_eq_true, Bool.not_eq_false'] at hlabel hsymbol
      exact ⟨hlabel, hsymbol, TagType.toNat_clipColor_lt color⟩
  | insertTag id label typeId definition =>
    rw [made, Tag.make] at h
    split at h
    · rename_i hlabel
      cases h
      exact hlabel
    · cases h
  | removeType | removeTag | setDefinition | setType =>
    cases h
    exact trivial

/-! ## Operations -/

namespace Catalog

/-- The ways in which an operation succeeds: what it has found and the catalog that it leaves. -/
inductive Edits (c : Catalog) (fresh : Version) : CatalogEdit → Catalog → Prop
  | insertType {t : TagType} (hfree : ∀ u ∈ c.types.values, conflict u t = false) :
      Edits c fresh (.insertType t) { c with types := c.types.insert t.id t }
  | removeType {id : TypeId} {t : TagType} (ht : c.tagType? id = some t) :
      Edits c fresh (.removeType id) { c with
        types := c.types.erase id
        tags := c.tags.map fun _ tag =>
          if tag.typeId = some id then { tag with typeId := none } else tag }
  | insertTag {t : Tag} (hnew : c.tag? t.label = none) (hknown : c.unknownType? t.typeId = none) :
      Edits c fresh (.insertTag t) { c with tags := c.tags.insert t.label t, version := fresh }
  | removeTag {label : String} {t : Tag} (ht : c.tag? label = some t) :
      Edits c fresh (.removeTag label) { c with tags := c.tags.erase label, version := fresh }
  /-- The tag has the definition already. -/
  | sameDefinition {label : String} {t : Tag} (ht : c.tag? label = some t) :
      Edits c fresh (.setDefinition label t.definition) c
  | setDefinition {label : String} {definition : Option String} {t : Tag}
      (ht : c.tag? label = some t) (hnew : t.definition ≠ definition) :
      Edits c fresh (.setDefinition label definition)
        { c with tags := c.tags.insert label { t with definition }, version := fresh }
  | setType {label : String} {typeId : Option TypeId} {t : Tag} (ht : c.tag? label = some t)
      (hknown : c.unknownType? typeId = none) :
      Edits c fresh (.setType label typeId)
        { c with tags := c.tags.insert label { t with typeId } }

theorem edits_insertType {t : TagType} (h : c.insertType t = .ok c') :
    c.Edits fresh (.insertType t) c' := by
  obtain ⟨hfree, rfl⟩ := insertType_eq_ok_iff.mp h
  exact .insertType hfree

theorem edits_removeType {id : TypeId} {t : TagType} (h : c.removeType id = .ok (t, c')) :
    c.Edits fresh (.removeType id) c' := by
  unfold removeType at h
  split at h
  · cases h
  · rename_i u hu
    cases h
    exact .removeType hu

theorem edits_insertTag {t : Tag} (h : c.insertTag fresh t = .ok c') :
    c.Edits fresh (.insertTag t) c' := by
  obtain ⟨hnew, hknown, rfl⟩ := insertTag_eq_ok_iff.mp h
  exact .insertTag hnew hknown

theorem edits_removeTag {label : String} {t : Tag} (h : c.removeTag fresh label = .ok (t, c')) :
    c.Edits fresh (.removeTag label) c' := by
  unfold removeTag at h
  split at h
  · cases h
  · rename_i u hu
    cases h
    exact .removeTag hu

theorem edits_setDefinition {label : String} {definition : Option String}
    (h : c.setDefinition fresh label definition = .ok c') :
    c.Edits fresh (.setDefinition label definition) c' := by
  unfold setDefinition at h
  split at h
  · cases h
  · rename_i t ht
    split at h
    · rename_i hsame
      cases h
      subst hsame
      exact .sameDefinition ht
    · rename_i hnew
      cases h
      exact .setDefinition ht hnew

theorem edits_setType {label : String} {typeId : Option TypeId}
    (h : c.setType label typeId = .ok c') : c.Edits fresh (.setType label typeId) c' := by
  unfold setType at h
  split at h
  · cases h
  · rename_i hknown
    split at h
    · cases h
    · rename_i t ht
      cases h
      exact .setType ht hknown

/-- The answer is an error and the catalog is left, or the operation succeeds in one of its ways. -/
def Settled (c : Catalog) (fresh : Version) (e : CatalogEdit)
    (r : Except LibraryError Reply × Catalog) : Prop :=
  (∃ err, r = (.error err, c)) ∨ ∃ reply c', r = (.ok reply, c') ∧ c.Edits fresh e c'

theorem settled_settle {α : Type} {reply : α → Reply} {r : Except LibraryError (α × Catalog)}
    (h : ∀ a c', r = .ok (a, c') → c.Edits fresh e c') : c.Settled fresh e (settle c reply r) := by
  cases r with
  | error err => exact .inl ⟨err, rfl⟩
  | ok r => exact .inr ⟨reply r.1, r.2, rfl, h r.1 r.2 rfl⟩

theorem settled_settleDone {r : Except LibraryError Catalog}
    (h : ∀ c', r = .ok c' → c.Edits fresh e c') : c.Settled fresh e (settleDone c r) := by
  cases r with
  | error err => exact .inl ⟨err, rfl⟩
  | ok c' => exact .inr ⟨.done, c', rfl, h c' rfl⟩

/-- **Every operation** is refused and leaves the catalog, or it succeeds in one of its ways. -/
theorem edit_cases (c : Catalog) (fresh : Version) (e : CatalogEdit) :
    c.Settled fresh e (c.edit fresh e) := by
  cases e with
  | insertType => exact settled_settleDone fun _ => edits_insertType
  | removeType => exact settled_settle fun _ _ => edits_removeType
  | insertTag => exact settled_settleDone fun _ => edits_insertTag
  | removeTag => exact settled_settle fun _ _ => edits_removeTag
  | setDefinition => exact settled_settleDone fun _ => edits_setDefinition
  | setType => exact settled_settleDone fun _ => edits_setType

/-- What every successful operation keeps is kept by every operation, for a refused one leaves the
catalog. -/
theorem keeps_edit {P : Catalog → Prop} (h : P c) (hedits : ∀ c', c.Edits fresh e c' → P c') :
    P (c.edit fresh e).2 := by
  rcases edit_cases c fresh e with ⟨err, hr⟩ | ⟨reply, c', hr, hc⟩
  · rw [hr]
    exact h
  · rw [hr]
    exact hedits c' hc

/-- The same for a change, which does no operation on what cannot be made. -/
theorem keeps_apply {P : Catalog → Prop} (h : P c) (change : CatalogChange)
    (hedits : ∀ e c', e.Proper → c.Edits fresh e c' → P c') : P (c.apply fresh change).2 := by
  rw [apply_eq]
  cases hmade : change.made with
  | error err => exact h
  | ok e => exact keeps_edit h fun c' => hedits e c' (CatalogChange.proper_of_made hmade)

end Catalog

end Gallery
