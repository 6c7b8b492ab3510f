import Gallery.Library.Stepwise
import Gallery.Proofs.Table

/-!
# `Gallery.Proofs.InPlace` — changes made step by step come to the same

Some of the programs that change an index or a catalog table by table write before they know whether the
change is allowed.  Each has the same outcome as the function that changes all at once, so a refusal
leaves all tables as they were.

## Contents
- `InPlace.whole`, a change that is made at once or not at all, and one equation for each way to put a
  program together.
- `Index.Stepwise` and `Catalog.Stepwise`, one equation for each change.
-/

namespace Gallery

/-! ## Programs -/

namespace InPlace

variable {σ α β : Type} {s : σ}

/-- A change that is made at once or not at all. -/
def whole (change : σ → Except LibraryError (α × σ)) : InPlace σ α := fun s =>
  match change s with
  | .error e => (.error e, s)
  | .ok (a, t) => (.ok a, t)

/-! ### Running a program -/

@[simp] theorem run_bind (p : InPlace σ α) (f : α → InPlace σ β) :
    (p >>= f).run s = match p.run s with
      | (.error e, t) => (.error e, t)
      | (.ok a, t) => (f a).run t := by
  show (ExceptT.bindCont f (p.run s).1).run (p.run s).2 = _
  rcases p.run s with ⟨e | a, t⟩ <;> rfl

@[simp] theorem run_pure (a : α) : (pure a : InPlace σ α).run s = (.ok a, s) := rfl

@[simp] theorem run_get : (get : InPlace σ σ).run s = (.ok s, s) := rfl

@[simp] theorem run_modify (f : σ → σ) : (modify f : InPlace σ Unit).run s = (.ok ⟨⟩, f s) := rfl

@[simp] theorem run_throw (e : LibraryError) :
    (throw e : InPlace σ α).run s = (.error e, s) := rfl

theorem ext {p q : InPlace σ α} (h : ∀ s, p.run s = q.run s) : p = q := funext h

@[simp] theorem run_ite (c : Prop) [Decidable c] (p q : InPlace σ α) :
    (if c then p else q).run s = if c then p.run s else q.run s := by
  split <;> rfl

/-- A loop that only writes. -/
theorem run_forM_modify (xs : List β) (f : σ → β → σ) :
    (xs.forM fun x => (modify (f · x) : InPlace σ Unit)).run s = (.ok ⟨⟩, xs.foldl f s) := by
  induction xs generalizing s with
  | nil => rfl
  | cons x xs ih =>
    show ((modify (f · x) : InPlace σ Unit) >>= fun _ => xs.forM _).run s = _
    rw [run_bind, run_modify]
    exact ih

end InPlace

open InPlace

/-! ## Changes of an index -/

namespace Index.Stepwise

@[simp] theorem run_patch (f : Table String (KeySet ImageId) → Table String (KeySet ImageId))
    (x : Index) : (patch f).run x = (.ok ⟨⟩, { x with postings := f x.postings }) := rfl

@[simp] theorem run_forM_patch {β : Type} (xs : List β)
    (f : Table String (KeySet ImageId) → β → Table String (KeySet ImageId)) (x : Index) :
    (xs.forM fun b => patch (f · b)).run x
      = (.ok ⟨⟩, { x with postings := xs.foldl f x.postings }) := by
  refine (run_forM_modify xs fun (x : Index) b => { x with postings := f x.postings b }).trans ?_
  exact congrArg _ (List.foldl_hom (fun ps => { x with postings := ps }) fun _ _ => rfl)

theorem insertImage_eq (image : Image) :
    insertImage image = whole fun x => Library.plain (x.insertImage image) := by
  refine InPlace.ext fun x => ?_
  show _ = whole _ x
  unfold insertImage Index.insertImage whole
  simp only [run_bind, run_get, run_ite, run_throw]
  cases x.paths.contains image.path with
  | true => rfl
  | false => cases x.images.get? image.id <;> rfl

theorem removeImage_eq (id : ImageId) : removeImage id = whole (·.removeImage id) := by
  refine InPlace.ext fun x => ?_
  show _ = whole _ x
  unfold removeImage Index.removeImage whole
  simp only [run_bind, run_get, run_modify]
  cases h : x.images.get? id with
  | none =>
    -- What was taken out was not there.
    simp only [run_throw, Table.erase_of_none h]
  | some image =>
    simp only [run_bind, run_get, run_modify, run_forM_patch, run_pure]
    rfl

theorem moveImage_eq (id : ImageId) (path : String) :
    moveImage id path = whole fun x => Library.plain (x.moveImage id path) := by
  refine InPlace.ext fun x => ?_
  show _ = whole _ x
  unfold moveImage Index.moveImage whole
  simp only [run_bind, run_get, run_ite, run_throw]
  cases (x.paths.get? path).any (· != id) with
  | true => rfl
  | false => cases x.images.get? id <;> rfl

theorem setFingerprint_eq (id : ImageId) (fingerprint : Option Fingerprint) :
    setFingerprint id fingerprint
      = whole fun x => Library.plain (x.setFingerprint id fingerprint) := by
  refine InPlace.ext fun x => ?_
  show _ = whole _ x
  unfold setFingerprint Index.setFingerprint whole
  simp only [run_bind, run_get]
  cases x.images.get? id <;> rfl

theorem get?_labels_of_has {x : Index} {id : ImageId} {label : String}
    (h : (x.labelsOf id).has label = true) : x.labels.get? id = some (x.labelsOf id) := by
  unfold labelsOf labelsOf? at h ⊢
  cases hg : x.labels.get? id with
  | none =>
    rw [hg] at h
    cases h
  | some s => rfl

theorem tag_eq (id : ImageId) (label : String) : tag id label = whole (·.tag id label) := by
  refine InPlace.ext fun x => ?_
  show _ = whole _ x
  unfold tag Index.tag whole
  simp only [run_bind, run_get, run_ite, run_throw, run_modify, run_patch, run_pure]
  cases x.images.contains id with
  | false => rfl
  | true =>
    cases h : (x.labelsOf id).has label with
    | false => rfl
    | true =>
      have hadd : (x.labelsOf id).add label = x.labelsOf id := Table.insert_of_some (KeySet.has_iff.mp h)
      simp only [hadd, Table.insert_of_some (get?_labels_of_has h)]
      rfl

theorem untag_eq (id : ImageId) (label : String) : untag id label = whole (·.untag id label) := by
  refine InPlace.ext fun x => ?_
  show _ = whole _ x
  unfold untag Index.untag whole
  simp only [run_bind, run_get, run_ite, run_throw, run_modify, run_patch, run_pure]
  cases x.images.contains id with
  | false => rfl
  | true =>
    cases h : (x.labelsOf id).has label with
    | true =>
      rw [Table.modify_of_some (get?_labels_of_has h)]
      rfl
    | false =>
      have hsame : x.labels.modify id (·.remove label) = x.labels := by
        unfold labelsOf labelsOf? at h
        cases hg : x.labels.get? id with
        | none => exact Table.modify_of_none hg
        | some s =>
          rw [hg, Option.getD_some] at h
          have hs : s.remove label = s := by
            refine Table.erase_of_none ?_
            rwa [KeySet.has, Table.contains, Option.isSome_eq_false_iff, Option.isNone_iff_eq_none] at h
          rw [Table.modify_of_some hg, hs, Table.insert_of_some hg]
      rw [hsame]
      rfl

theorem setLabels_eq (id : ImageId) (labels : List String) :
    setLabels id labels = whole fun x => Library.plain (x.setLabels id labels) := by
  refine InPlace.ext fun x => ?_
  show _ = whole _ x
  unfold setLabels Index.setLabels whole
  simp only [run_bind, run_get, run_ite, run_throw, run_modify, run_forM_patch, Table.insert_erase]
  cases x.images.contains id <;> rfl

theorem dropLabel_eq (label : String) :
    dropLabel label = whole fun x => .ok ((), x.dropLabel label) := by
  refine InPlace.ext fun x => ?_
  show _ = whole _ x
  unfold dropLabel Index.dropLabel whole
  simp only [run_bind, run_get, run_patch]
  cases h : x.postings.get? label with
  | none =>
    rw [Table.erase_of_none h]
    rfl
  | some ids =>
    have hloop := run_forM_modify (s := { x with postings := x.postings.erase label }) ids.toList
      fun (x : Index) id => { x with labels := x.labels.modify id (·.remove label) }
    rw [Option.getD_some, hloop]
    exact congrArg _ (List.foldl_hom
      (fun labels => { x with postings := x.postings.erase label, labels }) fun _ _ => rfl)

end Index.Stepwise

/-! ## Changes of a catalog -/

namespace Catalog.Stepwise

theorem insertType_eq (t : TagType) :
    insertType t = whole fun c => Library.plain (c.insertType t) := by
  refine InPlace.ext fun c => ?_
  show _ = whole _ c
  unfold insertType Catalog.insertType whole
  simp only [run_bind, run_get]
  cases c.types.values.find? (conflict · t) <;> rfl

theorem removeType_eq (id : TypeId) : removeType id = whole (·.removeType id) := by
  refine InPlace.ext fun c => ?_
  show _ = whole _ c
  unfold removeType Catalog.removeType whole
  simp only [run_bind, run_get, run_modify]
  cases h : c.types.get? id with
  | none => simp only [run_throw, Table.erase_of_none h]
  | some t => rfl

theorem insertTag_eq (fresh : Version) (t : Tag) :
    insertTag fresh t = whole fun c => Library.plain (c.insertTag fresh t) := by
  refine InPlace.ext fun c => ?_
  show _ = whole _ c
  unfold insertTag Catalog.insertTag whole
  simp only [run_bind, run_get, run_ite, run_throw]
  cases c.tags.contains t.label with
  | true => rfl
  | false => cases c.unknownType? t.typeId <;> rfl

theorem removeTag_eq (fresh : Version) (label : String) :
    removeTag fresh label = whole (·.removeTag fresh label) := by
  refine InPlace.ext fun c => ?_
  show _ = whole _ c
  unfold removeTag Catalog.removeTag whole
  simp only [run_bind, run_get, run_modify]
  cases h : c.tags.get? label with
  | none => simp only [run_throw, Table.erase_of_none h]
  | some t => rfl

theorem setDefinition_eq (fresh : Version) (label : String) (definition : Option String) :
    setDefinition fresh label definition
      = whole fun c => Library.plain (c.setDefinition fresh label definition) := by
  refine InPlace.ext fun c => ?_
  show _ = whole _ c
  unfold setDefinition Catalog.setDefinition whole
  simp only [run_bind, run_get]
  cases c.tags.get? label with
  | none => rfl
  | some t =>
    by_cases h : t.definition = definition
    · simp only [h, ne_eq, not_true, if_false, if_true]
      rfl
    · simp only [h, ne_eq, not_false_iff, if_false, if_true]
      rfl

theorem setType_eq (label : String) (typeId : Option TypeId) :
    setType label typeId = whole fun c => Library.plain (c.setType label typeId) := by
  refine InPlace.ext fun c => ?_
  show _ = whole _ c
  unfold setType Catalog.setType whole
  simp only [run_bind, run_get]
  cases c.unknownType? typeId with
  | some id => rfl
  | none => cases h : c.tags.get? label <;> simp [h] <;> rfl

end Catalog.Stepwise

end Gallery
