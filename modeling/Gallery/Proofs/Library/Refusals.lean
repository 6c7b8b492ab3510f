import Gallery.Proofs.InPlace

/-!
# `Gallery.Proofs.Library.Refusals` — a refused change leaves a library as it was

A change of a library checks, writes to the catalog and writes to the index.  Step by step, as a program
that takes nothing back, it has the outcome that it has as a function.  When that is a refusal, the
tables are those of before: all that a program writes before it refuses is that it takes something out
of a table where it was not.

## Contents
- `Library.apply_program`, the outcome of the program of a change.
- `Library.RefusalLeaves`, what a refusal must not touch, with one lemma for each shape of change.
- The result: `Library.refused_change_leaves`.
-/

namespace Gallery

open InPlace

/-! ## Changes of a library -/

namespace Snapshot.Stepwise

variable {α : Type}

variable {s : Snapshot}

theorem run_onIndex_whole (change : Index → Except LibraryError (α × Index)) :
    (onIndex (whole change)).run s = s.onIndex change := by
  show onIndex (whole change) s = _
  unfold onIndex Snapshot.onIndex whole
  dsimp only [ExceptT.run]
  cases change s.index <;> rfl

theorem run_onCatalog_whole (change : Catalog → Except LibraryError (α × Catalog)) :
    (onCatalog (whole change)).run s = s.onCatalog change := by
  show onCatalog (whole change) s = _
  unfold onCatalog Snapshot.onCatalog whole
  dsimp only [ExceptT.run]
  cases change s.catalog <;> rfl

theorem run_checkAssignable (label : String) :
    (checkAssignable label).run s = (Library.assignable s.catalog label, s) := by
  unfold checkAssignable Library.assignable
  simp only [run_bind, run_get]
  cases s.catalog.tag? label with
  | none => rfl
  | some t => cases h : t.isCompound <;> simp [h]

/-- The labels are checked one after the other. -/
theorem run_forM_checkAssignable (labels : List String) :
    (labels.forM checkAssignable).run s = (Library.allAssignable s.catalog labels, s) := by
  induction labels with
  | nil => rfl
  | cons l labels ih =>
    show (checkAssignable l >>= fun _ => labels.forM checkAssignable).run s = _
    rw [run_bind, run_checkAssignable, Library.allAssignable]
    cases Library.assignable s.catalog l with
    | error e => rfl
    | ok u => exact ih

end Snapshot.Stepwise

open Snapshot.Stepwise

namespace Library

variable {lib : Library} {α : Type}

theorem replying_mutate (reply : α → Reply) (affected : List String)
    (change : Snapshot → Except LibraryError α × Snapshot) :
    replying reply (lib.mutate affected change)
      = lib.mutate affected fun s => ((change s).1.map reply, (change s).2) := by
  unfold replying mutate
  dsimp only
  rcases change lib.snapshot with ⟨e | a, s⟩ <;> rfl

/-- What is seen of a change: the answer, and then the snapshot and the cache. -/
def outcome (r : Except LibraryError α × Library) : Except LibraryError α × Snapshot × Query.Cache :=
  (r.1, r.2.snapshot, r.2.cache)

theorem mutate_congr {affected : List String}
    {f g : Snapshot → Except LibraryError α × Snapshot} (h : f lib.snapshot = g lib.snapshot) :
    lib.mutate affected f = lib.mutate affected g := by
  unfold mutate
  rw [h]

/-- A program whose answer is replied. -/
theorem run_reply {σ : Type} {s : σ} (p : InPlace σ α) (reply : α → Reply) :
    (do return reply (← p) : InPlace σ Reply).run s
      = ((p.run s).1.map reply, (p.run s).2) := by
  rw [run_bind]
  rcases p.run s with ⟨e | a, t⟩ <;> rfl

theorem replying_mutateIndex (reply : α → Reply) {p : InPlace Index α}
    {change : Index → Except LibraryError (α × Index)} (h : p = whole change) :
    replying reply (lib.mutateIndex change)
      = lib.mutate [] (do return reply (← onIndex p) : InPlace Snapshot Reply).run := by
  refine (replying_mutate ..).trans (mutate_congr ?_)
  rw [h, run_reply, run_onIndex_whole]

theorem replying_mutateCatalog (reply : α → Reply) (affected : List String)
    {p : InPlace Catalog α} {change : Catalog → Except LibraryError (α × Catalog)}
    (h : p = whole change) :
    replying reply (lib.mutateCatalog affected change)
      = lib.mutate affected (do return reply (← onCatalog p) : InPlace Snapshot Reply).run := by
  refine (replying_mutate ..).trans (mutate_congr ?_)
  rw [h, run_reply, run_onCatalog_whole]

/-! ### Changes that look at the snapshot first -/

theorem apply_registerImage (path : String) (fingerprint : Option Fingerprint) :
    lib.apply (.registerImage path fingerprint) = lib.mutate []
      (LibraryChange.program lib.fresh (.registerImage path fingerprint)).run := by
  refine (replying_mutate ..).trans (mutate_congr ?_)
  rw [LibraryChange.program, run_bind, run_get]
  dsimp only
  rw [Index.Stepwise.insertImage_eq, run_bind, run_onIndex_whole]
  unfold Snapshot.onIndex
  dsimp only
  cases lib.snapshot.index.insertImage _ <;> rfl

theorem apply_tagImage (id : ImageId) (label : String) :
    lib.apply (.tagImage id label) = lib.mutate []
      (LibraryChange.program lib.fresh (.tagImage id label)).run := by
  refine (replying_mutate ..).trans (mutate_congr ?_)
  rw [LibraryChange.program, run_bind, run_checkAssignable]
  cases assignable lib.snapshot.catalog label with
  | error e => rfl
  | ok u =>
    dsimp only
    rw [Index.Stepwise.tag_eq, run_reply, run_onIndex_whole]

theorem apply_setImageTags (id : ImageId) (labels : List String) :
    lib.apply (.setImageTags id labels) = lib.mutate []
      (LibraryChange.program lib.fresh (.setImageTags id labels)).run := by
  refine (replying_mutate ..).trans (mutate_congr ?_)
  rw [LibraryChange.program, run_bind, run_forM_checkAssignable]
  cases allAssignable lib.snapshot.catalog labels with
  | error e => rfl
  | ok u =>
    rw [Index.Stepwise.setLabels_eq]
    exact ((run_reply (onIndex _) done).trans (by rw [run_onIndex_whole])).symm

theorem apply_createTagType (label : String) (symbol : Char) (color : UInt32) :
    lib.apply (.createTagType label symbol color) = lib.mutate []
      (LibraryChange.program lib.fresh (.createTagType label symbol color)).run := by
  refine (replying_mutate ..).trans (mutate_congr ?_)
  unfold Snapshot.onCatalog
  rw [LibraryChange.program, run_bind, run_get]
  dsimp only
  cases TagType.make lib.snapshot.catalog.nextTypeId label symbol color with
  | error e => rfl
  | ok t =>
    dsimp only
    rw [Catalog.Stepwise.insertType_eq, run_bind, run_onCatalog_whole]
    unfold Snapshot.onCatalog
    dsimp only
    cases lib.snapshot.catalog.insertType t <;> rfl

theorem apply_createTag (label : String) (typeId : Option TypeId) (definition : Option String) :
    lib.apply (.createTag label typeId definition) = lib.mutate [label]
      (LibraryChange.program lib.fresh (.createTag label typeId definition)).run := by
  refine (replying_mutate ..).trans (mutate_congr ?_)
  unfold Snapshot.onCatalog
  rw [LibraryChange.program, run_bind, run_get]
  dsimp only
  cases Tag.make lib.snapshot.catalog.nextTagId label typeId definition with
  | error e => rfl
  | ok t =>
    dsimp only
    rw [Catalog.Stepwise.insertTag_eq, run_bind, run_onCatalog_whole]
    unfold Snapshot.onCatalog
    dsimp only
    cases lib.snapshot.catalog.insertTag lib.fresh t <;> rfl

theorem apply_redefineTag (label : String) (definition : Option String) :
    lib.apply (.redefineTag label definition) = lib.mutate [label]
      (LibraryChange.program lib.fresh (.redefineTag label definition)).run := by
  refine (replying_mutate ..).trans (mutate_congr ?_)
  simp only [LibraryChange.program, run_bind, run_get, run_ite, run_throw]
  cases definition.isSome && decide (0 < lib.snapshot.index.postingSize label) with
  | true => rfl
  | false =>
    rw [Catalog.Stepwise.setDefinition_eq, run_onCatalog_whole]
    rcases lib.snapshot.onCatalog _ with ⟨e | u, s⟩ <;> rfl

/-- The index is not looked at before the tag is gone from the catalog, and then nothing is refused. -/
theorem apply_removeTag (label : String) :
    lib.apply (.removeTag label) = lib.mutate [label]
      (LibraryChange.program lib.fresh (.removeTag label)).run := by
  refine (replying_mutate ..).trans (mutate_congr ?_)
  rw [LibraryChange.program, Catalog.Stepwise.removeTag_eq, Index.Stepwise.dropLabel_eq, run_bind,
    run_onCatalog_whole]
  rcases lib.snapshot.onCatalog _ with ⟨e | t, s⟩
  · rfl
  · rfl

/-! ### All changes -/

theorem apply_program (lib : Library) (change : LibraryChange) :
    outcome (lib.apply change)
      = outcome (lib.mutate change.affected (change.program lib.fresh).run) := by
  cases change with
  | registerImage path fingerprint => exact congrArg outcome (apply_registerImage path fingerprint)
  | insertImage image =>
    exact congrArg outcome (replying_mutateIndex done (Index.Stepwise.insertImage_eq image))
  | removeImage id =>
    exact congrArg outcome (replying_mutateIndex .image (Index.Stepwise.removeImage_eq id))
  | moveImage id path =>
    exact congrArg outcome (replying_mutateIndex done (Index.Stepwise.moveImage_eq id path))
  | setFingerprint id fingerprint =>
    exact congrArg outcome
      (replying_mutateIndex done (Index.Stepwise.setFingerprint_eq id fingerprint))
  | tagImage id label => exact congrArg outcome (apply_tagImage id label)
  | untagImage id label =>
    exact congrArg outcome (replying_mutateIndex .flag (Index.Stepwise.untag_eq id label))
  | setImageTags id labels => exact congrArg outcome (apply_setImageTags id labels)
  | createTagType label symbol color =>
    exact congrArg outcome (apply_createTagType label symbol color)
  | insertTagType id label symbol color =>
    unfold apply LibraryChange.program
    dsimp only
    cases TagType.make id label symbol color with
    | error e => rfl
    | ok t =>
      exact congrArg outcome (replying_mutateCatalog done [] (Catalog.Stepwise.insertType_eq t))
  | removeTagType id =>
    exact congrArg outcome (replying_mutateCatalog .tagType [] (Catalog.Stepwise.removeType_eq id))
  | createTag label typeId definition =>
    exact congrArg outcome (apply_createTag label typeId definition)
  | insertTag id label typeId definition =>
    unfold apply LibraryChange.program Tag.make
    dsimp only
    cases isValidLabel label with
    | false => rfl
    | true =>
      exact congrArg outcome
        (replying_mutateCatalog done [label] (Catalog.Stepwise.insertTag_eq lib.fresh _))
  | redefineTag label definition => exact congrArg outcome (apply_redefineTag label definition)
  | setTagType label typeId =>
    exact congrArg outcome
      (replying_mutateCatalog done [] (Catalog.Stepwise.setType_eq label typeId))
  | removeTag label => exact congrArg outcome (apply_removeTag label)

theorem insertTagType_program (lib : Library) (t : TagType) :
    lib.insertTagType t = lib.mutate [] (onCatalog (Catalog.Stepwise.insertType t)).run := by
  rw [Catalog.Stepwise.insertType_eq, insertTagType, mutateCatalog]
  exact mutate_congr (run_onCatalog_whole _).symm

theorem insertTag_program (lib : Library) (t : Tag) :
    lib.insertTag t
      = lib.mutate [t.label] (onCatalog (Catalog.Stepwise.insertTag lib.fresh t)).run := by
  rw [Catalog.Stepwise.insertTag_eq, insertTag, mutateCatalog]
  exact mutate_congr (run_onCatalog_whole _).symm

/-! ## Refusals -/

/-- When the answer is a refusal, snapshot and cache are those of the library before. -/
def RefusalLeaves (lib : Library) (r : Except LibraryError α × Library) : Prop :=
  ∀ e, r.1 = .error e → r.2.snapshot = lib.snapshot ∧ r.2.cache = lib.cache

/-- The cache is only looked at after the change has succeeded. -/
theorem refusalLeaves_mutate {affected : List String}
    {change : Snapshot → Except LibraryError α × Snapshot}
    (h : ∀ e, (change lib.snapshot).1 = .error e → (change lib.snapshot).2 = lib.snapshot) :
    RefusalLeaves lib (lib.mutate affected change) := by
  intro e he
  unfold mutate at he ⊢
  dsimp only at he ⊢
  cases hc : (change lib.snapshot).1 with
  | error e => exact ⟨h e hc, rfl⟩
  | ok a =>
    rw [hc] at he
    cases he

theorem refusalLeaves_mutateIndex {change : Index → Except LibraryError (α × Index)} :
    RefusalLeaves lib (lib.mutateIndex change) :=
  refusalLeaves_mutate fun _ he => Snapshot.onIndex_error he

theorem refusalLeaves_mutateCatalog {affected : List String}
    {change : Catalog → Except LibraryError (α × Catalog)} :
    RefusalLeaves lib (lib.mutateCatalog affected change) :=
  refusalLeaves_mutate fun _ he => Snapshot.onCatalog_error he

theorem RefusalLeaves.replying {r : Except LibraryError α × Library} (h : RefusalLeaves lib r)
    (reply : α → Reply) : RefusalLeaves lib (replying reply r) := by
  intro e he
  rcases r with ⟨e' | a, lib'⟩
  · exact h e' rfl
  · cases he

/-- All labels are checked before the first one is given. -/
theorem refusalLeaves_checked (check : Snapshot → Except LibraryError Unit)
    {change : Index → Except LibraryError (α × Index)} :
    RefusalLeaves lib (lib.mutate [] fun s =>
      match check s with
      | .error e => (.error e, s)
      | .ok () => s.onIndex change) := by
  refine refusalLeaves_mutate fun e he => ?_
  cases h : check lib.snapshot with
  | error e' => rfl
  | ok u =>
    rw [h] at he
    exact Snapshot.onIndex_error he

theorem refusalLeaves_tagImage (id : ImageId) (label : String) :
    RefusalLeaves lib (lib.tagImage id label) :=
  refusalLeaves_checked fun s => assignable s.catalog label

theorem refusalLeaves_setImageTags (id : ImageId) (labels : List String) :
    RefusalLeaves lib (lib.setImageTags id labels) :=
  refusalLeaves_checked fun s => allAssignable s.catalog labels

theorem refusalLeaves_redefineTag (label : String) (definition : Option String) :
    RefusalLeaves lib (lib.redefineTag label definition) := by
  refine refusalLeaves_mutate fun e he => ?_
  split at he
  · rename_i h
    rw [if_pos h]
  · rename_i h
    rw [if_neg h]
    exact Snapshot.onCatalog_error he

/-- Only the first of the two writes can be refused. -/
theorem refusalLeaves_removeTag (label : String) : RefusalLeaves lib (lib.removeTag label) := by
  refine refusalLeaves_mutate fun e he => ?_
  rcases h : lib.snapshot.onCatalog fun c => c.removeTag lib.fresh label with ⟨e' | t, s⟩
  · have hs := Snapshot.onCatalog_error (congrArg Prod.fst h)
    rw [h] at hs
    exact hs
  · rw [h] at he
    cases he

theorem refusalLeaves_apply (lib : Library) (change : LibraryChange) :
    RefusalLeaves lib (lib.apply change) := by
  cases change with
  | tagImage id label => exact (refusalLeaves_tagImage id label).replying _
  | setImageTags id labels => exact (refusalLeaves_setImageTags id labels).replying _
  | insertTagType id label symbol color =>
    unfold apply
    dsimp only
    cases TagType.make id label symbol color with
    | error e => exact fun _ _ => ⟨rfl, rfl⟩
    | ok t => exact refusalLeaves_mutateCatalog.replying _
  | insertTag id label typeId definition =>
    unfold apply
    dsimp only
    cases Tag.make id label typeId definition with
    | error e => exact fun _ _ => ⟨rfl, rfl⟩
    | ok t => exact refusalLeaves_mutateCatalog.replying _
  | redefineTag label definition => exact (refusalLeaves_redefineTag label definition).replying _
  | removeTag label => exact (refusalLeaves_removeTag label).replying _
  | registerImage | insertImage | removeImage | moveImage | setFingerprint | untagImage =>
    exact refusalLeaves_mutateIndex.replying _
  | createTagType | removeTagType | createTag | setTagType =>
    exact refusalLeaves_mutateCatalog.replying _

/-- **A refused change leaves a library as it was**, whatever state the library is in: a library that
writes table by table, and takes nothing back, has the outcome of the change, and when that is a
refusal, all tables and the cache are those of before.  Types and tags may also be given as they are,
without the checks of `TagType.make` and `Tag.make`. -/
theorem refused_change_leaves (lib : Library) :
    (∀ change,
      outcome (lib.apply change) = outcome (lib.mutate change.affected (change.program lib.fresh).run)
        ∧ RefusalLeaves lib (lib.apply change))
      ∧ (∀ t, lib.insertTagType t
            = lib.mutate [] (onCatalog (Catalog.Stepwise.insertType t)).run
          ∧ RefusalLeaves lib (lib.insertTagType t))
      ∧ ∀ t, lib.insertTag t
            = lib.mutate [t.label] (onCatalog (Catalog.Stepwise.insertTag lib.fresh t)).run
          ∧ RefusalLeaves lib (lib.insertTag t) :=
  ⟨fun change => ⟨apply_program lib change, refusalLeaves_apply lib change⟩,
    fun t => ⟨insertTagType_program lib t, refusalLeaves_mutateCatalog⟩,
    fun t => ⟨insertTag_program lib t, refusalLeaves_mutateCatalog⟩⟩

end Library

end Gallery
