import Gallery.Proofs.Command.Stored
import Gallery.Proofs.Index.Ledger

/-!
# `Gallery.Proofs.Command.Failing` — what is left of a command that could not give tags

Adding an image and tagging one create the missing tags of the labels first, each in the library and
then in the store, and only after that the library is asked whether the labels may be given to an
image.  When that is refused, or when a label is no word, the tags of the labels in front stay in the
store.  Nothing else does.

## Contents
- `Store.withTags`, a store with plain tags for labels, and when it has the same rows.
- `Command.readied`, the labels whose tags are made sure of.
- `runs_ensureTags_exact`, the loop with the exact store; `runs_add_exact` and `runs_tag_exact`.
- `Store.failing_assignment`, what is in the store after such a command.
-/

namespace Gallery

open Query Command

/-! ## Plain tags for labels -/

namespace Store

/-- Adds a plain tag, unless there is a tag with the label. -/
def withTag (s : Store) (label : String) : Store :=
  if (s.tagId? label).isSome then s
  else { s with tags := s.tags.append { label, typeId := none, definition := none } }

/-- Adds a plain tag for each label without a tag. -/
def withTags (s : Store) (labels : List String) : Store := labels.foldl withTag s

/-- The tables hold the same rows. -/
structure SameRows (s t : Store) : Prop where
  images : t.images.rows = s.images.rows
  types : t.types.rows = s.types.rows
  tags : t.tags.rows = s.tags.rows

variable {s t : Store} {label l : String} {labels : List String}

theorem isSome_tagId?_iff :
    (s.tagId? label).isSome = true ↔ ∃ id r, s.tags.get? id = some r ∧ r.label = label := by
  rw [Option.isSome_iff_ne_none, Ne, tagId?_eq_none_iff]
  simp only [Classical.not_forall, not_not, exists_prop]

theorem withTag_of_stored (h : (s.tagId? label).isSome = true) : s.withTag label = s := if_pos h

theorem withTag_of_new (h : s.tagId? label = none) :
    s.withTag label
      = { s with tags := s.tags.append { label, typeId := none, definition := none } } := by
  rw [withTag, h]
  rfl

theorem isSome_tagId?_withTag_iff :
    ((s.withTag label).tagId? l).isSome = true ↔ (s.tagId? l).isSome = true ∨ l = label := by
  cases hlabel : s.tagId? label with
  | some id =>
    have hstored : (s.tagId? label).isSome = true := Option.isSome_of_eq_some hlabel
    rw [withTag_of_stored hstored]
    refine (or_iff_left_of_imp ?_).symm
    rintro rfl
    exact hstored
  | none =>
    rw [withTag_of_new hlabel, isSome_tagId?_iff, isSome_tagId?_iff]
    simp only [Numbered.get?_append]
    constructor
    · rintro ⟨id, r, hr, rfl⟩
      split at hr
      · cases hr
        exact .inr rfl
      · exact .inl ⟨id, r, hr, rfl⟩
    · rintro (⟨id, r, hr, rfl⟩ | rfl)
      · refine ⟨id, r, ?_, rfl⟩
        rw [if_neg (Int.ne_of_lt (Numbered.lt_next hr)), hr]
      · exact ⟨_, _, if_pos rfl, rfl⟩

/-- All the labels have tags then. -/
theorem isSome_tagId?_withTags_iff :
    ((s.withTags labels).tagId? l).isSome = true ↔ (s.tagId? l).isSome = true ∨ l ∈ labels := by
  induction labels generalizing s with
  | nil => simp [withTags]
  | cons label labels ih =>
    show (((s.withTag label).withTags labels).tagId? l).isSome = true ↔ _
    rw [ih, isSome_tagId?_withTag_iff, List.mem_cons, or_assoc]

theorem withTags_of_stored (h : ∀ l ∈ labels, (s.tagId? l).isSome = true) :
    s.withTags labels = s := by
  induction labels with
  | nil => rfl
  | cons label labels ih =>
    obtain ⟨hlabel, hlabels⟩ := List.forall_mem_cons.mp h
    show (s.withTag label).withTags labels = s
    rw [withTag_of_stored hlabel]
    exact ih hlabels

/-- Rows are new where a label had no tag. -/
theorem sameRows_withTags_iff :
    SameRows s (s.withTags labels) ↔ ∀ l ∈ labels, (s.tagId? l).isSome = true := by
  constructor
  · rintro ⟨-, -, htags⟩ l hl
    have hstored := (isSome_tagId?_withTags_iff (s := s)).mpr (.inr hl)
    rw [isSome_tagId?_iff] at hstored ⊢
    unfold Numbered.get? at hstored ⊢
    rwa [htags] at hstored
  · intro h
    rw [withTags_of_stored h]
    exact ⟨rfl, rfl, rfl⟩

end Store

/-- Whether the command gives tags to an image. -/
def Command.assigns : Command → Bool
  | .add .. | .tag .. => true
  | _ => false

/-- The labels whose missing tags such a command creates first: those in front of the first that is
no word, if the image is as the command needs it and tags are given and not taken. -/
def Command.readied (c : Command) (s : Store) : List String :=
  match c with
  | .add path _ tags => if (s.imageId? path).isSome then [] else tags.takeWhile isValidLabel
  | .tag path tags mode =>
    if (s.imageId? path).isNone || mode == .remove then [] else tags.takeWhile isValidLabel
  | _ => []

/-! ## The loop that creates missing tags -/

namespace Command

variable {ρ : Renaming} {σ τ : Session} {P : Store → Prop} {label path : String}
  {tags : List String}

/-- A label has a tag in the library if and only if it has one in the store. -/
theorem Linked.isSome_tagId?_iff (h : Linked ρ τ) :
    (τ.store.tagId? label).isSome = true ↔
      (τ.library.snapshot.catalog.tag? label).isSome = true := by
  have hstore : (τ.store.catalog.tag? label).isSome
      = (τ.library.snapshot.catalog.tag? label).isSome := by
    rw [h.tag?_eq, Option.isSome_map]
  rw [← hstore, Store.isSome_tagId?_iff, Option.isSome_iff_exists]
  constructor
  · rintro ⟨id, r, hr, rfl⟩
    exact ⟨_, h.kept.tidy.valid.tag?_of_row hr (h.kept.tidy.tag_legal id r hr)⟩
  · rintro ⟨t, ht⟩
    exact ⟨t.id, _, (h.kept.tidy.tag?_eq_some_iff.mp ht).1, rfl⟩

/-- A word without a tag can be given one. -/
theorem exists_createTag {lib : Library} (hnew : lib.snapshot.catalog.tag? label = none)
    (hvalid : isValidLabel label = true) :
    ∃ id lib', lib.createTag label none none = (.ok id, lib') := by
  have hinsert : lib.snapshot.catalog.insertTag lib.fresh
      ⟨lib.snapshot.catalog.nextTagId, label, none, none⟩ = .ok _ :=
    Catalog.insertTag_eq_ok_iff.mpr ⟨hnew, rfl, rfl⟩
  unfold Library.createTag Library.mutateCatalog Library.mutate Snapshot.onCatalog
  simp only [Tag.make, hvalid, if_true, hinsert]
  exact ⟨_, _, rfl⟩

theorem runs_ensureTag_exact (h : Linked ρ τ) (label : String) :
    Runs (fun s => s = τ.store ∧ isValidLabel label = false) τ (ensureTag label)
      fun _ t => t.store = τ.store.withTag label ∧ isValidLabel label = true := by
  refine runs_bind (runs_current ?_)
  cases htag : τ.library.snapshot.catalog.tag? label with
  | none =>
    refine runs_bind (runs_ask_cases nofun (fun e lib hlib => ⟨rfl, ?_⟩) fun id lib hlib => ?_)
    · refine Bool.eq_false_iff.mpr fun hvalid => ?_
      obtain ⟨id, lib', hok⟩ := exists_createTag htag hvalid
      cases hlib.symm.trans hok
    · obtain ⟨n, s, hstore⟩ := h.exists_addTag hlib
      refine runs_bind (runs_inStore hstore (runs_pure ⟨?_, (Library.of_createTag hlib).2.1⟩))
      obtain ⟨-, -, -, hs⟩ := Store.addTag_eq_ok_iff.mp hstore
      have hnew : τ.store.tagId? label = none := by
        rw [← Option.not_isSome_iff_eq_none, h.isSome_tagId?_iff, htag]
        exact Bool.false_ne_true
      rw [Store.withTag_of_new hnew]
      exact hs
  | some t =>
    have hstored : (τ.store.tagId? label).isSome = true := by
      rw [h.isSome_tagId?_iff, htag]
      rfl
    exact runs_pure ⟨(Store.withTag_of_stored hstored).symm, (h.associated.labeled label t htag).2⟩

theorem runs_ensureTags_exact (h : Ensured ρ σ τ) (tags : List String) :
    Runs (· = τ.store.withTags (tags.takeWhile isValidLabel)) τ (ensureTags tags)
      fun _ t => t.store = τ.store.withTags (tags.takeWhile isValidLabel) ∧ Ensured ρ σ t := by
  induction tags generalizing τ with
  | nil => exact runs_pure ⟨rfl, h⟩
  | cons label tags ih =>
    have hfirst := (runs_ensureTag_exact h.linked label).and (runs_ensureTag h label)
    -- A label that is no word ends the loop; after a word the others start from the store with its
    -- tag.
    refine runs_bind ((hfirst.of_failure ?_).imp ?_)
    · rintro s ⟨rfl, hinvalid⟩
      rw [List.takeWhile_cons_of_neg (by simp [hinvalid])]
      rfl
    · rintro _ t ⟨⟨ht, hvalid⟩, hensured⟩
      have hrest := ih hensured
      rw [ht] at hrest
      rw [List.takeWhile_cons_of_pos hvalid]
      exact hrest

/-! ## The commands -/

/-- The paths of the library are those of the store. -/
theorem Begun.isSome_imageId?_iff (h : Begun σ) :
    (σ.store.imageId? path).isSome = true ↔
      ∃ i image, σ.library.snapshot.index.images.get? i = some image ∧ image.path = path := by
  simp only [Option.isSome_iff_exists, h.kept.tidy.valid.imageId?_eq_some_iff]
  constructor
  · rintro ⟨i, r, hr, rfl⟩
    obtain ⟨image, himage, hpath⟩ := h.path_of_row hr
    exact ⟨i, image, himage, hpath⟩
  · rintro ⟨i, image, himage, rfl⟩
    obtain ⟨r, hr⟩ := Numbered.contains_iff.mp (contains_of_view h.loads.view.symm himage)
    obtain ⟨image', himage', hpath⟩ := h.path_of_row hr
    obtain rfl := Option.some.inj (himage'.symm.trans himage)
    exact ⟨i, r, hr, hpath.symm⟩

/-- An image can be registered under a path that no image has. -/
theorem exists_registerImage {lib : Library} (hx : lib.snapshot.index.Coherent)
    (hfree : ∀ i image, lib.snapshot.index.images.get? i = some image → image.path ≠ path)
    (fingerprint : Option Fingerprint) :
    ∃ id lib', lib.registerImage path fingerprint = (.ok id, lib') := by
  have hpath : lib.snapshot.index.paths.contains path = false := by
    refine Bool.eq_false_iff.mpr fun hpath => ?_
    obtain ⟨i, hi⟩ := Table.contains_iff.mp hpath
    obtain ⟨image, himage, heq⟩ := (hx.path_iff path i).mp hi
    exact hfree i image himage heq
  have hnext : lib.snapshot.index.images.get? lib.snapshot.index.nextImageId = none := by
    refine Option.eq_none_iff_forall_ne_some.mpr fun image himage => ?_
    exact Int.lt_irrefl _ (Index.lt_nextImageId himage)
  unfold Library.registerImage Library.mutateIndex Library.mutate Snapshot.onIndex
  simp only [Index.insertImage, Image.make_path, Image.make_id, hpath, hnext, Bool.false_eq_true,
    if_false]
  exact ⟨_, _, rfl⟩

theorem runs_add_exact (h : Begun σ) (path : String) (fingerprint : Option Fingerprint)
    (tags : List String) :
    Runs (· = σ.store.withTags ((Command.add path fingerprint tags).readied σ.store)) σ
      (performAdd path fingerprint tags) fun _ => Mirrors σ.pairing := by
  rw [Command.readied]
  refine runs_bind (runs_ask_cases nofun (fun e lib₁ hlib₁ => ?_) fun id lib₁ hlib₁ => ?_)
  · rw [if_pos]
    · rfl
    -- Nothing but a path that is taken keeps the library from registering the image.
    rw [h.isSome_imageId?_iff]
    by_contra hfree
    obtain ⟨id, lib', hok⟩ := exists_registerImage h.loads.coherent
      (fun i image himage hpath => hfree ⟨i, image, himage, hpath⟩) fingerprint
    cases hlib₁.symm.trans hok
  · obtain ⟨-, x, hx, -⟩ := Library.of_registerImage hlib₁
    rw [if_neg]
    · refine runs_bind ((runs_ensureTags_exact (h.ensured_registered hlib₁) tags).imp ?_)
      rintro _ τ ⟨hstore, hτ⟩
      exact runs_storeRegistered h hlib₁ hτ hstore tags _
    · rw [h.isSome_imageId?_iff]
      rintro ⟨i, image, himage, hpath⟩
      exact h.loads.coherent.path_ne_of_insertImage hx i image himage hpath

theorem runs_tag_exact (h : Begun σ) (path : String) (tags : List String) (mode : TagMode) :
    Runs (· = σ.store.withTags ((Command.tag path tags mode).readied σ.store)) σ
      (performTag path tags mode) fun _ => Mirrors σ.tagPairing := by
  have hbegun : Ensured σ.tagPairing σ σ := .refl (h.linked (fixes_tagPairing σ)) h.aligned
  rw [Command.readied]
  refine runs_bind (runs_findImage (fun hnone => ?_) fun image himage => ?_)
  · rw [if_pos]
    · rfl
    rw [Bool.or_eq_true, Option.isNone_iff_eq_none, ← Option.not_isSome_iff_eq_none,
      h.isSome_imageId?_iff]
    refine .inl ?_
    rintro ⟨i, image, himage, hpath⟩
    have hfound : σ.library.snapshot.index.imageByPath? path = some image :=
      h.loads.coherent.imageByPath?_eq_some_iff.mpr
        ⟨(h.loads.coherent.image_id i image himage).symm ▸ himage, hpath⟩
    cases hnone.symm.trans hfound
  have hid := h.loads.coherent.get?_of_imageByPath? himage
  have hpath := (h.loads.coherent.imageByPath?_eq_some_iff.mp himage).2
  have hsome : (σ.store.imageId? path).isNone = false := by
    rw [← Option.not_isSome, h.isSome_imageId?_iff.mpr ⟨_, image, hid, hpath⟩]
    rfl
  rw [hsome, Bool.false_or]
  refine runs_bind (runs_current ?_)
  dsimp only
  by_cases hmode : mode = .remove
  · rw [if_pos (beq_iff_eq.mpr hmode), if_neg (not_not_intro hmode)]
    exact runs_relabel (P := (· = σ.store)) hbegun (fun _ => rfl) h.loads.view.symm hid rfl _ _
  · rw [if_neg (mt beq_iff_eq.mp hmode), if_pos hmode]
    refine runs_bind ((runs_ensureTags_exact hbegun tags).imp ?_)
    rintro _ τ ⟨hstore, hτ⟩
    exact runs_relabel hτ (fun _ => rfl) h.loads.view.symm hid hstore _ _

/-- Where the action of a command fails, the store is left that the judgement speaks of. -/
theorem run_of_runs {c : Command} {s : Store} {lib : Library} {Q : Unit → Session → Prop}
    (hlib : Library.ofStore s c.similarity = .ok lib)
    (h : Runs P { library := lib, store := s } c.perform Q)
    (hfailure : (c.run s).1.failure ≠ none) : P (c.run s).2 := by
  unfold Command.run at hfailure ⊢
  rw [hlib] at hfailure ⊢
  dsimp only at hfailure ⊢
  unfold Runs at h
  rcases hperform : c.perform.run { library := lib, store := s } with ⟨f | v, t⟩
  · rw [hperform] at h
    exact h.2
  · rw [hperform] at hfailure
    exact absurd rfl hfailure

end Command

/-! ## After a failure -/

/-- **What a command leaves that fails to give tags.**  After any commands on an empty store, an
image that is added or tagged without success leaves everything as it was but for the plain tags of
the labels whose tags it has made sure of; so the rows are the same exactly where those labels had
tags before. -/
theorem Store.failing_assignment (commands : List Command) (c : Command)
    (hc : c.assigns = true) (hfailure : (c.run (runAll ∅ commands)).1.failure ≠ none) :
    (c.run (runAll ∅ commands)).2
        = (runAll ∅ commands).withTags (c.readied (runAll ∅ commands))
      ∧ (SameRows (runAll ∅ commands) (c.run (runAll ∅ commands)).2
        ↔ ∀ l ∈ c.readied (runAll ∅ commands), ((runAll ∅ commands).tagId? l).isSome = true) := by
  obtain ⟨lib, hlib, hbegun⟩ := exists_begun (kept_runAll kept_empty commands) c.similarity
  have hleft : (c.run (runAll ∅ commands)).2
      = (runAll ∅ commands).withTags (c.readied (runAll ∅ commands)) := by
    cases c with
    | add path fingerprint tags =>
      exact run_of_runs hlib (runs_add_exact hbegun path fingerprint tags) hfailure
    | tag path tags mode => exact run_of_runs hlib (runs_tag_exact hbegun path tags mode) hfailure
    | _ => cases hc
  rw [hleft]
  exact ⟨rfl, sameRows_withTags_iff⟩

/-- The tag of the first label stays although the second label is refused. -/
theorem Store.failing_assignment_compound :
    ((Command.add "a.jpg" none ["new", "pets"]).run
        (runAll ∅ [.define "pets" (.set "cat + dog") none])).1.failure
        = some (.library (.compoundAssociation "pets"))
      ∧ ((Command.add "a.jpg" none ["new", "pets"]).run
        (runAll ∅ [.define "pets" (.set "cat + dog") none])).2
        = (runAll ∅ [.define "pets" (.set "cat + dog") none]).withTags ["new", "pets"] := by
  have hfailure : ((Command.add "a.jpg" none ["new", "pets"]).run
      (runAll ∅ [.define "pets" (.set "cat + dog") none])).1.failure
      = some (.library (.compoundAssociation "pets")) := by decide +kernel
  have hreadied : (Command.add "a.jpg" none ["new", "pets"]).readied
      (runAll ∅ [.define "pets" (.set "cat + dog") none]) = ["new", "pets"] := by decide +kernel
  have hleft := (failing_assignment [.define "pets" (.set "cat + dog") none]
    (.add "a.jpg" none ["new", "pets"]) rfl (hfailure ▸ Option.some_ne_none _)).1
  exact ⟨hfailure, hleft.trans (congrArg _ hreadied)⟩

/-- Such a command can fail and leave other rows than before. -/
theorem Store.not_sameRows_of_failing :
    ¬∀ (commands : List Command) (c : Command), c.assigns = true →
      (c.run (runAll ∅ commands)).1.failure ≠ none →
      SameRows (runAll ∅ commands) (c.run (runAll ∅ commands)).2 := by
  intro h
  have hsame := (h [.define "pets" (.set "cat + dog") none] (.add "a.jpg" none ["new", "pets"]) rfl
    (by decide +kernel)).tags
  revert hsame
  decide +kernel

end Gallery
