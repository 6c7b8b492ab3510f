import Gallery.Proofs.Library.Answer
import Gallery.Proofs.Library.Association
import Gallery.Proofs.Query.Printing

/-!
# `Gallery.Proofs.Library.Untagged` — the images without labels

As images carry the labels of plain tags only, the images without labels are those that a query for
none of the plain tags finds, whether it is evaluated as a tree or asked as a text.

## Contents
- `Catalog.untaggedQuery`, and `parse_not_any`, which reads its text.
- `Associated.satisfies_untaggedQuery`, its meaning; `Library.evaluate_untaggedQuery` and
  `Library.query_untaggedQuery`, its answers.
- The result: `Library.association`.
-/

namespace Gallery

open Query

/-! ## The query for images without labels -/

namespace Catalog

/-- The labels of the plain tags. -/
def plainLabels (c : Catalog) : List String := c.tags.keys.filter fun l => c.meaning l = .plain

/-- The query for images that carry the label of no plain tag. -/
def untaggedQuery (c : Catalog) : Expr := .neg (.any (c.plainLabels.map .tag))

variable {c : Catalog} {l : String}

theorem mem_plainLabels_iff : l ∈ c.plainLabels ↔ c.meaning l = .plain := by
  rw [plainLabels, List.mem_filter, decide_eq_true_eq, and_iff_right_iff_imp]
  intro hl
  obtain ⟨t, ht, -⟩ := meaning_eq_plain_iff.mp hl
  refine Table.mem_keys_iff.mpr ?_
  rw [show c.tags.get? l = some t from ht]
  rfl

end Catalog

variable {c : Catalog}

/-- Every label of a query over plain tags stays as it is. -/
theorem Query.Expands.tags {labels : List String} (h : ∀ l ∈ labels, c.meaning l = .plain) :
    Expands c (.any (labels.map .tag)) (.any (labels.map .tag)) := by
  induction labels with
  | nil => exact .anyNil
  | cons l labels ih =>
    obtain ⟨hl, hs⟩ := List.forall_mem_cons.mp h
    exact .anyCons (.plain hl) (ih hs)

theorem Query.Expands.joined_tags {labels : List String} (h : ∀ l ∈ labels, c.meaning l = .plain) :
    Expands c (joined .any (labels.map .tag)) (joined .any (labels.map .tag)) := by
  match labels with
  | [] => exact .tags h
  | [l] => exact .plain (h l List.mem_cons_self)
  | l :: m :: labels => exact .tags h

/-- The text of the query; with a single label, the parentheses are not needed. -/
theorem parse_not_any {labels : List String} (hne : labels ≠ [])
    (h : ∀ l ∈ labels, isValidLabel l = true) :
    parse (toString (Expr.neg (.any (labels.map .tag))))
      = .ok (.neg (joined .any (labels.map .tag))) := by
  let tags := labels.map Expr.tag
  have hne : tags ≠ [] := by simpa [tags] using hne
  have hread : ∀ e ∈ tags, e.Readable := by
    intro e he
    obtain ⟨l, hl, rfl⟩ := List.mem_map.mp he
    exact .tag (h l hl)
  have hnesting : ∀ e ∈ tags, e.nesting ≤ 0 := by
    intro e he
    obtain ⟨l, -, rfl⟩ := List.mem_map.mp he
    exact Nat.le_refl 0
  have hflat : Expr.flatAny tags = tags := by
    rw [Expr.flatAny_eq_flatMap, Expr.flatMap_eq_self]
    intro e he
    obtain ⟨l, -, rfl⟩ := List.mem_map.mp he
    rfl
  have hchain := chain_flatAny hne (fun e he => (hread e he).reads) hnesting follows_nil
  rw [hflat, List.append_nil] at hchain
  have hwritten : Written 0 (joined .any tags) (Expr.renderAny tags) :=
    ⟨_, _, .refl _, ⟨tags, rfl, hchain⟩, .refl []⟩
  have hneg : Operand 2 (.neg (joined .any tags)) (Expr.neg (.any tags)).render [] := by
    rw [Expr.render_neg, Expr.render]
    have hgroup := hwritten.group []
    rw [List.append_nil] at hgroup
    exact .neg hgroup
  rw [parse_eq_ok_iff, toList_toString]
  exact ⟨_, _, .refl _, ⟨_, rfl, .one ⟨_, rfl, .one (hneg.mono (by decide))⟩⟩, .refl []⟩

/-! ## Images without labels -/

section

variable {s : Snapshot} {sim : Similarity}

/-- An image without labels is one that carries no label of a plain tag. -/
theorem Associated.any_plainLabels (h : Associated s) (id : ImageId) :
    (s.catalog.plainLabels.any fun l => (s.index.labelsOf id).has l)
      = !(s.index.labelsOf id).isEmpty := by
  rw [Bool.eq_iff_iff, Bool.not_eq_true', List.any_eq_true, Bool.eq_false_iff, ne_eq,
    Table.isEmpty_iff, Classical.not_forall]
  simp only [← ne_eq, ← Option.isSome_iff_ne_none]
  constructor
  · rintro ⟨l, -, hl⟩
    exact ⟨l, hl⟩
  · rintro ⟨l, hl⟩
    exact ⟨l, Catalog.mem_plainLabels_iff.mpr (h.plain id l hl), hl⟩

theorem Associated.satisfies_untaggedQuery (h : Associated s) (sim : Similarity) (image : Image) :
    satisfies s.index sim image s.catalog.untaggedQuery
      = (s.index.labelsOf image.id).isEmpty := by
  rw [Catalog.untaggedQuery, satisfies_neg, satisfies_any, List.any_map]
  show (!s.catalog.plainLabels.any fun l => (s.index.labelsOf image.id).has l) = _
  rw [h.any_plainLabels, Bool.not_not]

theorem satisfies_joined (x : Index) (sim : Similarity) (image : Image) (es : List Expr) :
    satisfies x sim image (joined .any es) = satisfies x sim image (.any es) := by
  match es with
  | [] => rfl
  | [e] => rw [satisfies_any, joined, List.any_cons, List.any_nil, Bool.or_false]
  | _ :: _ :: _ => rfl

theorem Index.toList_ids (x : Index) : x.ids.toList = x.images.keys := by
  show (x.images.entries.map fun e => (e.1, ())).map (·.1) = x.images.entries.map (·.1)
  rw [List.map_map]
  rfl

/-- The evaluator finds the images without labels, by number and without scores. -/
theorem Library.evaluate_untaggedQuery {lib : Library} (h : Associated lib.snapshot) :
    ∃ m, evaluate .never lib.snapshot.index lib.similarity lib.snapshot.catalog.untaggedQuery = .ok m
      ∧ present lib.snapshot.index m
          = lib.untaggedImages.map fun image => ⟨image.id, image.path, none⟩ := by
  obtain ⟨m, hm, hdescribes⟩ :=
    describes_evaluate h.coherent lib.similarity lib.snapshot.catalog.untaggedQuery
  refine ⟨m, hm, ?_⟩
  have hscores : ∀ id, m.scores.get? id = none := by
    intro id
    cases hs : m.scores.get? id with
    | none => rfl
    | some t =>
      -- Only images of the answer have scores, and a negation offers none.
      obtain ⟨image, hg, -⟩ := (hdescribes.has_iff id).mp (hdescribes.scored id t hs)
      have hbest := hdescribes.best id image hg
      rw [hs] at hbest
      exact hbest.1.elim
  have hids : m.ids = lib.snapshot.index.ids.select fun id =>
      (lib.snapshot.index.labelsOf id).isEmpty := by
    refine KeySet.ext_has fun id => ?_
    rw [Bool.eq_iff_iff, KeySet.has_select, Bool.and_eq_true, Describes.has_ids,
      hdescribes.has_iff]
    simp only [h.satisfies_untaggedQuery]
    constructor
    · rintro ⟨image, hg, hempty⟩
      rw [h.coherent.image_id id image hg] at hempty
      exact ⟨⟨image, hg⟩, hempty⟩
    · rintro ⟨⟨image, hg⟩, hempty⟩
      refine ⟨image, hg, ?_⟩
      rwa [h.coherent.image_id id image hg]
  rw [present_of_unscored hscores, hids, KeySet.toList_select, Index.toList_ids, untaggedImages,
    Index.untagged, List.map_filterMap]
  congr 1
  funext id
  cases hg : lib.snapshot.index.images.get? id with
  | none => rfl
  | some image => rw [Option.map_some, Option.map_some, h.coherent.image_id id image hg]

theorem Library.mem_untaggedImages_iff {lib : Library} (hx : lib.snapshot.index.Coherent)
    {image : Image} : image ∈ lib.untaggedImages ↔
      lib.snapshot.index.images.get? image.id = some image
        ∧ (lib.snapshot.index.labelsOf image.id).isEmpty = true := by
  simp only [untaggedImages, Index.untagged, List.mem_filterMap, List.mem_filter]
  constructor
  · rintro ⟨id, ⟨-, hempty⟩, hg⟩
    obtain rfl := hx.image_id id image hg
    exact ⟨hg, hempty⟩
  · rintro ⟨hg, hempty⟩
    refine ⟨image.id, ⟨Table.mem_keys_iff.mpr ?_, hempty⟩, hg⟩
    rw [hg]
    rfl

/-- The query, asked as a text, finds the images without labels. -/
theorem Library.query_untaggedQuery {lib : Library} (h : Associated lib.snapshot)
    (hk : Sound lib.snapshot.catalog lib.cache) (hne : lib.snapshot.catalog.plainLabels ≠ []) :
    ∃ out lib', lib.query (toString lib.snapshot.catalog.untaggedQuery) .never = (.ok out, lib')
      ∧ (out.images.map (·.id)).Nodup
      ∧ ∀ id path, (∃ score, ⟨id, path, score⟩ ∈ out.images)
          ↔ ∃ image ∈ lib.untaggedImages, image.id = id ∧ image.path = path := by
  have hplain : ∀ l ∈ lib.snapshot.catalog.plainLabels, lib.snapshot.catalog.meaning l = .plain :=
    fun l hl => Catalog.mem_plainLabels_iff.mp hl
  have hvalid : ∀ l ∈ lib.snapshot.catalog.plainLabels, isValidLabel l = true := by
    intro l hl
    obtain ⟨t, ht, -⟩ := Catalog.meaning_eq_plain_iff.mp (hplain l hl)
    exact (h.labeled l t ht).2
  have hexpands := (Expands.joined_tags hplain).neg
  have hgrounded := grounded_of_resolvable hexpands.resolvable
  obtain ⟨m, warnings, lib', hquery, hids⟩ :=
    query_of_sound hk h.coherent (parse_not_any hne hvalid) hgrounded
  refine ⟨_, lib', hquery, nodup_present _ m, fun id path => ?_⟩
  have hempty : ∀ image, Verdict lib.snapshot lib.similarity image
      (.neg (joined .any (lib.snapshot.catalog.plainLabels.map .tag))) true
        ↔ (lib.snapshot.index.labelsOf image.id).isEmpty = true := by
    intro image
    have hsatisfies := h.satisfies_untaggedQuery lib.similarity image
    have hverdict : Verdict lib.snapshot lib.similarity image _ _ := hexpands.verdict
    rw [Catalog.untaggedQuery, satisfies_neg, ← satisfies_joined, ← satisfies_neg] at hsatisfies
    rw [hsatisfies] at hverdict
    constructor
    · exact fun htrue => hverdict.unique htrue
    · exact fun htrue => htrue ▸ hverdict
  rw [mem_present_iff]
  constructor
  · rintro ⟨hid, image, hg, rfl⟩
    have hsame := h.coherent.image_id id image hg
    subst hsame
    have hnone := (hempty image).mp ((hids _ image hg).mp hid)
    exact ⟨image, (mem_untaggedImages_iff h.coherent).mpr ⟨hg, hnone⟩, rfl, rfl⟩
  · rintro ⟨image, himage, rfl, rfl⟩
    obtain ⟨hg, hnone⟩ := (mem_untaggedImages_iff h.coherent).mp himage
    exact ⟨(hids _ image hg).mpr ((hempty image).mpr hnone), image, hg, rfl⟩

end

/-! ## Libraries -/

namespace Library

variable {lib : Library}

/-- Changes are steps of a history. -/
theorem library_foldl_change (h : History) (changes : List LibraryChange) :
    ((changes.map Step.change).foldl History.step h).library = h.library.applyAll changes := by
  induction changes generalizing h with
  | nil => rfl
  | cons c changes ih => exact ih (h.step (.change c))

theorem Reachable.sound (h : lib.Reachable) : Sound lib.snapshot.catalog lib.cache := by
  obtain ⟨similarity, changes, rfl⟩ := h
  have hh := consistent_run (.empty similarity) (changes.map .change)
  have hlib : (History.run { similarity } (changes.map .change)).library
      = ({ similarity } : Library).applyAll changes := library_foldl_change _ changes
  have hsound := hh.sound _ hh.current
  rwa [hlib] at hsound

/-- **Only labels of known plain tags are on images**, in every library that changes lead to, and the
postings have the same labels.  So the images without labels are those that carry the label of no
plain tag: the evaluator finds them in the same order and without scores, and so does the query that
is written so, if there is a plain tag at all. -/
theorem association (h : lib.Reachable) :
    (∀ id l, (lib.snapshot.index.labelsOf id).has l = true →
        ∃ t, lib.snapshot.catalog.tag? l = some t ∧ t.label = l ∧ t.definition = none)
      ∧ (∀ l, (lib.snapshot.index.posting? l).isSome
          ↔ ∃ id, (lib.snapshot.index.labelsOf id).has l = true)
      ∧ (∃ m, evaluate .never lib.snapshot.index lib.similarity lib.snapshot.catalog.untaggedQuery
            = .ok m
          ∧ present lib.snapshot.index m
            = lib.untaggedImages.map fun image => ⟨image.id, image.path, none⟩)
      ∧ (lib.snapshot.catalog.plainLabels ≠ [] →
          ∃ out lib', lib.query (toString lib.snapshot.catalog.untaggedQuery) .never
              = (.ok out, lib')
            ∧ (out.images.map (·.id)).Nodup
            ∧ ∀ id path, (∃ score, ⟨id, path, score⟩ ∈ out.images)
                ↔ ∃ image ∈ lib.untaggedImages, image.id = id ∧ image.path = path) := by
  have hs := h.associated
  refine ⟨fun id l hl => ?_, fun l => hs.coherent.isSome_posting_iff, evaluate_untaggedQuery hs,
    query_untaggedQuery hs h.sound⟩
  obtain ⟨t, ht, hnone⟩ := Catalog.meaning_eq_plain_iff.mp (hs.plain id l hl)
  exact ⟨t, ht, (hs.labeled l t ht).1, hnone⟩

/-- Three images of which two get labels, one of them for a while only: its tag is removed and made
again with a definition.  Some of the changes are refused. -/
def recreation : List LibraryChange :=
  [.registerImage "sea.jpg" none, .registerImage "fire.png" none,
    .registerImage "night.jpg" none, .createTag "red" none none, .createTag "blue" none none,
    .createTag "warm" none (some "red"), .tagImage 1 "blue", .tagImage 2 "red",
    .setImageTags 3 ["red", "warm"], .redefineTag "red" (some "blue"), .removeTag "blue",
    .createTag "blue" none (some "-red"), .tagImage 3 "blue"]

theorem association_recreation :
    ∃ out lib', (({} : Library).applyAll recreation).query "-(red)" .never = (.ok out, lib')
      ∧ (∃ score, ⟨1, "sea.jpg", score⟩ ∈ out.images)
      ∧ ¬∃ score, ⟨2, "fire.png", score⟩ ∈ out.images := by
  let lib := ({} : Library).applyAll recreation
  have hplain : lib.snapshot.catalog.plainLabels = ["red"] := by decide +kernel
  have htext : toString lib.snapshot.catalog.untaggedQuery = "-(red)" := by
    refine congrArg String.ofList (?_ : Expr.render _ = _)
    rw [Catalog.untaggedQuery, hplain]
    simp [Expr.render, Expr.renderAny, Expr.parenthesize]
  have huntagged : lib.untaggedImages.map (fun i => (i.id, i.path))
      = [(1, "sea.jpg"), (3, "night.jpg")] := by decide +kernel
  have hmem : ∀ id path, (∃ image ∈ lib.untaggedImages, image.id = id ∧ image.path = path)
      ↔ (id, path) ∈ [(1, "sea.jpg"), (3, "night.jpg")] := by
    intro id path
    rw [← huntagged, List.mem_map]
    simp only [Prod.mk.injEq]
  have hreachable : lib.Reachable := ⟨default, recreation, rfl⟩
  obtain ⟨-, -, -, hquery⟩ := association hreachable
  obtain ⟨out, lib', hout, -, himages⟩ := hquery (by rw [hplain]; exact List.cons_ne_nil _ _)
  rw [htext] at hout
  refine ⟨out, lib', hout, ?_, ?_⟩
  · rw [himages, hmem]
    decide
  · rw [himages, hmem]
    decide

end Library

end Gallery
