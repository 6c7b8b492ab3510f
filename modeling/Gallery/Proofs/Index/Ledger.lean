import Gallery.Proofs.Index.View
import Mathlib.Data.Finset.Card
import Mathlib.Data.Finset.Image

/-!
# `Gallery.Proofs.Index.Ledger` — an index against a plain list of facts

A ledger is what an index would be if nothing had to be found quickly: a table of the images and a set
of facts, each that one image carries one label.  There are no postings, no paths and no sets of labels
to keep in step, so every change is one operation on the table or on the set.  The index does the same
as the ledger in every history, and every question to it has the answer that the ledger gives.

## Contents
- `Ledger` with its readers, and `Ledger.apply`, the changes as operations on table and set.
- `Records`, an index and a ledger say the same; `Records.agree_apply`, a change is answered alike and
  they still do.
- `Reads`, the answers to all questions; `Records.reads`.
- `IndexChange.edits` and `IndexChange.touches`, what a change is about; `Frame`, everything else
  stays; `Frame.of_records`.
- The result: `reads_ledger`.
-/

namespace Gallery

open Gallery.Text

/-! ## The ledger -/

/-- What is known of an image besides its number and its labels. -/
structure LedgerEntry where
  path : String
  fingerprint : Option Fingerprint
  deriving DecidableEq

/-- The images, and which of them carries which label. -/
structure Ledger where
  images : Table ImageId LedgerEntry := ∅
  pairs : Finset (ImageId × String) := ∅

namespace Ledger

instance : EmptyCollection Ledger := ⟨⟨∅, ∅⟩⟩

/-- Whether some image whose number has `p` is at the path. -/
def taken (r : Ledger) (path : String) (p : ImageId → Bool) : Bool :=
  r.images.entries.any fun e => p e.1 && e.2.path == path

/-- The images that carry a label. -/
def carriers (r : Ledger) (label : String) : Finset ImageId :=
  (r.pairs.filter (·.2 = label)).image (·.1)

/-- The labels of an image. -/
def labelsOf (r : Ledger) (id : ImageId) : Finset String :=
  (r.pairs.filter (·.1 = id)).image (·.2)

/-- Applies a change. -/
def apply (r : Ledger) : IndexChange → Except LibraryError Reply × Ledger
  | .insertImage image =>
    if r.taken image.path fun _ => true then (.error (.duplicatePath image.path), r)
    else
      match r.images.get? image.id with
      | some old => (.error (.duplicatePath old.path), r)
      | none =>
        (.ok .done, { r with images := r.images.insert image.id ⟨image.path, image.fingerprint⟩ })
  | .removeImage id =>
    match r.images.get? id with
    | none => (.error (.unknownImage id), r)
    | some e =>
      (.ok (.image (.make id e.path e.fingerprint)),
        ⟨r.images.erase id, r.pairs.filter (·.1 ≠ id)⟩)
  | .moveImage id path =>
    if r.taken path (· != id) then (.error (.duplicatePath path), r)
    else
      match r.images.get? id with
      | none => (.error (.unknownImage id), r)
      | some e => (.ok .done, { r with images := r.images.insert id { e with path } })
  | .setFingerprint id fingerprint =>
    match r.images.get? id with
    | none => (.error (.unknownImage id), r)
    | some e => (.ok .done, { r with images := r.images.insert id { e with fingerprint } })
  | .tag id label =>
    if r.images.contains id then
      (.ok (.flag ((id, label) ∉ r.pairs)), { r with pairs := insert (id, label) r.pairs })
    else (.error (.unknownImage id), r)
  | .untag id label =>
    if r.images.contains id then
      (.ok (.flag ((id, label) ∈ r.pairs)), { r with pairs := r.pairs.erase (id, label) })
    else (.error (.unknownImage id), r)
  | .setLabels id labels =>
    if r.images.contains id then
      (.ok .done,
        { r with pairs := r.pairs.filter (·.1 ≠ id) ∪ labels.toFinset.image (id, ·) })
    else (.error (.unknownImage id), r)
  | .dropLabel label => (.ok .done, { r with pairs := r.pairs.filter (·.2 ≠ label) })

/-- Applies several changes. -/
def applyAll (r : Ledger) (changes : List IndexChange) : Ledger :=
  changes.foldl (fun r c => (r.apply c).2) r

variable {r : Ledger} {id : ImageId} {label : String}

@[simp] theorem mem_carriers : id ∈ r.carriers label ↔ (id, label) ∈ r.pairs := by
  simp [carriers]

@[simp] theorem mem_labelsOf : label ∈ r.labelsOf id ↔ (id, label) ∈ r.pairs := by
  simp [labelsOf]

end Ledger

/-! ## Index and ledger side by side -/

namespace Index

/-- The image of an entry. -/
def imageOf (id : ImageId) (e : LedgerEntry) : Image := .make id e.path e.fingerprint

/-- An index and a ledger know the same images with the same labels. -/
structure Records (x : Index) (r : Ledger) : Prop where
  images : x.images = r.images.map imageOf
  pairs : ∀ id l, (id, l) ∈ r.pairs ↔ (x.labelsOf id).has l = true

variable {x y : Index} {r : Ledger} {id : ImageId} {label l path : String}

theorem records_empty : Records ∅ ∅ where
  images := rfl
  pairs := fun _ _ => iff_of_false (Finset.notMem_empty _) nofun

theorem Records.get? (h : Records x r) (id : ImageId) :
    x.images.get? id = (r.images.get? id).map (imageOf id) := by
  rw [h.images, Table.get?_map]

theorem Records.contains_eq (h : Records x r) (id : ImageId) :
    x.images.contains id = r.images.contains id := by
  rw [Table.contains, Table.contains, h.get?, Option.isSome_map]

/-- The paths of an index are found by going through the entries. -/
theorem Records.any_paths (h : Records x r) (hx : Coherent x) (path : String)
    (p : ImageId → Bool) : (x.paths.get? path).any p = r.taken path p := by
  rw [Bool.eq_iff_iff, Option.any_eq_true, Ledger.taken, List.any_eq_true]
  simp only [hx.path_iff, h.get?, Option.map_eq_some_iff, Bool.and_eq_true, beq_iff_eq,
    Prod.exists, Table.mem_entries_iff]
  constructor
  · rintro ⟨id, ⟨_, ⟨e, he, rfl⟩, hpath⟩, hp⟩
    exact ⟨id, e, he, hp, hpath⟩
  · rintro ⟨id, e, he, hp, hpath⟩
    exact ⟨id, ⟨_, ⟨e, he, rfl⟩, hpath⟩, hp⟩

/-- The image under one number is put in place of what was there. -/
theorem Records.insert (h : Records x r) (e : LedgerEntry) (hlabels : y.labels = x.labels)
    (himages : y.images = x.images.insert id (imageOf id e)) :
    Records y { r with images := r.images.insert id e } where
  images := by
    rw [himages, h.images]
    refine Table.ext_get? fun id' => ?_
    rw [Table.get?_insert, Table.get?_map, Table.get?_map, Table.get?_insert]
    split
    · rename_i hid
      rw [hid, Option.map_some]
    · rfl
  pairs := fun id' l => by rw [has_of_labels hlabels, h.pairs]

/-- The labels change and the images stay. -/
theorem Records.relabel (h : Records x r) {pairs : Finset (ImageId × String)}
    (himages : y.images = x.images)
    (hpairs : ∀ id l, (id, l) ∈ pairs ↔ (y.labelsOf id).has l = true) :
    Records y { r with pairs } where
  images := himages.trans h.images
  pairs := hpairs

/-! ### One lemma for each change -/

/-- A change is answered alike on both sides, and both say the same afterwards. -/
def Agree (answer : Except LibraryError Reply × Index)
    (answer' : Except LibraryError Reply × Ledger) : Prop :=
  answer.1 = answer'.1 ∧ Records answer.2 answer'.2

theorem Records.agree_insertImage (h : Records x r) (hx : Coherent x) (image : Image) :
    Agree (x.apply (.insertImage image)) (r.apply (.insertImage image)) := by
  have hpath : x.paths.contains image.path = r.taken image.path fun _ => true := by
    rw [← h.any_paths hx, Table.contains]
    cases x.paths.get? image.path <;> rfl
  unfold apply Ledger.apply insertImage
  dsimp only
  rw [hpath, h.get?]
  cases r.taken image.path fun _ => true with
  | true => exact ⟨rfl, h⟩
  | false =>
    cases r.images.get? image.id with
    | some old => exact ⟨rfl, h⟩
    | none =>
      -- The name and the extension that come with the image are those of its path.
      have himages := congrArg (x.images.insert image.id) image.eq_make
      exact ⟨rfl, h.insert ⟨image.path, image.fingerprint⟩ rfl himages⟩

/-- With the image go its facts, whatever postings they stood in. -/
theorem Records.agree_removeImage (h : Records x r) (id : ImageId) :
    Agree (x.apply (.removeImage id)) (r.apply (.removeImage id)) := by
  have hget := h.get? id
  unfold apply Ledger.apply
  dsimp only
  cases he : r.images.get? id with
  | none =>
    have hy : x.removeImage id = .error (.unknownImage id) := by
      rw [removeImage, hget, he]
      rfl
    rw [hy]
    exact ⟨rfl, h⟩
  | some e =>
    have hy : ∃ y, x.removeImage id = .ok (imageOf id e, y) ∧ y.images = x.images.erase id := by
      rw [removeImage, hget, he]
      exact ⟨_, rfl, rfl⟩
    obtain ⟨y, hy, himages⟩ := hy
    rw [hy]
    refine ⟨rfl, ?_, fun id' l => ?_⟩
    · show y.images = (r.images.erase id).map imageOf
      rw [himages]
      refine Table.ext_get? fun id' => ?_
      rw [Table.get?_erase, h.get?, Table.get?_map, Table.get?_erase]
      split <;> rfl
    · show (id', l) ∈ r.pairs.filter (·.1 ≠ id) ↔ (y.labelsOf id').has l = true
      rw [Finset.mem_filter, h.pairs, has_removeImage hy]
      by_cases hid : id' = id <;> simp [hid]

theorem Records.agree_moveImage (h : Records x r) (hx : Coherent x) (id : ImageId)
    (path : String) : Agree (x.apply (.moveImage id path)) (r.apply (.moveImage id path)) := by
  unfold apply Ledger.apply moveImage
  dsimp only
  rw [h.any_paths hx, h.get?]
  cases r.taken path (· != id) with
  | true => exact ⟨rfl, h⟩
  | false =>
    cases r.images.get? id with
    | none => exact ⟨rfl, h⟩
    | some e => exact ⟨rfl, h.insert { e with path } rfl rfl⟩

theorem Records.agree_setFingerprint (h : Records x r) (id : ImageId)
    (fingerprint : Option Fingerprint) :
    Agree (x.apply (.setFingerprint id fingerprint)) (r.apply (.setFingerprint id fingerprint)) := by
  unfold apply Ledger.apply setFingerprint
  dsimp only
  rw [h.get?]
  cases r.images.get? id with
  | none => exact ⟨rfl, h⟩
  | some e => exact ⟨rfl, h.insert { e with fingerprint } rfl rfl⟩

/-- A registered image takes a label; the flag tells whether the label is new there. -/
theorem exists_tag (hid : x.images.contains id = true) (label : String) :
    ∃ y, x.tag id label = .ok (!(x.labelsOf id).has label, y) ∧ y.images = x.images := by
  unfold tag
  rw [hid, Bool.not_true, if_neg Bool.false_ne_true]
  dsimp only
  cases (x.labelsOf id).has label with
  | true => exact ⟨_, rfl, rfl⟩
  | false => exact ⟨_, rfl, rfl⟩

/-- A registered image loses a label; the flag tells whether it was there. -/
theorem exists_untag (hid : x.images.contains id = true) (label : String) :
    ∃ y, x.untag id label = .ok ((x.labelsOf id).has label, y) ∧ y.images = x.images := by
  unfold untag
  rw [hid, Bool.not_true, if_neg Bool.false_ne_true]
  dsimp only
  cases (x.labelsOf id).has label with
  | true => exact ⟨_, rfl, rfl⟩
  | false => exact ⟨_, rfl, rfl⟩

theorem exists_setLabels (hid : x.images.contains id = true) (labels : List String) :
    ∃ y, x.setLabels id labels = .ok y ∧ y.images = x.images := by
  unfold setLabels
  rw [hid, Bool.not_true, if_neg Bool.false_ne_true]
  exact ⟨_, rfl, rfl⟩

theorem Records.decide_mem_pairs (h : Records x r) (id : ImageId) (label : String) :
    decide ((id, label) ∈ r.pairs) = (x.labelsOf id).has label := by
  rw [Bool.eq_iff_iff, decide_eq_true_iff, h.pairs]

/-- A change of the labels of one image: refused if there is no such image, else the images stay and
the facts are those of the index. -/
theorem Records.agree_relabel (h : Records x r) {change : IndexChange} {reply : Reply}
    {pairs : Finset (ImageId × String)}
    (hledger : r.apply change = if r.images.contains id then (.ok reply, { r with pairs })
      else (.error (.unknownImage id), r))
    (hknown : x.images.contains id = true → ∃ y, x.apply change = (.ok reply, y)
      ∧ y.images = x.images ∧ ∀ id' l, (id', l) ∈ pairs ↔ (y.labelsOf id').has l = true)
    (hunknown : x.images.contains id = false →
      x.apply change = (.error (.unknownImage id), x)) :
    Agree (x.apply change) (r.apply change) := by
  rw [hledger, ← h.contains_eq]
  cases hid : x.images.contains id with
  | true =>
    obtain ⟨y, hy, himages, hpairs⟩ := hknown hid
    rw [hy, if_pos rfl]
    exact ⟨rfl, h.relabel himages hpairs⟩
  | false =>
    rw [hunknown hid, if_neg Bool.false_ne_true]
    exact ⟨rfl, h⟩

theorem Records.agree_tag (h : Records x r) (id : ImageId) (label : String) :
    Agree (x.apply (.tag id label)) (r.apply (.tag id label)) := by
  refine h.agree_relabel rfl (fun hid => ?_) fun hid => ?_
  · obtain ⟨y, hy, himages⟩ := exists_tag hid label
    refine ⟨y, ?_, himages, fun id' l => ?_⟩
    · rw [apply, hy, decide_not, h.decide_mem_pairs]
      rfl
    · rw [Finset.mem_insert, Prod.mk.injEq, h.pairs, has_tag hy]
      simp
  · rw [apply, tag, hid]
    rfl

theorem Records.agree_untag (h : Records x r) (id : ImageId) (label : String) :
    Agree (x.apply (.untag id label)) (r.apply (.untag id label)) := by
  refine h.agree_relabel rfl (fun hid => ?_) fun hid => ?_
  · obtain ⟨y, hy, himages⟩ := exists_untag hid label
    refine ⟨y, ?_, himages, fun id' l => ?_⟩
    · rw [apply, hy, h.decide_mem_pairs]
      rfl
    · rw [Finset.mem_erase, ne_eq, Prod.mk.injEq, h.pairs, has_untag hy, ← Bool.decide_and]
      simp only [Bool.and_eq_true, Bool.not_eq_true', decide_eq_false_iff_not]
  · rw [apply, untag, hid]
    rfl

theorem Records.agree_setLabels (h : Records x r) (id : ImageId) (labels : List String) :
    Agree (x.apply (.setLabels id labels)) (r.apply (.setLabels id labels)) := by
  refine h.agree_relabel rfl (fun hid => ?_) fun hid => ?_
  · obtain ⟨y, hy, himages⟩ := exists_setLabels hid labels
    refine ⟨y, ?_, himages, fun id' l => ?_⟩
    · rw [apply, hy]
      rfl
    · rw [Finset.mem_union, Finset.mem_filter, h.pairs, has_setLabels hy]
      by_cases hsame : id' = id
      · simp [hsame]
      · simp [hsame, Ne.symm hsame]
  · rw [apply, setLabels, hid]
    rfl

theorem images_dropLabel (x : Index) (label : String) : (x.dropLabel label).images = x.images := by
  unfold dropLabel
  split <;> rfl

theorem Records.agree_dropLabel (h : Records x r) (hx : Coherent x) (label : String) :
    Agree (x.apply (.dropLabel label)) (r.apply (.dropLabel label)) := by
  refine ⟨rfl, h.relabel (images_dropLabel x label) fun id l => ?_⟩
  show _ ↔ ((x.dropLabel label).labelsOf id).has l = true
  rw [Finset.mem_filter, h.pairs, hx.has_dropLabel]
  simp [and_comm]

/-- **Every change does the same to an index and to its ledger**, refused ones included. -/
theorem Records.agree_apply (h : Records x r) (hx : Coherent x) (change : IndexChange) :
    Agree (x.apply change) (r.apply change) := by
  cases change with
  | insertImage image => exact h.agree_insertImage hx image
  | removeImage id => exact h.agree_removeImage id
  | moveImage id path => exact h.agree_moveImage hx id path
  | setFingerprint id fingerprint => exact h.agree_setFingerprint id fingerprint
  | tag id label => exact h.agree_tag id label
  | untag id label => exact h.agree_untag id label
  | setLabels id labels => exact h.agree_setLabels id labels
  | dropLabel label => exact h.agree_dropLabel hx label

theorem Records.applyAll (h : Records x r) (hx : Coherent x) (changes : List IndexChange) :
    Records (x.applyAll changes) (r.applyAll changes) := by
  induction changes generalizing x r with
  | nil => exact h
  | cons c changes ih => exact ih (h.agree_apply hx c).2 (coherent_apply hx c)

/-! ## Questions -/

/-- Every question to an index has the answer of a ledger. -/
structure Reads (x : Index) (r : Ledger) : Prop where
  image : ∀ id, x.images.get? id = (r.images.get? id).map (imageOf id)
  name : ∀ id, (x.images.get? id).map Image.name
    = (r.images.get? id).map fun e => FilePath.stem e.path
  extension : ∀ id, (x.images.get? id).map Image.extension
    = (r.images.get? id).map fun e => FilePath.extension e.path
  imageByPath : ∀ path image, x.imageByPath? path = some image ↔
    ∃ e, r.images.get? image.id = some e ∧ e.path = path ∧ image = imageOf image.id e
  size : x.images.size = r.images.size
  ids : x.ids.toList = r.images.keys
  nextImageId : x.nextImageId = r.images.lastKey?.getD 0 + 1
  /-- There is a posting for a label that some image carries, and for no other. -/
  posting : ∀ l, (x.posting? l).map (·.toList.toFinset)
    = if (r.carriers l).Nonempty then some (r.carriers l) else none
  postingSize : ∀ l, x.postingSize l = (r.carriers l).card
  labelsOf : ∀ id, (x.labelsOf id).toList.toFinset = r.labelsOf id
  untagged : x.untagged = r.images.keys.filter fun id => decide (r.labelsOf id = ∅)

theorem Coherent.imageByPath?_eq_some_iff {image : Image} (hx : Coherent x) :
    x.imageByPath? path = some image ↔
      x.images.get? image.id = some image ∧ image.path = path := by
  constructor
  · intro h
    have himage := hx.get?_of_imageByPath? h
    obtain ⟨i, hi, hget⟩ := Option.bind_eq_some_iff.mp h
    obtain ⟨old, hold, hpath⟩ := (hx.path_iff path i).mp hi
    obtain rfl := Option.some.inj (hold.symm.trans hget)
    exact ⟨himage, hpath⟩
  · rintro ⟨hget, hpath⟩
    exact Option.bind_eq_some_iff.mpr ⟨_, (hx.path_iff path _).mpr ⟨image, hget, hpath⟩, hget⟩

theorem Records.keys_eq (h : Records x r) : x.images.keys = r.images.keys := by
  rw [h.images, Table.keys_map]

theorem Records.labelsOf_eq (h : Records x r) (id : ImageId) :
    (x.labelsOf id).toList.toFinset = r.labelsOf id := by
  ext l
  rw [List.mem_toFinset, KeySet.mem_toList, Ledger.mem_labelsOf, h.pairs]

/-- A posting lists the carriers, and what has no carriers has no posting. -/
theorem Records.posting_eq (h : Records x r) (hx : Coherent x) (l : String) :
    (x.posting? l).map (·.toList.toFinset)
      = if (r.carriers l).Nonempty then some (r.carriers l) else none := by
  have hcarriers : ∀ id, id ∈ r.carriers l ↔ listed x.postings l id = true := fun id => by
    rw [Ledger.mem_carriers, h.pairs, hx.listed_eq]
  unfold posting?
  cases hp : x.postings.get? l with
  | none =>
    have hnone : ¬ (r.carriers l).Nonempty := by
      rintro ⟨id, hid⟩
      rw [hcarriers, listed, hp] at hid
      cases hid
    rw [if_neg hnone]
    rfl
  | some ids =>
    have hlisted : ∀ id, listed x.postings l id = ids.has id := fun id => by
      rw [listed, hp, Option.getD_some]
    have hset : ids.toList.toFinset = r.carriers l := by
      ext id
      rw [List.mem_toFinset, KeySet.mem_toList, hcarriers, hlisted]
    obtain ⟨id, hid⟩ := hx.trimmed l ids hp
    have hsome : (r.carriers l).Nonempty := ⟨id, by rw [hcarriers, hlisted, hid]⟩
    rw [if_pos hsome, Option.map_some, hset]

theorem Records.reads (h : Records x r) (hx : Coherent x) : Reads x r where
  image := h.get?
  name := fun id => by
    rw [h.get?, Option.map_map]
    rfl
  extension := fun id => by
    rw [h.get?, Option.map_map]
    rfl
  imageByPath := fun path image => by
    rw [hx.imageByPath?_eq_some_iff, h.get?, Option.map_eq_some_iff]
    constructor
    · rintro ⟨⟨e, he, himage⟩, rfl⟩
      exact ⟨e, he, congrArg Image.path himage, himage.symm⟩
    · rintro ⟨e, he, rfl, himage⟩
      exact ⟨⟨e, he, himage.symm⟩, congrArg Image.path himage⟩
  size := by
    rw [h.images]
    exact List.length_map _
  ids := (Table.keys_map ..).trans h.keys_eq
  nextImageId := by rw [nextImageId, Table.lastKey?, h.keys_eq, Table.lastKey?]
  posting := h.posting_eq hx
  postingSize := fun l => by
    have hposting := h.posting_eq hx l
    unfold postingSize
    cases hp : x.posting? l with
    | none =>
      rw [hp, Option.map_none] at hposting
      split at hposting
      · cases hposting
      · rename_i hnone
        rw [Finset.not_nonempty_iff_eq_empty.mp hnone, Finset.card_empty]
        rfl
    | some ids =>
      rw [hp, Option.map_some] at hposting
      split at hposting
      · have hnodup : ids.toList.Nodup := ids.keys_nodup
        rw [← Option.some.inj hposting, List.toFinset_card_of_nodup hnodup]
        exact (List.length_map _).symm
      · cases hposting
  labelsOf := h.labelsOf_eq
  untagged := by
    rw [untagged, h.keys_eq]
    refine List.filter_congr fun id _ => ?_
    rw [Bool.eq_iff_iff, decide_eq_true_iff, ← h.labelsOf_eq, List.toFinset_eq_empty_iff,
      KeySet.toList, Table.keys, List.map_eq_nil_iff, Table.isEmpty, List.isEmpty_iff]

end Index

/-! ## What a change is about -/

namespace IndexChange

/-- The image whose path or fingerprint a change is about. -/
def edits : IndexChange → Option ImageId
  | .insertImage image => some image.id
  | .removeImage id | .moveImage id _ | .setFingerprint id _ => some id
  | .tag .. | .untag .. | .setLabels .. | .dropLabel _ => none

/-- Whether a change is about an image carrying a label. -/
def touches : IndexChange → ImageId → String → Bool
  | .insertImage _, _, _ | .moveImage .., _, _ | .setFingerprint .., _, _ => false
  | .removeImage id, id', _ | .setLabels id _, id', _ => id' == id
  | .tag id label, id', label' | .untag id label, id', label' => id' == id && label' == label
  | .dropLabel label, _, label' => label' == label

end IndexChange

namespace Index

/-- Everything that the change `c` is not about is in `y` as it was in `x`. -/
structure Frame (c : IndexChange) (x y : Index) : Prop where
  image : ∀ id, c.edits ≠ some id → y.images.get? id = x.images.get? id
  imageByPath : ∀ path image, c.edits ≠ some image.id →
    (y.imageByPath? path = some image ↔ x.imageByPath? path = some image)
  has : ∀ id l, c.touches id l = false → (y.labelsOf id).has l = (x.labelsOf id).has l
  /-- An image keeps its labels when none of those that the change is about comes or goes. -/
  labelsOf : ∀ id, (∀ l, c.touches id l = true → (y.labelsOf id).has l = (x.labelsOf id).has l) →
    y.labelsOf id = x.labelsOf id
  /-- A label keeps its posting when none of the images that the change is about gains or loses it. -/
  posting : ∀ l, (∀ id, c.touches id l = true → (y.labelsOf id).has l = (x.labelsOf id).has l) →
    y.posting? l = x.posting? l

end Index

namespace Ledger

variable {r : Ledger} {id : ImageId} {label : String} {c : IndexChange}

theorem get?_apply_of_edits (r : Ledger) (h : c.edits ≠ some id) :
    (r.apply c).2.images.get? id = r.images.get? id := by
  have hne : ∀ {id'}, some id' ≠ some id → id ≠ id' := fun h hid => h (congrArg some hid.symm)
  cases c <;> unfold apply <;> dsimp only
  case insertImage image =>
    split
    · rfl
    · split
      · rfl
      · exact Table.get?_insert_of_ne _ _ (hne h)
  case removeImage id' =>
    split
    · rfl
    · exact (Table.get?_erase ..).trans (if_neg (hne h))
  case moveImage id' path =>
    split
    · rfl
    · split
      · rfl
      · exact Table.get?_insert_of_ne _ _ (hne h)
  case setFingerprint id' fingerprint =>
    split
    · rfl
    · exact Table.get?_insert_of_ne _ _ (hne h)
  -- The other changes keep the table.
  all_goals split <;> rfl

theorem mem_pairs_apply_of_touches (r : Ledger) (h : c.touches id label = false) :
    (id, label) ∈ (r.apply c).2.pairs ↔ (id, label) ∈ r.pairs := by
  cases c <;> simp only [IndexChange.touches, beq_eq_false_iff_ne, Bool.and_eq_false_iff] at h
    <;> unfold apply <;> dsimp only
  case removeImage id' =>
    split
    · rfl
    · simp [h]
  case tag id' l =>
    split
    · simpa using fun hid hl => absurd hl (h.resolve_left (not_not_intro hid))
    · rfl
  case untag id' l =>
    split
    · simpa using fun _ hid hl => absurd hl (h.resolve_left (not_not_intro hid))
    · rfl
  case setLabels id' labels =>
    split
    · simp [h, Ne.symm h]
    · rfl
  case dropLabel l => simp [h]
  -- The other changes keep the facts.
  case setFingerprint => split <;> rfl
  all_goals split <;> [rfl; split <;> rfl]

end Ledger

namespace Index

variable {x y : Index} {r : Ledger} {c : IndexChange}

/-- What stays in the ledger stays in the index, its paths and postings included. -/
theorem Frame.of_records (hx : Coherent x) (hy : Coherent y) (h : Records x r)
    (h' : Records y (r.apply c).2) : Frame c x y := by
  have himage : ∀ id, c.edits ≠ some id → y.images.get? id = x.images.get? id := fun id hid => by
    rw [h'.get?, r.get?_apply_of_edits hid, h.get?]
  have hhas : ∀ id l, c.touches id l = false → (y.labelsOf id).has l = (x.labelsOf id).has l := by
    intro id l hl
    rw [Bool.eq_iff_iff, ← h'.pairs, r.mem_pairs_apply_of_touches hl, h.pairs]
  refine ⟨himage, fun path image hid => ?_, hhas, fun id hid => ?_, fun l hl => ?_⟩
  · rw [hx.imageByPath?_eq_some_iff, hy.imageByPath?_eq_some_iff, himage _ hid]
  · refine KeySet.ext_has fun l => ?_
    cases ht : c.touches id l with
    | false => exact hhas id l ht
    | true => exact hid l ht
  · refine hy.trimmed.get?_eq hx.trimmed fun id => ?_
    rw [hy.listed_eq, hx.listed_eq]
    cases ht : c.touches id l with
    | false => exact hhas id l ht
    | true => exact hl id ht

/-- **An index is a ledger that is quick to search.**  After every history, refused changes included,
every question has the answer of the ledger with the same history; a further change is answered alike
and leaves everything that it is not about. -/
theorem reads_ledger (changes : List IndexChange) :
    Reads (applyAll ∅ changes) (Ledger.applyAll ∅ changes)
      ∧ ∀ c, ((applyAll ∅ changes).apply c).1 = ((Ledger.applyAll ∅ changes).apply c).1
        ∧ Frame c (applyAll ∅ changes) ((applyAll ∅ changes).apply c).2 := by
  have hx := coherent_applyAll coherent_empty changes
  have h := records_empty.applyAll coherent_empty changes
  refine ⟨h.reads hx, fun c => ?_⟩
  obtain ⟨hreply, h'⟩ := h.agree_apply hx c
  exact ⟨hreply, Frame.of_records hx (coherent_apply hx c) h h'⟩

end Index

end Gallery
