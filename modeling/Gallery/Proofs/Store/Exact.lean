import Gallery.Proofs.Fingerprint
import Gallery.Proofs.Store.Grouping

/-!
# `Gallery.Proofs.Store.Exact` — stores that are loaded as they are

Loading leaves out what cannot be displayed.  If all labels and symbols of a store can be, every type
and every tag is loaded, and what the snapshot says is a relation between it and the rows that does not
mention how loading goes about it.

## Contents
- `Legible`, the property, with the types and the tags that the rows then stand for.
- `Represents`, what a snapshot of the rows says.
- `Legible.load_exact`, that it is loaded, in whatever order labels are gathered; an empty label of a
  type is not legible (`not_load_exact_of_spaceless`).
-/

namespace Gallery.Store

/-- The texts of types and tags can be displayed. -/
structure Legible (s : Store) : Prop where
  valid : s.Valid
  type_label : ∀ i r, s.types.get? i = some r → TagType.isValidLabel r.label = true
  /-- The symbol of a type is one character. -/
  type_symbol : ∀ i r, s.types.get? i = some r →
    ∃ c, r.symbol = String.singleton c ∧ isValidSymbol c = true
  tag_label : ∀ i r, s.tags.get? i = some r → isValidLabel r.label = true

variable {s : Store} {l : String}

/-! ## Types -/

/-- A color is kept up to its lowest 24 bits. -/
theorem toNat_clipColor (color : Int) :
    ((TagType.clipColor (UInt32.ofInt color)).toNat : Int) = color % 0x1000000 := by
  have hword : (UInt32.ofInt color).toNat = (color % 0x100000000).toNat := by
    rw [UInt32.ofInt, UInt32.toNat_ofNat']
    omega
  have hclip : (TagType.clipColor (UInt32.ofInt color)).toNat
      = (color % 0x100000000).toNat % 0x1000000 := by
    rw [TagType.clipColor, UInt32.toNat_and, hword]
    exact Nat.and_two_pow_sub_one_eq_mod _ 24
  omega

/-- The row of a legible type stands for the type with its parts. -/
theorem Legible.toType?_eq_some_iff (h : s.Legible) {i : TypeId} {r : TypeRow} {t : TagType}
    (hr : s.types.get? i = some r) :
    r.toType? i = some t ↔ t.id = i ∧ t.label = r.label ∧ r.symbol = String.singleton t.symbol
      ∧ (t.color.toNat : Int) = r.color % 0x1000000 := by
  obtain ⟨c, hc, hvalid⟩ := h.type_symbol i r hr
  rw [TypeRow.toType?_eq_some_iff, hc, String.toList_singleton, List.head?_cons, Option.some.injEq,
    String.singleton_inj, ← toNat_clipColor]
  constructor
  · rintro ⟨-, -, rfl, ht⟩
    rw [ht]
    exact ⟨rfl, rfl, rfl, rfl⟩
  · rintro ⟨rfl, hlabel, rfl, hcolor⟩
    refine ⟨h.type_label _ r hr, hvalid, rfl, ?_⟩
    rw [← hlabel, ← UInt32.toNat_inj.mp (Int.ofNat.inj hcolor)]

/-- Every row of a legible type stands for one. -/
theorem Legible.exists_toType? (h : s.Legible) {i : TypeId} {r : TypeRow}
    (hr : s.types.get? i = some r) : ∃ t, r.toType? i = some t := by
  obtain ⟨c, hc, -⟩ := h.type_symbol i r hr
  let t : TagType := ⟨i, r.label, c, TagType.clipColor (.ofInt r.color)⟩
  exact ⟨t, (h.toType?_eq_some_iff hr).mpr ⟨rfl, rfl, hc, toNat_clipColor r.color⟩⟩

/-- Symbols are unique in a store, and they are all that tells them apart. -/
theorem Legible.distinguishable (h : s.Legible) : s.Distinguishable := by
  intro i j r q t u hr hq ht hu hsymbol
  obtain ⟨-, -, hrt, -⟩ := (h.toType?_eq_some_iff hr).mp ht
  obtain ⟨-, -, hqu, -⟩ := (h.toType?_eq_some_iff hq).mp hu
  exact h.valid.symbol_unique i j r q hr hq (by rw [hrt, hqu, hsymbol])

theorem Legible.contains_types (h : s.Legible) (id : TypeId) :
    s.catalog.types.contains id = s.types.contains id := by
  have hget := catalog_tagType? s id
  unfold Catalog.tagType? at hget
  rw [Table.contains, hget, Numbered.contains, Table.contains]
  show _ = (s.types.get? id).isSome
  cases hr : s.types.get? id with
  | none => rfl
  | some r =>
    obtain ⟨t, ht⟩ := h.exists_toType? hr
    rw [Option.bind_some, ht]
    rfl

/-! ## Tags -/

/-- The tags of the catalog are the rows. -/
theorem Legible.tag?_eq_some_iff (h : s.Legible) {t : Tag} :
    s.catalog.tag? l = some t ↔
      s.tags.get? t.id = some ⟨l, t.typeId, t.definition⟩ ∧ t.label = l := by
  have htype : ∀ {q : TagRow}, s.tags.get? t.id = some q →
      q.typeId.filter s.catalog.types.contains = q.typeId := by
    intro q hq
    cases hid : q.typeId with
    | none => rfl
    | some id =>
      rw [Option.filter_some, h.contains_types, h.valid.type_exists t.id q id hq hid]
      rfl
  constructor
  · intro ht
    obtain ⟨q, hq, rfl, -, heq⟩ := h.valid.row_of_tag? ht
    rw [htype hq] at heq
    rw [hq, congrArg Tag.typeId heq, congrArg Tag.definition heq]
    exact ⟨rfl, congrArg Tag.label heq⟩
  · rintro ⟨hq, rfl⟩
    rw [h.valid.tag?_of_row hq (h.tag_label _ _ hq), htype hq]

/-! ## Images -/

/-- The image of a row has the parts of the row. -/
theorem eq_toImage_iff {r : ImageRow} {id : ImageId} {image : Image} :
    image = r.toImage id ↔ image.id = id ∧ image.path = r.path
      ∧ Fingerprint.Decodes r.fingerprint image.fingerprint := by
  rw [Fingerprint.decodes_iff]
  exact Image.eq_make_iff

/-! ## Snapshots -/

/-- What a snapshot of the rows says. -/
structure Represents (s : Store) (m : Snapshot) : Prop where
  /-- The types are the rows; of their colors 24 bits are kept. -/
  types : ∀ id t, m.catalog.tagType? id = some t ↔ ∃ r, s.types.get? id = some r
    ∧ t.id = id ∧ t.label = r.label ∧ r.symbol = String.singleton t.symbol
    ∧ (t.color.toNat : Int) = r.color % 0x1000000
  /-- The tags are the rows with their types and definitions. -/
  tags : ∀ l t, m.catalog.tag? l = some t ↔
    s.tags.get? t.id = some ⟨l, t.typeId, t.definition⟩ ∧ t.label = l
  /-- The images are the rows with the fingerprints that the bytes stand for. -/
  images : ∀ id image, m.index.images.get? id = some image ↔ ∃ r, s.images.get? id = some r
    ∧ image.id = id ∧ image.path = r.path ∧ Fingerprint.Decodes r.fingerprint image.fingerprint
  /-- An image has the labels of its plain tags. -/
  labels : ∀ id l, (m.index.labelsOf id).has l = true ↔ ∃ r t q, s.images.get? id = some r
    ∧ r.tags.has t = true ∧ s.tags.get? t = some q ∧ q.label = l ∧ q.definition = none
  /-- The tables that make the images easy to search agree with them. -/
  coherent : m.index.Coherent

/-- What is loaded of a legible store. -/
theorem Legible.represents (h : s.Legible) {m : Snapshot} (hm : s.Loads m) : s.Represents m where
  types := by
    intro id t
    rw [Catalog.tagType?, hm.types, ← Catalog.tagType?, catalog_tagType?, Option.bind_eq_some_iff]
    exact exists_congr fun r => and_congr_right fun hr => h.toType?_eq_some_iff hr
  tags := by
    intro l t
    rw [Catalog.tag?, hm.tags, ← Catalog.tag?, h.tag?_eq_some_iff]
  images := by
    intro id image
    have himages : m.index.images.get? id = (s.images.get? id).map fun r => r.toImage id := by
      have hview := congrArg (Option.map Prod.fst) (congrArg (·.get? id) hm.view)
      simpa only [Index.get?_view, get?_view, Option.map_map, Function.comp_def, Option.map_id']
        using hview
    rw [himages, Option.map_eq_some_iff]
    exact exists_congr fun r => and_congr_right fun _ => eq_comm.trans eq_toImage_iff
  labels := by
    intro id l
    rw [hm.has_iff]
    simp only [h.valid.mem_plainLabels_iff]
    constructor
    · rintro ⟨r, hr, t, q, ht, hq, rfl, hplain⟩
      exact ⟨r, t, q, hr, ht, hq, rfl, hplain (h.tag_label t q hq)⟩
    · rintro ⟨r, t, q, hr, ht, hq, hl, hplain⟩
      exact ⟨r, hr, t, q, ht, hq, hl, fun _ => hplain⟩
  coherent := hm.coherent

/-- **A legible store is loaded as it is**: its snapshot holds the types, the tags, the images and
their labels, and it is the same in whatever order the associations are listed and their groups
visited. -/
theorem Legible.load_exact (h : s.Legible) (fresh : Version) :
    ∃ m, s.load fresh = .ok m ∧ s.Represents m
      ∧ ∀ (rows : List (ImageId × String))
          (order : List (ImageId × List String) → List (ImageId × List String)),
          rows.Perm s.associations → (∀ groups, (order groups).Perm groups) →
          s.loadBy rows order fresh = .ok m := by
  obtain ⟨m, hm, hloads⟩ := h.valid.exists_load h.distinguishable fresh
  refine ⟨m, hm, h.represents hloads, fun rows order hrows horder => ?_⟩
  rw [h.valid.loadBy_eq hrows horder, hm]

theorem eq_of_append_empty {ν : Type} {row r : ν} {i : Int}
    (hr : ((∅ : Numbered ν).append row).get? i = some r) : r = row := by
  rw [Numbered.get?_append] at hr
  split at hr
  · exact (Option.some.inj hr).symm
  · cases hr

/-- A store with a compound tag on an image, an ill-sized fingerprint, and a color of more than 24
bits. -/
def pets : Store where
  images :=
    let first := (∅ : Numbered ImageRow).append
      ⟨"a.jpg", some [0, 0, 0, 0, 0, 0, 1, 2], .ofList [1, 2]⟩
    first.append ⟨"b.jpg", some [1, 2, 3], .ofList [1]⟩
  types := (∅ : Numbered TypeRow).append ⟨"animal", "#", 0x1ff8800⟩
  tags := ((∅ : Numbered TagRow).append ⟨"cat", some 1, none⟩).append ⟨"pets", none, some "cat"⟩

theorem legible_pets : pets.Legible where
  valid := by decide +kernel
  type_label := Numbered.forall_get?_iff.mpr (by decide +kernel)
  type_symbol := fun i r hr => by
    rw [eq_of_append_empty hr]
    exact ⟨'#', rfl, by decide +kernel⟩
  tag_label := Numbered.forall_get?_iff.mpr (by decide +kernel)

theorem load_exact_pets : pets.Legible ∧ ∃ m, pets.load 1 = .ok m
    ∧ pets.loadBy pets.associations.reverse List.reverse 1 = .ok m
    ∧ m.catalog.tagType? 1 = some ⟨1, "animal", '#', 0xff8800⟩
    ∧ m.catalog.tag? "pets" = some ⟨2, "pets", none, some "cat"⟩
    ∧ m.index.images.get? 1 = some (.make 1 "a.jpg" (some 0x102))
    ∧ m.index.images.get? 2 = some (.make 2 "b.jpg" none)
    ∧ (m.index.labelsOf 1).has "cat" = true := by
  obtain ⟨m, hm, hrep, horder⟩ := legible_pets.load_exact 1
  refine ⟨legible_pets, m, hm, ?_, ?_, ?_, ?_, ?_, ?_⟩
  · exact horder _ _ (List.reverse_perm _) List.reverse_perm
  · exact (hrep.types 1 _).mpr ⟨⟨"animal", "#", 0x1ff8800⟩, rfl, rfl, rfl, rfl, rfl⟩
  · exact (hrep.tags "pets" _).mpr ⟨rfl, rfl⟩
  · exact (hrep.images 1 _).mpr ⟨_, rfl, rfl, rfl, .word 0x102⟩
  · exact (hrep.images 2 _).mpr ⟨_, rfl, rfl, rfl, .illSized [1, 2, 3] (by decide)⟩
  · exact (hrep.labels 1 "cat").mpr ⟨_, 1, ⟨"cat", some 1, none⟩, rfl, rfl, rfl, rfl, rfl⟩

/-- An empty label does not start with white space, and a type with it is left out. -/
theorem not_load_exact_of_spaceless : ¬∀ s : Store, s.Valid →
    (∀ i r, s.types.get? i = some r →
      (∀ c, r.label.toList.head? = some c → Text.isWhitespace c = false)
        ∧ ∃ c, r.symbol = String.singleton c ∧ isValidSymbol c = true) →
    (∀ i r, s.tags.get? i = some r → isValidLabel r.label = true) →
    ∃ m, s.load 1 = .ok m ∧ ∀ i r, s.types.get? i = some r →
      ∃ t, m.catalog.tagType? i = some t ∧ t.label = r.label := by
  have hvalid : (ofTypes [⟨"", "#", 0⟩]).Valid := by decide +kernel
  intro hall
  obtain ⟨m, hm, hloaded⟩ := hall _ hvalid
    (fun i r hr => by
      rw [eq_of_append_empty hr]
      exact ⟨nofun, '#', rfl, by decide +kernel⟩)
    (fun _ _ h => nomatch h)
  obtain ⟨t, ht, -⟩ := hloaded 1 ⟨"", "#", 0⟩ rfl
  -- What is loaded is what the rows stand for, and the row stands for nothing.
  rw [Catalog.tagType?, (hvalid.loads hm).types, ← Catalog.tagType?, catalog_tagType?,
    Option.bind_eq_some_iff] at ht
  obtain ⟨r, hr, ht⟩ := ht
  rw [eq_of_append_empty hr] at ht
  obtain ⟨hlabel, -⟩ := TypeRow.toType?_eq_some_iff.mp ht
  cases hlabel

end Gallery.Store
