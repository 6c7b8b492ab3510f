import Gallery.Proofs.Catalog.Outcomes
import Gallery.Proofs.Index.View
import Gallery.Proofs.Library.History
import Gallery.Proofs.Store.Rules

/-!
# `Gallery.Proofs.Store.Loading` — what a loaded snapshot says

Loading is four folds, each of which puts the rows of a table one after the other into a part of the
snapshot and may be refused at every row.  The rules of a store exclude all refusals but one: two types
that cannot be told apart by the first character of their symbols.  What is loaded does not depend on
the folds: it is the catalog and the images that the rows stand for.

## Contents
- `foldlM_total`, a fold whose steps succeed for members that fit together.
- `Store.catalog` and `Store.view`, what the rows stand for; `Store.Loads`, a snapshot that says it.
- One lemma for each fold: `loadTypes_eq_ok`, `Valid.loadTags_ok`, `Valid.loadImages_ok`,
  `loadLabels_ok`.
- `Groups`, labels by image: what a visit of all groups makes of the images depends only on the rows
  (`Groups.get?_groupTable_iff`), and loading visits the groups of the rows (`groups_rows`).
- The results: `Valid.loads`, what is loaded, `Valid.load_ok_iff`, which stores are loaded, and
  `Valid.load_outcome`, what loading comes to.
-/

namespace Gallery

/-- A fold over members that fit together pairwise succeeds, if each step does that gets a member
which fits what was folded before. -/
theorem foldlM_total {σ α ε : Type} {f : σ → α → Except ε σ} {R : α → α → Prop}
    (P : List α → σ → Prop) {as : List α} (hR : as.Pairwise R)
    (hstep : ∀ done a s, (∀ b ∈ done, R b a) → a ∈ as → P done s →
      ∃ s', f s a = .ok s' ∧ P (done ++ [a]) s')
    {s : σ} (h : P [] s) : ∃ s', as.foldlM f s = .ok s' ∧ P as s' := by
  -- By induction on what is left to fold, whatever was folded before.
  have hfold : ∀ (done rest : List α) (s : σ), as = done ++ rest → P done s →
      ∃ s', rest.foldlM f s = .ok s' ∧ P as s' := by
    intro done rest
    induction rest generalizing done with
    | nil =>
      intro s has hs
      rw [List.append_nil] at has
      exact ⟨s, rfl, has ▸ hs⟩
    | cons a rest ih =>
      intro s has hs
      have hfits : ∀ b ∈ done, R b a := fun b hb =>
        (List.pairwise_append.mp (has ▸ hR)).2.2 b hb a List.mem_cons_self
      have hmem : a ∈ as := has ▸ List.mem_append_right done List.mem_cons_self
      obtain ⟨s₁, hs₁, hP⟩ := hstep done a s hfits hmem hs
      rw [List.foldlM_cons, hs₁]
      exact ih (done ++ [a]) s₁ (by rw [has, List.append_assoc, List.singleton_append]) hP
  exact hfold [] as s rfl h

theorem bind_of_ok {α β ε : Type} {r : Except ε α} {a : α} (h : r = .ok a) (f : α → Except ε β) :
    r >>= f = f a := by
  rw [h]
  rfl

/-- What each step of a fold that succeeds makes of what was folded before. -/
theorem foldlM_done {σ α ε : Type} {f : σ → α → Except ε σ} (P : List α → σ → Prop)
    (hstep : ∀ done a s s', P done s → f s a = .ok s' → P (done ++ [a]) s') {as : List α} {s s' : σ}
    (h : P [] s) (hs : as.foldlM f s = .ok s') : P as s' := by
  have hfold : ∀ (done rest : List α) (s : σ), P done s → rest.foldlM f s = .ok s' →
      P (done ++ rest) s' := by
    intro done rest
    induction rest generalizing done with
    | nil =>
      intro s h hs
      cases hs
      rwa [List.append_nil]
    | cons a rest ih =>
      intro s h hs
      rw [List.foldlM_cons] at hs
      obtain ⟨s₁, ha, hs⟩ := ok_of_bind hs
      have hall := ih (done ++ [a]) s₁ (hstep done a s s₁ h ha) hs
      rwa [List.append_assoc, List.singleton_append] at hall
  exact hfold [] as s h hs

/-! ## Rows -/

/-- A row stands for a type if its label and the first character of its symbol are valid. -/
theorem TypeRow.toType?_eq_some_iff {r : TypeRow} {id : TypeId} {t : TagType} :
    r.toType? id = some t ↔ TagType.isValidLabel r.label = true ∧ isValidSymbol t.symbol = true
      ∧ r.symbol.toList.head? = some t.symbol
      ∧ t = ⟨id, r.label, t.symbol, TagType.clipColor (UInt32.ofInt r.color)⟩ := by
  unfold toType?
  cases r.symbol.toList with
  | nil => simp only [List.head?_nil, reduceCtorEq, false_and, and_false]
  | cons symbol rest =>
    simp only [List.head?_cons, Option.some.injEq, TagType.make]
    by_cases hlabel : TagType.isValidLabel r.label = true
    · by_cases hsymbol : isValidSymbol symbol = true
      · simp only [hlabel, hsymbol, Bool.not_true, Bool.false_eq_true, if_false, Except.toOption,
          Option.some.injEq, true_and]
        constructor
        · rintro rfl
          exact ⟨hsymbol, rfl, rfl⟩
        · rintro ⟨-, rfl, ht⟩
          exact ht.symm
      · simp only [hlabel, hsymbol, Bool.not_true, Bool.false_eq_true, if_false, Bool.not_false,
          if_true, Except.toOption, reduceCtorEq, true_and, false_iff]
        rintro ⟨hvalid, rfl, -⟩
        exact hsymbol hvalid
    · simp only [hlabel, Bool.not_false, if_true, Except.toOption, reduceCtorEq, Bool.false_eq_true,
        false_and]

theorem TypeRow.toType?_eq_some {r : TypeRow} {id : TypeId} {t : TagType}
    (h : r.toType? id = some t) : t.id = id ∧ t.label = r.label := by
  obtain ⟨-, -, -, ht⟩ := toType?_eq_some_iff.mp h
  exact ⟨congrArg TagType.id ht, congrArg TagType.label ht⟩

/-- A row stands for a tag if its label is valid; the reference to a type that the catalog has not is
cleared. -/
theorem TagRow.toTag?_eq_some_iff {r : TagRow} {c : Catalog} {id : TagId} {t : Tag} :
    r.toTag? c id = some t ↔ isValidLabel r.label = true
      ∧ t = ⟨id, r.label, r.typeId.filter c.types.contains, r.definition⟩ := by
  unfold toTag? Tag.make
  by_cases hvalid : isValidLabel r.label = true
  · rw [if_pos hvalid]
    simp only [Except.toOption, Option.some.injEq, hvalid, true_and, eq_comm]
  · rw [if_neg hvalid]
    simp only [Except.toOption, hvalid, reduceCtorEq, false_and, Bool.false_eq_true]

namespace Store

variable {s : Store} {fresh : Version} {m : Snapshot} {id : Int} {l : String}

/-! ## What the rows stand for -/

/-- The types that the rows stand for, in the order of their numbers. -/
def storedTypes (s : Store) : List TagType :=
  s.types.rows.entries.filterMap fun (id, r) => r.toType? id

/-- The tags that the rows stand for in a catalog with the types, in the order of their numbers. -/
def storedTags (s : Store) (c : Catalog) : List Tag :=
  s.tags.rows.entries.filterMap fun (id, r) => r.toTag? c id

/-- The catalog that the rows stand for. -/
def catalog (s : Store) : Catalog :=
  let c : Catalog := { types := .ofList (s.storedTypes.map fun t => (t.id, t)) }
  { c with tags := .ofList ((s.storedTags c).map fun t => (t.label, t)) }

/-- The images that the rows stand for, with their labels. -/
def view (s : Store) : Table ImageId (Image × KeySet String) :=
  s.images.rows.map fun id r => (r.toImage id, KeySet.ofList (s.plainLabels s.catalog r))

/-- The snapshot says what the rows stand for. -/
structure Loads (s : Store) (m : Snapshot) : Prop where
  types : m.catalog.types = s.catalog.types
  tags : m.catalog.tags = s.catalog.tags
  view : m.index.view = s.view
  coherent : m.index.Coherent

/-- No two types that the rows stand for have the same symbol. -/
def Distinguishable (s : Store) : Prop :=
  ∀ i j r q t u, s.types.get? i = some r → s.types.get? j = some q →
    r.toType? i = some t → q.toType? j = some u → t.symbol = u.symbol → i = j

/-- What holds of the rows under different numbers holds pairwise of what they stand for. -/
theorem pairwise_filterMap {ν α : Type} {rows : Table Int ν} {f : Int × ν → Option α}
    {R : α → α → Prop}
    (h : ∀ i j r q a b, i ≠ j → rows.get? i = some r → rows.get? j = some q →
      f (i, r) = some a → f (j, q) = some b → R a b) :
    (rows.entries.filterMap f).Pairwise R := by
  rw [List.pairwise_filterMap]
  refine rows.sorted.imp_of_mem fun {e e'} he he' hlt a ha b hb => ?_
  have hne : e.1 ≠ e'.1 := Int.ne_of_lt (Int.compare_eq_lt.mp hlt)
  exact h e.1 e'.1 e.2 e'.2 a b hne (Table.get?_of_mem_entries he) (Table.get?_of_mem_entries he')
    ha hb

theorem mem_storedTypes {t : TagType} :
    t ∈ s.storedTypes ↔ ∃ r, s.types.get? t.id = some r ∧ r.toType? t.id = some t := by
  simp only [storedTypes, List.mem_filterMap, Prod.exists, Table.mem_entries_iff]
  constructor
  · rintro ⟨i, r, hr, ht⟩
    obtain rfl := (TypeRow.toType?_eq_some ht).1
    exact ⟨r, hr, ht⟩
  · rintro ⟨r, hr, ht⟩
    exact ⟨t.id, r, hr, ht⟩

theorem pairwise_storedTypes_id (s : Store) : s.storedTypes.Pairwise fun t u => t.id ≠ u.id := by
  refine pairwise_filterMap fun i j r q t u hij _ _ ht hu => ?_
  rwa [(TypeRow.toType?_eq_some ht).1, (TypeRow.toType?_eq_some hu).1]

/-- The type of a number is what the row with the number stands for. -/
theorem catalog_tagType? (s : Store) (id : TypeId) :
    s.catalog.tagType? id = (s.types.get? id).bind fun r => r.toType? id := by
  have hnodup : ((s.storedTypes.map fun t => (t.id, t)).map (·.1)).Nodup := by
    rw [List.map_map]
    exact List.pairwise_map.mpr s.pairwise_storedTypes_id
  refine Option.ext fun t => ?_
  rw [Catalog.tagType?, catalog, Table.get?_ofList_iff hnodup, Option.bind_eq_some_iff]
  simp only [List.mem_map, Prod.mk.injEq, mem_storedTypes]
  constructor
  · rintro ⟨u, ⟨r, hr, hu⟩, rfl, rfl⟩
    exact ⟨r, hr, hu⟩
  · rintro ⟨r, hr, ht⟩
    obtain rfl := (TypeRow.toType?_eq_some ht).1
    exact ⟨t, ⟨r, hr, ht⟩, rfl, rfl⟩

theorem storedTags_congr {c d : Catalog} (h : c.types = d.types) :
    s.storedTags c = s.storedTags d := by
  unfold storedTags TagRow.toTag?
  rw [h]

theorem Valid.pairwise_storedTags (h : s.Valid) (c : Catalog) :
    (s.storedTags c).Pairwise fun t u => t.label ≠ u.label := by
  refine pairwise_filterMap fun i j r q t u hij hr hq ht hu hlabel => hij ?_
  obtain ⟨-, rfl⟩ := TagRow.toTag?_eq_some_iff.mp ht
  obtain ⟨-, rfl⟩ := TagRow.toTag?_eq_some_iff.mp hu
  exact h.tagLabel_unique i j r q hr hq hlabel

/-- The tag of a label is what the row with the label stands for. -/
theorem Valid.catalog_tag?_eq_some_iff (h : s.Valid) {t : Tag} :
    s.catalog.tag? l = some t ↔
      ∃ r, s.tags.get? t.id = some r ∧ r.toTag? s.catalog t.id = some t ∧ t.label = l := by
  have hnodup : (((s.storedTags s.catalog).map fun t => (t.label, t)).map (·.1)).Nodup := by
    rw [List.map_map]
    exact List.pairwise_map.mpr (h.pairwise_storedTags _)
  have htags : s.catalog.tags = .ofList ((s.storedTags s.catalog).map fun t => (t.label, t)) := by
    exact congrArg (fun ts => Table.ofList (ts.map fun t => (t.label, t))) (storedTags_congr rfl)
  rw [Catalog.tag?, htags, Table.get?_ofList_iff hnodup]
  simp only [storedTags, List.mem_map, List.mem_filterMap, Prod.exists, Prod.mk.injEq,
    Table.mem_entries_iff]
  constructor
  · rintro ⟨u, ⟨i, r, hr, hu⟩, rfl, rfl⟩
    obtain ⟨-, rfl⟩ := TagRow.toTag?_eq_some_iff.mp hu
    exact ⟨r, hr, hu, rfl⟩
  · rintro ⟨r, hr, ht, rfl⟩
    exact ⟨t, ⟨t.id, r, hr, ht⟩, rfl, rfl⟩

theorem get?_view (s : Store) (id : ImageId) :
    s.view.get? id = (s.images.get? id).map fun r =>
      (r.toImage id, KeySet.ofList (s.plainLabels s.catalog r)) :=
  Table.get?_map ..

theorem plainLabels_congr {c d : Catalog} (h : c.tags = d.tags) (r : ImageRow) :
    s.plainLabels c r = s.plainLabels d r := by
  unfold plainLabels Catalog.tag?
  rw [h]

/-! ## Types -/

/-- Types that are loaded are those of the rows, and no two of them conflict. -/
theorem of_loadTypes {c : Catalog} (h : s.loadTypes = .ok c) :
    c = { types := s.catalog.types } ∧ c.Harmonious := by
  refine foldlM_done
    (fun done c => c = { types := .ofList (done.map fun t => (t.id, t)) } ∧ c.Harmonious)
    (fun done t c c' hc ht => ⟨?_, hc.2.insertType ht⟩) ⟨rfl, fun _ _ _ _ h => nomatch h⟩ h
  obtain ⟨-, rfl⟩ := Catalog.insertType_eq_ok_iff.mp ht
  rw [List.map_append, List.map_singleton, Table.ofList_concat, hc.1]

/-- Types of which no two conflict are loaded. -/
theorem loadTypes_eq_ok (h : s.catalog.Harmonious) :
    s.loadTypes = .ok { types := s.catalog.types } := by
  have hpairwise : s.storedTypes.Pairwise fun t u => Catalog.conflict t u = false := by
    refine pairwise_filterMap fun i j r q t u _ hr hq ht hu => h i j t u ?_ ?_
    · rw [catalog_tagType?]
      exact Option.bind_eq_some_iff.mpr ⟨r, hr, ht⟩
    · rw [catalog_tagType?]
      exact Option.bind_eq_some_iff.mpr ⟨q, hq, hu⟩
  obtain ⟨c, hc, hP⟩ := foldlM_total (f := Catalog.insertType)
    (fun done c => ∀ u ∈ c.types.values, u ∈ done) hpairwise (s := ∅) (fun done t c hfits _ hc => by
      refine ⟨_, Catalog.insertType_eq_ok_iff.mpr ⟨fun u hu => hfits u (hc u hu), rfl⟩, fun u hu => ?_⟩
      obtain ⟨i, hi⟩ := Table.mem_values_iff.mp hu
      rw [Table.get?_insert] at hi
      split at hi
      · cases hi
        exact List.mem_append_right done List.mem_cons_self
      · exact List.mem_append_left _ (hc u (Table.mem_values_iff.mpr ⟨i, hi⟩)))
    (fun _ hu => nomatch hu)
  rw [← (of_loadTypes hc).1]
  exact hc

/-- Labels are unique in a store, so types can only conflict by their symbols. -/
theorem Valid.harmonious_iff (h : s.Valid) : s.catalog.Harmonious ↔ s.Distinguishable := by
  have hconflict : ∀ {i j r q t u}, s.types.get? i = some r → s.types.get? j = some q →
      r.toType? i = some t → q.toType? j = some u →
      (Catalog.conflict t u = false ↔ (t.symbol = u.symbol → i = j)) := by
    intro i j r q t u hr hq ht hu
    obtain ⟨hti, htl⟩ := TypeRow.toType?_eq_some ht
    obtain ⟨huj, hul⟩ := TypeRow.toType?_eq_some hu
    -- Equal labels are those of one row, so only the symbols can tell the types apart.
    have hlabel : t.label = u.label → i = j := fun heq =>
      h.typeLabel_unique i j r q hr hq (htl ▸ hul ▸ heq)
    unfold Catalog.conflict
    rw [hti, huj]
    simp only [Bool.and_eq_false_iff, bne_eq_false_iff_eq, Bool.or_eq_false_iff, beq_eq_false_iff_ne]
    constructor
    · rintro (hij | ⟨-, hne⟩) hsymbol
      · exact hij
      · exact absurd hsymbol hne
    · intro hsymbol
      by_cases hij : i = j
      · exact .inl hij
      · exact .inr ⟨fun heq => hij (hlabel heq), fun heq => hij (hsymbol heq)⟩
  simp only [Catalog.Harmonious, catalog_tagType?, Option.bind_eq_some_iff]
  constructor
  · intro hall i j r q t u hr hq ht hu
    exact (hconflict hr hq ht hu).mp (hall i j t u ⟨r, hr, ht⟩ ⟨q, hq, hu⟩)
  · rintro hall i j t u ⟨r, hr, ht⟩ ⟨q, hq, hu⟩
    exact (hconflict hr hq ht hu).mpr (hall i j r q t u hr hq ht hu)

/-! ## Tags -/

/-- Every tag that the rows stand for is loaded: labels are unique, and a reference to a type that was
left out has been cleared. -/
theorem Valid.loadTags_ok (h : s.Valid) (fresh : Version) :
    ∃ c, s.loadTags fresh { types := s.catalog.types } = .ok c
      ∧ c.types = s.catalog.types ∧ c.tags = s.catalog.tags := by
  obtain ⟨c, hc, htypes, htags⟩ := foldlM_total (f := (Catalog.insertTag · fresh))
    (fun done c => c.types = s.catalog.types
      ∧ c.tags = .ofList (done.map fun t => (t.label, t)) ∧ ∀ l t, c.tag? l = some t →
        ∃ u ∈ done, u.label = l)
    (h.pairwise_storedTags { types := s.catalog.types }) (s := { types := s.catalog.types })
    (fun done t c hfits ht hfolded => by
      obtain ⟨htypes, htags, hdone⟩ := hfolded
      -- The label is new because labels are unique, and the type is known because others are cleared.
      have hnew : c.tag? t.label = none := by
        cases hold : c.tag? t.label with
        | none => rfl
        | some old =>
          obtain ⟨u, hu, hlabel⟩ := hdone t.label old hold
          exact absurd hlabel (hfits u hu)
      have hknown : c.unknownType? t.typeId = none := by
        obtain ⟨⟨i, r⟩, -, hr⟩ := List.mem_filterMap.mp ht
        obtain ⟨-, rfl⟩ := TagRow.toTag?_eq_some_iff.mp hr
        refine Catalog.unknownType?_eq_none_iff.mpr fun id hid => ?_
        rw [htypes]
        exact (Option.filter_eq_some_iff.mp hid).2
      refine ⟨_, Catalog.insertTag_eq_ok_iff.mpr ⟨hnew, hknown, rfl⟩, htypes, ?_, fun l u hu => ?_⟩
      · rw [List.map_append, List.map_singleton, Table.ofList_concat, htags]
      · rw [Catalog.tag?, Table.get?_insert] at hu
        split at hu
        · rename_i hl
          exact ⟨t, List.mem_append_right done List.mem_cons_self, hl.symm⟩
        · obtain ⟨v, hv, hvl⟩ := hdone l u hu
          exact ⟨v, List.mem_append_left _ hv, hvl⟩)
    ⟨rfl, rfl, fun _ _ h => nomatch h⟩
  refine ⟨c, hc, htypes, htags.1.trans ?_⟩
  exact congrArg (fun ts => Table.ofList (ts.map fun t => (t.label, t))) (storedTags_congr rfl)

/-! ## Images -/

/-- Every image is loaded, without labels yet. -/
theorem Valid.loadImages_ok (h : s.Valid) :
    ∃ x, s.loadImages = .ok x ∧ x.Coherent
      ∧ x.images = s.images.rows.map (fun id r => r.toImage id) ∧ x.labels = ∅ := by
  have hpairwise : (s.images.rows.entries.map fun e => e.2.toImage e.1).Pairwise
      fun i j => i.id ≠ j.id ∧ i.path ≠ j.path := by
    rw [← List.filterMap_eq_map]
    refine pairwise_filterMap fun i j r q a b hij hr hq ha hb => ?_
    cases ha
    cases hb
    exact ⟨hij, fun hpath => hij (h.path_unique i j r q hr hq hpath)⟩
  obtain ⟨x, hx, hcoherent, himages, hlabels, -⟩ := foldlM_total (f := Index.insertImage)
    (fun done x => x.Coherent ∧ x.images = .ofList (done.map fun i => (i.id, i)) ∧ x.labels = ∅
      ∧ ∀ id image, x.images.get? id = some image → image ∈ done) hpairwise (s := ∅)
    (fun done image x hfits _ hfolded => by
      obtain ⟨hx, himages, hlabels, hdone⟩ := hfolded
      obtain ⟨y, hy, himages', hlabels'⟩ := hx.exists_insertImage fun i old hold =>
        ⟨fun hi => (hfits old (hdone i old hold)).1 ((hx.image_id i old hold).trans hi),
          (hfits old (hdone i old hold)).2⟩
      refine ⟨y, hy, Index.coherent_insertImage hx hy, ?_, hlabels'.trans hlabels,
        fun id i hi => ?_⟩
      · rw [List.map_append, List.map_singleton, Table.ofList_concat, himages', himages]
      · rw [himages', Table.get?_insert] at hi
        split at hi
        · cases hi
          exact List.mem_append_right done List.mem_cons_self
        · exact List.mem_append_left _ (hdone id i hi))
    ⟨Index.coherent_empty, rfl, rfl, fun _ _ h => nomatch h⟩
  refine ⟨x, hx, hcoherent, himages.trans ?_, hlabels⟩
  rw [List.map_map]
  exact Table.ofList_entries (s.images.rows.map fun id r => r.toImage id)

/-! ## Labels -/

/-- The labels that groups give to images. -/
def groupTable (groups : List (ImageId × List String)) : Table ImageId (KeySet String) :=
  .ofList (groups.map fun g => (g.1, KeySet.ofList g.2))

/-- One group for each image that has labels. -/
structure Groups (s : Store) (c : Catalog) (groups : List (ImageId × List String)) : Prop where
  nodup : (groups.map (·.1)).Nodup
  nonempty : ∀ g ∈ groups, g.2 ≠ []
  mem_iff : ∀ g ∈ groups, ∀ l, l ∈ g.2 ↔ ∃ r, s.images.get? g.1 = some r ∧ l ∈ s.plainLabels c r
  /-- No image with labels is left out. -/
  covered : ∀ id r l, s.images.get? id = some r → l ∈ s.plainLabels c r → ∃ g ∈ groups, g.1 = id

section

variable {c : Catalog} {groups : List (ImageId × List String)}

/-- A group is of an image that is stored and has labels. -/
theorem Groups.exists_row (h : s.Groups c groups) {g : ImageId × List String} (hg : g ∈ groups) :
    ∃ r, s.images.get? g.1 = some r ∧ s.plainLabels c r ≠ [] := by
  obtain ⟨l, hl⟩ := List.exists_mem_of_ne_nil g.2 (h.nonempty g hg)
  obtain ⟨r, hr, hplain⟩ := (h.mem_iff g hg l).mp hl
  exact ⟨r, hr, List.ne_nil_of_mem hplain⟩

/-- A group has the labels of its image. -/
theorem Groups.ofList_eq (h : s.Groups c groups) {g : ImageId × List String} (hg : g ∈ groups)
    {r : ImageRow} (hr : s.images.get? g.1 = some r) :
    KeySet.ofList g.2 = KeySet.ofList (s.plainLabels c r) := by
  refine KeySet.ext_has fun l => ?_
  rw [KeySet.has_ofList, KeySet.has_ofList, Bool.eq_iff_iff, List.contains_iff_mem,
    List.contains_iff_mem, h.mem_iff g hg, hr]
  simp only [Option.some.injEq, exists_eq_left']

/-- Whatever the groups are, they give the images that have labels these labels. -/
theorem Groups.get?_groupTable_iff (h : s.Groups c groups) {ls : KeySet String} :
    (groupTable groups).get? id = some ls ↔ ∃ r, s.images.get? id = some r
      ∧ s.plainLabels c r ≠ [] ∧ ls = KeySet.ofList (s.plainLabels c r) := by
  have hnodup : ((groups.map fun g => (g.1, KeySet.ofList g.2)).map (·.1)).Nodup := by
    rw [List.map_map]
    exact h.nodup
  rw [groupTable, Table.get?_ofList_iff hnodup, List.mem_map]
  constructor
  · rintro ⟨g, hg, heq⟩
    obtain ⟨rfl, rfl⟩ := Prod.mk.inj heq
    obtain ⟨r, hr, hne⟩ := h.exists_row hg
    exact ⟨r, hr, hne, h.ofList_eq hg hr⟩
  · rintro ⟨r, hr, hne, rfl⟩
    obtain ⟨l, hl⟩ := List.exists_mem_of_ne_nil _ hne
    obtain ⟨g, hg, rfl⟩ := h.covered id r l hr hl
    exact ⟨g, hg, Prod.ext rfl (h.ofList_eq hg hr)⟩

/-- Every group is given to its image. -/
theorem exists_setGroups {x : Index} (hx : x.Coherent)
    (hgroups : ∀ g ∈ groups, x.images.contains g.1 = true) :
    ∃ y, groups.foldlM setGroup x = .ok y ∧ y.Coherent ∧ y.images = x.images
      ∧ y.labels = (groups.map fun g => (g.1, KeySet.ofList g.2)).foldl
          (fun t e => t.insert e.1 e.2) x.labels := by
  induction groups generalizing x with
  | nil => exact ⟨x, rfl, hx, rfl, rfl⟩
  | cons g groups ih =>
    obtain ⟨z, hz, himages, hlabels⟩ : ∃ z, setGroup x g = .ok z ∧ z.images = x.images
        ∧ z.labels = x.labels.insert g.1 (KeySet.ofList g.2) := by
      rw [setGroup, Index.setLabels, hgroups g List.mem_cons_self]
      exact ⟨_, rfl, rfl, rfl⟩
    obtain ⟨y, hy, hcoherent, himages', hlabels'⟩ := ih (Index.coherent_setLabels hx hz)
      fun g' hg' => himages ▸ hgroups g' (List.mem_cons_of_mem g hg')
    refine ⟨y, ?_, hcoherent, himages'.trans himages, ?_⟩
    · rw [List.foldlM_cons, bind_of_ok hz, hy]
    · rw [hlabels', hlabels, List.map_cons, List.foldl_cons]

/-- What a visit of all groups makes of the loaded images. -/
theorem Groups.exists_foldlM (h : s.Groups c groups) {x : Index} (hx : x.Coherent)
    (himages : x.images = s.images.rows.map fun id r => r.toImage id) (hlabels : x.labels = ∅) :
    ∃ y, groups.foldlM setGroup x = .ok y ∧ y.Coherent ∧ y.images = x.images
      ∧ y.labels = groupTable groups := by
  have hknown : ∀ g ∈ groups, x.images.contains g.1 = true := by
    intro g hg
    obtain ⟨r, hr, -⟩ := h.exists_row hg
    rw [himages, Table.contains, Table.get?_map]
    exact Option.isSome_map.trans (Option.isSome_of_eq_some hr)
  obtain ⟨y, hy, hcoherent, himages', hlabels'⟩ := exists_setGroups hx hknown
  refine ⟨y, hy, hcoherent, himages', ?_⟩
  rw [hlabels', hlabels]
  rfl

/-- An image has the labels that its group has, if there is one. -/
theorem Groups.labelsOf_eq (h : s.Groups c groups) {y : Index} (hy : y.labels = groupTable groups)
    {r : ImageRow} (hr : s.images.get? id = some r) :
    y.labelsOf id = KeySet.ofList (s.plainLabels c r) := by
  rw [Index.labelsOf, Index.labelsOf?, hy]
  by_cases hnil : s.plainLabels c r = []
  · have hnone : (groupTable groups).get? id = none := by
      refine Option.eq_none_iff_forall_ne_some.mpr fun ls hls => ?_
      obtain ⟨q, hq, hne, -⟩ := h.get?_groupTable_iff.mp hls
      cases hr.symm.trans hq
      exact hne hnil
    rw [hnone, hnil]
    rfl
  · rw [h.get?_groupTable_iff.mpr ⟨r, hr, hnil, rfl⟩, Option.getD_some]

end

/-- The group of a row, if it has labels. -/
def group? (s : Store) (c : Catalog) (row : ImageId × ImageRow) : Option (ImageId × List String) :=
  match s.plainLabels c row.2 with
  | [] => none
  | labels => some (row.1, labels)

theorem group?_eq_some_iff {c : Catalog} {row : ImageId × ImageRow} {g : ImageId × List String} :
    s.group? c row = some g ↔ g = (row.1, s.plainLabels c row.2) ∧ g.2 ≠ [] := by
  unfold group?
  split
  · rename_i hnil
    rw [hnil]
    constructor
    · intro hg
      cases hg
    · rintro ⟨rfl, hne⟩
      exact absurd rfl hne
  · rename_i hne
    rw [Option.some.injEq, eq_comm]
    refine ⟨?_, And.left⟩
    rintro rfl
    exact ⟨rfl, hne⟩

/-- The groups that loading visits: those of the rows. -/
theorem groups_rows (s : Store) (c : Catalog) :
    s.Groups c (s.images.rows.entries.filterMap (s.group? c)) := by
  have hmem : ∀ g, g ∈ s.images.rows.entries.filterMap (s.group? c) ↔
      ∃ r, s.images.get? g.1 = some r ∧ g.2 = s.plainLabels c r ∧ g.2 ≠ [] := by
    intro g
    simp only [List.mem_filterMap, Prod.exists, group?_eq_some_iff, Table.mem_entries_iff]
    constructor
    · rintro ⟨id, r, hr, rfl, hne⟩
      exact ⟨r, hr, rfl, hne⟩
    · rintro ⟨r, hr, hl, hne⟩
      exact ⟨g.1, r, hr, by rw [← hl], hne⟩
  refine ⟨?_, fun g hg => ?_, fun g hg l => ?_, fun id r l hr hl => ?_⟩
  · -- Every row has its own number.
    refine List.pairwise_map.mpr (pairwise_filterMap fun i j r q g g' hij _ _ hg hg' => ?_)
    rw [(group?_eq_some_iff.mp hg).1, (group?_eq_some_iff.mp hg').1]
    exact hij
  · obtain ⟨r, -, -, hne⟩ := (hmem g).mp hg
    exact hne
  · obtain ⟨r, hr, hl, -⟩ := (hmem g).mp hg
    rw [hl, hr]
    simp only [Option.some.injEq, exists_eq_left']
  · exact ⟨(id, s.plainLabels c r), (hmem _).mpr ⟨r, hr, rfl, List.ne_nil_of_mem hl⟩, rfl⟩

theorem foldlM_loadLabels (c : Catalog) (rows : List (ImageId × ImageRow)) (x : Index) :
    rows.foldlM (s.loadLabels c) x = (rows.filterMap (s.group? c)).foldlM setGroup x := by
  induction rows generalizing x with
  | nil => rfl
  | cons row rows ih =>
    rw [List.foldlM_cons]
    cases hlabels : s.plainLabels c row.2 with
    | nil =>
      have hstep : s.loadLabels c x row = .ok x := by rw [loadLabels, hlabels]
      have hnone : s.group? c row = none := by rw [group?, hlabels]
      rw [bind_of_ok hstep, List.filterMap_cons_none hnone, ih]
    | cons label labels =>
      have hstep : s.loadLabels c x row = setGroup x (row.1, label :: labels) := by
        rw [loadLabels, hlabels]
        rfl
      have hsome : s.group? c row = some (row.1, label :: labels) := by rw [group?, hlabels]
      rw [hstep, List.filterMap_cons_some hsome, List.foldlM_cons]
      exact bind_congr ih

/-- Every image is given its labels. -/
theorem loadLabels_ok (s : Store) (c : Catalog) {x : Index} (hx : x.Coherent)
    (himages : x.images = s.images.rows.map fun id r => r.toImage id) (hlabels : x.labels = ∅) :
    ∃ y, s.images.rows.entries.foldlM (s.loadLabels c) x = .ok y ∧ y.Coherent
      ∧ y.view = s.images.rows.map fun id r => (r.toImage id, KeySet.ofList (s.plainLabels c r)) := by
  have hgroups := groups_rows s c
  obtain ⟨y, hy, hcoherent, hsame, htable⟩ := hgroups.exists_foldlM hx himages hlabels
  refine ⟨y, (foldlM_loadLabels c _ x).trans hy, hcoherent, Table.ext_get? fun id => ?_⟩
  rw [Index.get?_view, hsame, himages, Table.get?_map, Table.get?_map, Option.map_map]
  cases hr : s.images.rows.get? id with
  | none => rfl
  | some r => exact congrArg (fun ls => some (r.toImage id, ls)) (hgroups.labelsOf_eq htable hr)

/-! ## Snapshots -/

/-- A store whose types can be told apart is loaded. -/
theorem Valid.exists_load (h : s.Valid) (hs : s.Distinguishable) (fresh : Version) :
    ∃ m, s.load fresh = .ok m ∧ s.Loads m := by
  obtain ⟨c, hc, htypes, htags⟩ := h.loadTags_ok fresh
  obtain ⟨x, hx, hcoherent, himages, hlabels⟩ := h.loadImages_ok
  obtain ⟨y, hy, hy', hview⟩ := loadLabels_ok s c hcoherent himages hlabels
  refine ⟨⟨c, y⟩, ?_, htypes, htags, hview.trans ?_, hy'⟩
  · rw [load, bind_of_ok (loadTypes_eq_ok (h.harmonious_iff.mpr hs)), bind_of_ok hc, bind_of_ok hx,
      bind_of_ok hy]
    rfl
  · rw [view]
    simp only [plainLabels_congr htags]

/-- **Which stores are loaded**: those whose types can be told apart. -/
theorem Valid.load_ok_iff (h : s.Valid) (fresh : Version) :
    (∃ m, s.load fresh = .ok m) ↔ s.Distinguishable := by
  constructor
  · rintro ⟨m, hm⟩
    obtain ⟨c, hc, -⟩ := ok_of_bind hm
    obtain ⟨rfl, hharmonious⟩ := of_loadTypes hc
    exact h.harmonious_iff.mp hharmonious
  · intro hs
    obtain ⟨m, hm, -⟩ := h.exists_load hs fresh
    exact ⟨m, hm⟩

/-- **What is loaded** is what the rows stand for. -/
theorem Valid.loads (h : s.Valid) (hm : s.load fresh = .ok m) : s.Loads m := by
  obtain ⟨m', hm', hloads⟩ := h.exists_load ((h.load_ok_iff fresh).mp ⟨m, hm⟩) fresh
  cases hm.symm.trans hm'
  exact hloads

/-- A fold that fails has a step that fails so. -/
theorem error_of_foldlM {σ α ε : Type} {f : σ → α → Except ε σ} {as : List α} {s : σ} {e : ε}
    (h : as.foldlM f s = .error e) : ∃ s a, f s a = .error e := by
  induction as generalizing s with
  | nil => cases h
  | cons a as ih =>
    rw [List.foldlM_cons] at h
    cases ha : f s a with
    | error e' =>
      rw [ha] at h
      cases h
      exact ⟨s, a, ha⟩
    | ok s₁ =>
      rw [bind_of_ok ha] at h
      exact ih h

/-- **How loading ends.**  Rows that a library cannot represent are left out or cleared and never make
a store unreadable, but two types whose symbols start with the same character do. -/
theorem Valid.load_outcome (h : s.Valid) (fresh : Version) :
    (s.Distinguishable → ∃ m, s.load fresh = .ok m ∧ s.Loads m)
      ∧ (¬s.Distinguishable → ∃ label, s.load fresh = .error (.conflictingType label)) := by
  refine ⟨fun hs => h.exists_load hs fresh, fun hs => ?_⟩
  cases htypes : s.loadTypes with
  | ok c =>
    obtain ⟨rfl, hharmonious⟩ := of_loadTypes htypes
    exact absurd (h.harmonious_iff.mp hharmonious) hs
  | error e =>
    obtain ⟨c, t, ht⟩ := error_of_foldlM htypes
    unfold Catalog.insertType at ht
    split at ht
    · rename_i other _
      cases ht
      refine ⟨other.label, ?_⟩
      rw [load, htypes]
      rfl
    · cases ht

/-- The store with these types, added one after the other. -/
def ofTypes (rows : List TypeRow) : Store := { types := rows.foldl Numbered.append ∅ }

/-- The symbols of the types start alike, but the second type has no label that can be displayed. -/
def oneLegible : List TypeRow := [⟨"one", "#a", 7⟩, ⟨" two", "#b", 0⟩]

theorem load_outcome_oneLegible :
    (ofTypes oneLegible).Valid ∧ ∃ m, (ofTypes oneLegible).load 1 = .ok m
      ∧ m.catalog.types.values = [⟨1, "one", '#', 7⟩] := by
  have hone : (∅ : Store).addType "one" "#a" 7 = .ok (1, ofTypes [⟨"one", "#a", 7⟩]) := by
    decide +kernel
  have htwo : (ofTypes [⟨"one", "#a", 7⟩]).addType " two" "#b" 0 = .ok (2, ofTypes oneLegible) := by
    decide +kernel
  have hvalid : (ofTypes oneLegible).Valid := (valid_empty.addType hone).addType htwo
  refine ⟨hvalid, ?_⟩
  have hs : (ofTypes oneLegible).Distinguishable := by
    refine Classical.byContradiction fun hs => ?_
    obtain ⟨label, herror⟩ := (hvalid.load_outcome 1).2 hs
    have hok : ((ofTypes oneLegible).load 1).toOption.isSome = true := by decide +kernel
    rw [herror] at hok
    cases hok
  obtain ⟨m, hm, hloads⟩ := (hvalid.load_outcome 1).1 hs
  refine ⟨m, hm, ?_⟩
  rw [hloads.types]
  decide +kernel

/-- The rules of a store let two symbols start with the same character, and then the store cannot be
loaded. -/
theorem not_load_of_valid : ¬∀ s : Store, s.Valid → ∃ m, s.load 1 = .ok m := by
  have hone : (∅ : Store).addType "one" "#a" 0 = .ok (1, ofTypes [⟨"one", "#a", 0⟩]) := by
    decide +kernel
  have htwo : (ofTypes [⟨"one", "#a", 0⟩]).addType "two" "#b" 0
      = .ok (2, ofTypes [⟨"one", "#a", 0⟩, ⟨"two", "#b", 0⟩]) := by decide +kernel
  have herror : (ofTypes [⟨"one", "#a", 0⟩, ⟨"two", "#b", 0⟩]).load 1
      = .error (.conflictingType "one") := by decide +kernel
  intro hall
  obtain ⟨m, hm⟩ := hall _ ((valid_empty.addType hone).addType htwo)
  cases herror.symm.trans hm

end Store

end Gallery
