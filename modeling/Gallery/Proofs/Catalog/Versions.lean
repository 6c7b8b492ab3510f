import Gallery.Proofs.Catalog.Edits
import Gallery.Proofs.Query.Expansion
import Gallery.Proofs.Table
import Mathlib.Data.List.Infix

/-!
# `Gallery.Proofs.Catalog.Versions` — what the version of a catalog tells

Catalogs are copied and go on separately, all catalogs begin with the same version, and an operation
takes a version from the common supply only if it changes labels or definitions.  Still a version
tells what a catalog means, whichever catalogs have it and whenever: an operation leaves the meaning
of all labels under the same version, or its version is one that no catalog has had.

## Contents
- `Catalog.Moves`, what an operation may make of a catalog as far as others can tell;
  `CatalogEdit.affected` and `Edits.moves`.
- `Catalog.Blank`, `Catalog.Alike` and `Catalog.Told`, the invariant of all catalogs that there have
  been, with one lemma for each way in which a further catalog comes.
- `CatalogPool`, the catalogs of a process with their supply of versions, and `CatalogPool.run`;
  `told_seen`.
- `CatalogEdit.redefines`, whether an operation takes a version; the result,
  `CatalogPool.versions_identify`.
-/

namespace Gallery

namespace Catalog

variable {c c' d : Catalog} {fresh : Version} {affected : List String} {l : String}

/-! ## Meanings -/

/-- What a label means is told by its tag's definition. -/
theorem meaning_congr (h : (c'.tag? l).map (·.definition) = (c.tag? l).map (·.definition)) :
    c'.meaning l = c.meaning l := by
  unfold meaning
  cases ht : c.tag? l with
  | none =>
    rw [ht, Option.map_none, Option.map_eq_none_iff] at h
    rw [h]
  | some t =>
    rw [ht, Option.map_some, Option.map_eq_some_iff] at h
    obtain ⟨t', ht', hd⟩ := h
    rw [ht']
    dsimp only
    rw [hd]

/-- What a label means is told by whether it has a tag and by its definition. -/
theorem meaning_eq_iff : c.meaning l = d.meaning l ↔
    (c.tag? l).isSome = (d.tag? l).isSome ∧ c.definition? l = d.definition? l := by
  unfold meaning definition?
  cases c.tag? l with
  | none =>
    cases d.tag? l with
    | none => simp
    | some u => cases hu : u.definition <;> simp [hu]
  | some t =>
    cases d.tag? l with
    | none => cases ht : t.definition <;> simp [ht]
    | some u => cases ht : t.definition <;> cases hu : u.definition <;> simp [ht, hu]

/-- Catalogs in which all labels mean the same have the same labels. -/
theorem keys_eq_of_meaning (h : ∀ l, c.meaning l = d.meaning l) : c.tags.keys = d.tags.keys := by
  have hpresent : c.tags.map (fun _ _ => ()) = d.tags.map fun _ _ => () := by
    refine Table.ext_get? fun l => ?_
    have hsome : (c.tags.get? l).isSome = (d.tags.get? l).isSome := (meaning_eq_iff.mp (h l)).1
    rw [Table.get?_map, Table.get?_map]
    generalize c.tags.get? l = t, d.tags.get? l = u at hsome ⊢
    cases t <;> cases u <;> first | rfl | cases hsome
  rw [← Table.keys_map c.tags fun _ _ => (), hpresent, Table.keys_map]

/-! ## Operations -/

/-- A catalog means the same as before under the same version, or it has the version `fresh` and
means something else at affected labels only. -/
inductive Moves (c : Catalog) (fresh : Version) (affected : List String) (c' : Catalog) : Prop
  | same (hv : c'.version = c.version) (hm : ∀ l, c'.meaning l = c.meaning l)
  | fresh (hv : c'.version = fresh) (hm : ∀ l, l ∉ affected → c'.meaning l = c.meaning l)

theorem Moves.refl (c : Catalog) : Moves c fresh affected c := .same rfl fun _ => rfl

/-- Outside the affected labels nothing changes its meaning. -/
theorem Moves.meaning_eq (h : Moves c fresh affected c') (hl : l ∉ affected) :
    c'.meaning l = c.meaning l := by
  cases h with
  | same _ hm => exact hm l
  | fresh _ hm => exact hm l hl

end Catalog

/-- The labels that an operation may give another meaning. -/
def CatalogEdit.affected : CatalogEdit → List String
  | .insertTag t => [t.label]
  | .removeTag label | .setDefinition label _ => [label]
  | .insertType _ | .removeType _ | .setType _ _ => []

namespace Catalog

variable {c c' d : Catalog} {cs : List Catalog} {fresh : Version} {affected : List String}
  {e : CatalogEdit}

/-- **A successful operation** changes the meaning of affected labels only, under the version
`fresh`, or no meaning under the same version. -/
theorem Edits.moves (h : c.Edits fresh e c') : c.Moves fresh e.affected c' := by
  cases h with
  | insertType => exact .same rfl fun _ => rfl
  | @removeType id t ht =>
    refine .same rfl fun l => meaning_congr ?_
    simp only [tag?, Table.get?_map, Option.map_map]
    congr 1
    funext tag
    show (if tag.typeId = some id then { tag with typeId := none } else tag).definition
      = tag.definition
    split <;> rfl
  | @insertTag t hnew hknown =>
    refine .fresh rfl fun l hl => meaning_congr ?_
    rw [CatalogEdit.affected, List.mem_singleton] at hl
    simp only [tag?, Table.get?_insert_of_ne c.tags t hl]
  | @removeTag label t ht =>
    refine .fresh rfl fun l hl => meaning_congr ?_
    rw [CatalogEdit.affected, List.mem_singleton] at hl
    simp only [tag?, Table.get?_erase, hl, if_false]
  | sameDefinition => exact .refl c
  | setDefinition =>
    refine .fresh rfl fun l hl => meaning_congr ?_
    rw [CatalogEdit.affected, List.mem_singleton] at hl
    simp only [tag?, Table.get?_insert_of_ne c.tags _ hl]
  | @setType label typeId t ht hknown =>
    refine .same rfl fun l => meaning_congr ?_
    rw [tag?] at ht
    simp only [tag?, Table.get?_insert]
    by_cases hl : l = label
    · simp [hl, ht]
    · simp [hl]

theorem moves_edit (c : Catalog) (fresh : Version) (e : CatalogEdit) :
    c.Moves fresh e.affected (c.edit fresh e).2 :=
  keeps_edit (P := c.Moves fresh e.affected) (.refl c) fun _ => Edits.moves

/-! ## All catalogs that there have been -/

/-- The catalog knows no label and has the version with which catalogs begin. -/
def Blank (c : Catalog) : Prop := c.version = 0 ∧ ∀ l, c.meaning l = .unknown

theorem blank_empty : (∅ : Catalog).Blank := ⟨rfl, fun _ => rfl⟩

/-- Whether what catalogs mean is told by their versions, as far as those of two catalogs go. -/
def Alike (c d : Catalog) : Prop := c.version = d.version → ∀ l, c.meaning l = d.meaning l

theorem Alike.symm (h : c.Alike d) : d.Alike c :=
  fun hv l => (h hv.symm l).symm

/-- What the catalogs mean is told by their versions, and the supply is above all of them. -/
structure Told (cs : List Catalog) (fresh : Version) : Prop where
  fresh_pos : 0 < fresh
  version_lt : ∀ c ∈ cs, c.version < fresh
  alike : ∀ c ∈ cs, ∀ d ∈ cs, c.Alike d
  blank : ∀ c ∈ cs, c.version = 0 → c.Blank

theorem told_nil : Told [] 1 where
  fresh_pos := Nat.zero_lt_one
  version_lt := List.forall_mem_nil _
  alike := List.forall_mem_nil _
  blank := List.forall_mem_nil _

theorem Told.mono {ds : List Catalog} (h : Told cs fresh) (hsub : ds ⊆ cs) : Told ds fresh where
  fresh_pos := h.fresh_pos
  version_lt := fun c hc => h.version_lt c (hsub hc)
  alike := fun c hc d hd => h.alike c (hsub hc) d (hsub hd)
  blank := fun c hc => h.blank c (hsub hc)

theorem Told.cons {fresh' : Version} (h : Told cs fresh) (hfresh : fresh ≤ fresh')
    (hversion : c.version < fresh') (halike : ∀ d ∈ cs, c.Alike d)
    (hblank : c.version = 0 → c.Blank) : Told (c :: cs) fresh' where
  fresh_pos := Nat.lt_of_lt_of_le h.fresh_pos hfresh
  version_lt := List.forall_mem_cons.mpr
    ⟨hversion, fun d hd => Nat.lt_of_lt_of_le (h.version_lt d hd) hfresh⟩
  alike := by
    refine List.forall_mem_cons.mpr ⟨List.forall_mem_cons.mpr ⟨fun _ _ => rfl, halike⟩, ?_⟩
    exact fun d hd => List.forall_mem_cons.mpr ⟨(halike d hd).symm, h.alike d hd⟩
  blank := List.forall_mem_cons.mpr ⟨hblank, h.blank⟩

/-- A catalog may begin at any time, for whatever has its version knows no label either. -/
theorem Told.begin (h : Told cs fresh) : Told (∅ :: cs) fresh := by
  refine h.cons (Nat.le_refl _) h.fresh_pos (fun d hd hv l => ?_) fun _ => blank_empty
  exact (blank_empty.2 l).trans ((h.blank d hd hv.symm).2 l).symm

/-- A catalog that has moved is alike to all catalogs that there have been. -/
theorem Told.alike_of_moves (h : Told cs fresh) (hc : c ∈ cs)
    (hmoves : c.Moves fresh affected c') : ∀ d ∈ cs, c'.Alike d := by
  intro d hd hv l
  cases hmoves with
  | same hv' hm => exact (hm l).trans (h.alike c hc d hd (hv'.symm.trans hv) l)
  | fresh hv' hm => exact absurd (hv.symm.trans hv') (Nat.ne_of_lt (h.version_lt d hd))

theorem Told.blank_of_moves (h : Told cs fresh) (hc : c ∈ cs) (hmoves : c.Moves fresh affected c')
    (hzero : c'.version = 0) : c'.Blank := by
  refine ⟨hzero, fun l => ?_⟩
  cases hmoves with
  | same hv hm => exact (hm l).trans ((h.blank c hc (hv.symm.trans hzero)).2 l)
  | fresh hv hm => exact absurd (hv.symm.trans hzero) (Nat.ne_of_gt h.fresh_pos)

/-- **What one of the catalogs becomes** is told by its version too. -/
theorem Told.moves (h : Told cs fresh) (hc : c ∈ cs) (hmoves : c.Moves fresh affected c') :
    Told (c' :: cs) (c'.nextFresh fresh) :=
  h.cons (Nat.le_max_left _ _) (Nat.le_max_right _ _) (h.alike_of_moves hc hmoves)
    (h.blank_of_moves hc hmoves)

end Catalog

/-! ## The catalogs of a process -/

/-- Something that happens to the catalogs of a process. -/
inductive CatalogStep where
  /-- A catalog without tags and types begins. -/
  | create
  /-- The catalog with the given number is copied. -/
  | copy (i : Nat)
  /-- An operation is done with the catalog with the given number. -/
  | edit (i : Nat) (e : CatalogEdit)

/-- The catalogs of a process, in the order in which they began, and their supply of versions. -/
structure CatalogPool where
  catalogs : List Catalog := []
  fresh : Version := 1

namespace CatalogPool

/-- Does a step; nothing happens to a catalog that there is not. -/
def step (p : CatalogPool) : CatalogStep → CatalogPool
  | .create => { p with catalogs := p.catalogs ++ [∅] }
  | .copy i =>
    match p.catalogs[i]? with
    | none => p
    | some c => { p with catalogs := p.catalogs ++ [c] }
  | .edit i e =>
    match p.catalogs[i]? with
    | none => p
    | some c =>
      let c' := (c.edit p.fresh e).2
      ⟨p.catalogs.set i c', c'.nextFresh p.fresh⟩

/-- The catalogs of a process after several steps. -/
def run (steps : List CatalogStep) : CatalogPool := steps.foldl step {}

/-- All catalogs that there have been, before, between and after the steps. -/
def seen (steps : List CatalogStep) : List Catalog :=
  steps.inits.flatMap fun earlier => (run earlier).catalogs

theorem run_concat (steps : List CatalogStep) (s : CatalogStep) :
    run (steps ++ [s]) = (run steps).step s := by
  rw [run, List.foldl_concat]
  rfl

theorem seen_concat (steps : List CatalogStep) (s : CatalogStep) :
    seen (steps ++ [s]) = seen steps ++ ((run steps).step s).catalogs := by
  simp [seen, List.inits_append, run_concat]

theorem catalogs_subset_seen (steps : List CatalogStep) : (run steps).catalogs ⊆ seen steps :=
  fun _ hc =>
    List.mem_flatMap.mpr ⟨steps, (List.mem_inits _ _).mpr (List.prefix_refl steps), hc⟩

/-- **One step**: what the catalogs mean is still told by their versions. -/
theorem told_step {p : CatalogPool} {cs : List Catalog} (h : Catalog.Told cs p.fresh)
    (hsub : p.catalogs ⊆ cs) (s : CatalogStep) :
    Catalog.Told (cs ++ (p.step s).catalogs) (p.step s).fresh := by
  have hsame : Catalog.Told (cs ++ p.catalogs) p.fresh :=
    h.mono (List.append_subset.mpr ⟨List.Subset.refl cs, hsub⟩)
  cases s with
  | create =>
    refine h.begin.mono (List.append_subset.mpr ⟨List.subset_cons_self .., ?_⟩)
    exact List.append_subset.mpr ⟨List.subset_cons_of_subset _ hsub, by simp⟩
  | copy i =>
    rw [step]
    split
    · exact hsame
    · rename_i c hc
      refine h.mono (List.append_subset.mpr ⟨List.Subset.refl cs, ?_⟩)
      have hmem : c ∈ cs := hsub (List.mem_of_getElem? hc)
      exact List.append_subset.mpr ⟨hsub, List.forall_mem_singleton.mpr hmem⟩
  | edit i e =>
    rw [step]
    split
    · exact hsame
    · rename_i c hc
      have hmoves := h.moves (hsub (List.mem_of_getElem? hc)) (Catalog.moves_edit c p.fresh e)
      refine hmoves.mono (List.append_subset.mpr ⟨List.subset_cons_self .., fun d hd => ?_⟩)
      rcases List.mem_or_eq_of_mem_set hd with hd | rfl
      · exact List.mem_cons_of_mem _ (hsub hd)
      · exact List.mem_cons_self

/-- **At any time**, what the catalogs that there have been mean is told by their versions. -/
theorem told_seen (steps : List CatalogStep) : Catalog.Told (seen steps) (run steps).fresh := by
  induction steps using List.reverseRecOn with
  | nil => exact Catalog.told_nil
  | append_singleton steps s ih =>
    rw [seen_concat, run_concat]
    exact told_step ih (catalogs_subset_seen steps) s

end CatalogPool

/-! ## Operations that take a version -/

/-- Whether an operation that succeeds changes labels or definitions. -/
def CatalogEdit.redefines (c : Catalog) : CatalogEdit → Bool
  | .insertTag _ | .removeTag _ => true
  | .setDefinition label definition => c.definition? label != definition
  | .insertType _ | .removeType _ | .setType _ _ => false

namespace Catalog

variable {c c' : Catalog} {fresh : Version} {e : CatalogEdit}

theorem definition?_of_tag? {label : String} {t : Tag} (ht : c.tag? label = some t) :
    c.definition? label = t.definition := by
  rw [definition?, ht, Option.bind_some]

theorem Edits.version_eq (h : c.Edits fresh e c') :
    c'.version = if e.redefines c then fresh else c.version := by
  cases h with
  | insertType | removeType | insertTag | removeTag | setType => rfl
  | sameDefinition ht =>
    rw [CatalogEdit.redefines, definition?_of_tag? ht, bne_self_eq_false]
    rfl
  | setDefinition ht hnew =>
    rw [CatalogEdit.redefines, definition?_of_tag? ht, bne_iff_ne.mpr hnew]
    rfl

end Catalog

namespace CatalogPool

/-- **Versions identify definitions.**  Of all catalogs that there have been in a process, however
they began, were copied and changed, those with the same version have the same labels with the same
definitions.  An operation on one of the catalogs that fails leaves it; one that changes labels or
definitions gives it a version that no catalog has had, and any other keeps the version. -/
theorem versions_identify (steps : List CatalogStep) :
    (∀ c ∈ seen steps, ∀ d ∈ seen steps, c.version = d.version →
      c.tags.keys = d.tags.keys ∧ ∀ l, c.definition? l = d.definition? l) ∧
    ∀ c ∈ (run steps).catalogs, ∀ e : CatalogEdit,
      match c.edit (run steps).fresh e with
      | (.error _, c') => c' = c
      | (.ok _, c') =>
        if e.redefines c then ∀ d ∈ seen steps, c'.version ≠ d.version
        else c'.version = c.version := by
  have htold := told_seen steps
  refine ⟨fun c hc d hd hv => ?_, fun c hc e => ?_⟩
  · have hmeaning := htold.alike c hc d hd hv
    exact ⟨Catalog.keys_eq_of_meaning hmeaning,
      fun l => (Catalog.meaning_eq_iff.mp (hmeaning l)).2⟩
  · rcases Catalog.edit_cases c (run steps).fresh e with ⟨err, hr⟩ | ⟨reply, c', hr, hedits⟩
    · rw [hr]
    · rw [hr]
      have hversion := hedits.version_eq
      dsimp only
      split
      · rename_i hnew
        rw [if_pos hnew] at hversion
        exact fun d hd => hversion ▸ (Nat.ne_of_lt (htold.version_lt d hd)).symm
      · rename_i hnew
        rw [if_neg hnew] at hversion
        exact hversion

/-- A copy of a catalog gives a type to a tag of which the other changes the definition later. -/
def diverging : List CatalogStep :=
  [.create, .edit 0 (.insertTag ⟨1, "cat", none, none⟩), .copy 0,
    .edit 1 (.insertType ⟨1, "animal", '#', 0⟩), .edit 1 (.setType "cat" (some 1)),
    .edit 0 (.setDefinition "cat" (some "dog"))]

theorem versions_identify_diverging :
    ∃ c ∈ seen diverging, ∃ d ∈ seen diverging, c ≠ d ∧ c.version = d.version
      ∧ (c.tags.keys = d.tags.keys ∧ ∀ l, c.definition? l = d.definition? l)
      ∧ ∀ e ∈ seen diverging, (d.edit 3 (.removeTag "cat")).2.version ≠ e.version := by
  let untyped : Catalog := ⟨.ofList [("cat", ⟨1, "cat", none, none⟩)], ∅, 1⟩
  let typed : Catalog :=
    ⟨.ofList [("cat", ⟨1, "cat", some 1, none⟩)], .ofList [(1, ⟨1, "animal", '#', 0⟩)], 1⟩
  have huntyped : untyped ∈ seen diverging := by decide +kernel
  have htyped : typed ∈ seen diverging := by decide +kernel
  have hcurrent : typed ∈ (run diverging).catalogs := by decide +kernel
  obtain ⟨hidentify, hedit⟩ := versions_identify diverging
  exact ⟨untyped, huntyped, typed, htyped, by decide +kernel, rfl,
    hidentify untyped huntyped typed htyped rfl, hedit typed hcurrent (.removeTag "cat")⟩

end CatalogPool

end Gallery
