import Gallery.Catalog

/-!
# `Gallery.Proofs.Catalog.Outcomes` — when a catalog is changed, and what it is then

A change of a catalog that succeeds has passed its checks.  The lemmas say which these are and what the
tables are afterwards; the version is left to those who care for it.

## Contents
- `Harmonious`, no two types conflict; `insertType_eq_ok_iff`.
- `insertTag_eq_ok_iff`, `of_setDefinition`, `of_setType`, `of_removeTag`.
- `nextTagId`, which is above all numbers in use, and the next one after a tag was inserted.
-/

namespace Gallery.Catalog

variable {c c' : Catalog} {fresh : Version} {label : String} {typeId : Option TypeId}
  {definition : Option String}

/-! ## Types -/

theorem insertType_eq_ok_iff {t : TagType} :
    c.insertType t = .ok c' ↔
      (∀ u ∈ c.types.values, conflict u t = false)
        ∧ c' = { c with types := c.types.insert t.id t } := by
  unfold insertType
  cases hfind : c.types.values.find? (conflict · t) with
  | some u =>
    have hconflict : conflict u t = true := List.find?_some (p := (conflict · t)) hfind
    refine ⟨nofun, fun h => ?_⟩
    cases hconflict.symm.trans (h.1 u (List.mem_of_find?_eq_some hfind))
  | none =>
    simp only [List.find?_eq_none, Bool.not_eq_true] at hfind
    rw [Except.ok.injEq, eq_comm]
    exact ⟨fun h => ⟨hfind, h⟩, fun h => h.2⟩

/-- No two types of a catalog conflict. -/
def Harmonious (c : Catalog) : Prop :=
  ∀ i j t u, c.tagType? i = some t → c.tagType? j = some u → conflict t u = false

theorem conflict_symm (t u : TagType) : conflict t u = conflict u t := by
  unfold conflict
  rw [bne_comm, Bool.beq_comm (a := t.label), Bool.beq_comm (a := t.symbol)]

theorem conflict_self (t : TagType) : conflict t t = false := by
  unfold conflict
  rw [bne_self_eq_false, Bool.false_and]

/-- A type is only added if it conflicts with none. -/
theorem Harmonious.insertType {t : TagType} (hc : Harmonious c)
    (h : c.insertType t = .ok c') : Harmonious c' := by
  obtain ⟨hfree, rfl⟩ := insertType_eq_ok_iff.mp h
  have hnew : ∀ i u, c.tagType? i = some u → conflict u t = false := fun i u hu =>
    hfree u (Table.mem_values_iff.mpr ⟨i, hu⟩)
  intro i j u v hu hv
  simp only [tagType?, Table.get?_insert] at hu hv
  split at hu <;> split at hv
  · cases hu
    cases hv
    exact conflict_self t
  · cases hu
    rw [conflict_symm]
    exact hnew j v hv
  · cases hv
    exact hnew i u hu
  · exact hc i j u v hu hv

/-! ## Tags -/

theorem insertTag_eq_ok_iff {t : Tag} :
    c.insertTag fresh t = .ok c' ↔
      c.tag? t.label = none ∧ c.unknownType? t.typeId = none
        ∧ c' = { c with tags := c.tags.insert t.label t, version := fresh } := by
  unfold insertTag Table.contains tag?
  cases c.tags.get? t.label with
  | some old => exact ⟨nofun, nofun⟩
  | none =>
    cases c.unknownType? t.typeId with
    | some id => exact ⟨nofun, nofun⟩
    | none =>
      rw [Option.isSome_none, if_neg Bool.false_ne_true, Except.ok.injEq, eq_comm]
      exact ⟨fun h => ⟨rfl, rfl, h⟩, fun h => h.2.2⟩

/-- A reference is unknown if it names no type. -/
theorem unknownType?_eq_none_iff :
    c.unknownType? typeId = none ↔ ∀ id, typeId = some id → c.types.contains id = true := by
  cases typeId with
  | none => simp [unknownType?]
  | some id => simp [unknownType?, Option.filter]

/-- The tag has the definition, also if it had it before. -/
theorem of_setDefinition (h : c.setDefinition fresh label definition = .ok c') :
    ∃ t, c.tag? label = some t ∧ c'.tags = c.tags.insert label { t with definition }
      ∧ c'.types = c.types := by
  unfold setDefinition at h
  split at h
  · cases h
  · rename_i t ht
    split at h
    · rename_i hsame
      cases h
      refine ⟨t, ht, Table.ext_get? fun l => ?_, rfl⟩
      subst hsame
      rw [Table.get?_insert]
      split
      · rename_i hl
        rw [hl, ht]
      · rfl
    · cases h
      exact ⟨t, ht, rfl, rfl⟩

theorem of_setType (h : c.setType label typeId = .ok c') :
    c.unknownType? typeId = none
      ∧ ∃ t, c.tag? label = some t ∧ c'.tags = c.tags.insert label { t with typeId }
        ∧ c'.types = c.types := by
  unfold setType at h
  split at h
  · cases h
  · rename_i hknown
    split at h
    · cases h
    · rename_i t ht
      cases h
      exact ⟨hknown, t, ht, rfl, rfl⟩

theorem of_removeTag {t : Tag} (h : c.removeTag fresh label = .ok (t, c')) :
    c.tag? label = some t ∧ c'.tags = c.tags.erase label ∧ c'.types = c.types := by
  unfold removeTag at h
  split at h
  · cases h
  · rename_i u hu
    cases h
    exact ⟨hu, rfl, rfl⟩

/-! ## Numbers of tags -/

/-- Numbers in use are below the next one. -/
theorem lt_nextTagId {l : String} {t : Tag} (ht : c.tag? l = some t) : t.id < c.nextTagId := by
  have hmem : t.id ∈ c.tags.values.map (·.id) :=
    List.mem_map_of_mem (Table.mem_values_iff.mpr ⟨l, ht⟩)
  unfold nextTagId
  cases hmax : (c.tags.values.map (·.id)).max? with
  | none =>
    rw [List.max?_eq_none_iff.mp hmax] at hmem
    exact absurd hmem List.not_mem_nil
  | some n =>
    have hle := (List.max?_eq_some_iff.mp hmax).2 t.id hmem
    rw [Option.getD_some]
    exact Int.lt_add_one_of_le hle

/-- The next number is one more than the largest in use. -/
theorem nextTagId_eq {l : String} {t : Tag} (ht : c.tag? l = some t)
    (hle : ∀ l u, c.tag? l = some u → u.id ≤ t.id) : c.nextTagId = t.id + 1 := by
  have hmax : (c.tags.values.map (·.id)).max? = some t.id := by
    refine List.max?_eq_some_iff.mpr ⟨List.mem_map_of_mem (Table.mem_values_iff.mpr ⟨l, ht⟩), ?_⟩
    intro n hn
    obtain ⟨u, hu, rfl⟩ := List.mem_map.mp hn
    obtain ⟨l', hl'⟩ := Table.mem_values_iff.mp hu
    exact hle l' u hl'
  rw [nextTagId, hmax, Option.getD_some]

theorem nextTagId_insertTag {t : Tag} (hid : t.id = c.nextTagId)
    (h : c.insertTag fresh t = .ok c') : c'.nextTagId = c.nextTagId + 1 := by
  obtain ⟨hnew, -, rfl⟩ := insertTag_eq_ok_iff.mp h
  rw [← hid]
  refine nextTagId_eq (l := t.label) (by rw [tag?, Table.get?_insert_self]) fun l u hu => ?_
  rw [tag?, Table.get?_insert] at hu
  split at hu
  · cases hu
    exact Int.le_refl _
  · rw [hid]
    exact Int.le_of_lt (lt_nextTagId hu)

end Gallery.Catalog
