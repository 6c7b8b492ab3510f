/-!
# `Gallery.Table` — finite maps in key order

A `Table κ ν` holds one value per key and lists its entries by increasing key.  Catalogs, indexes,
stores and score maps are all tables; a finite set is a table of units (`Gallery.KeySet`).

## Contents
- **The type.** `Table` carries the proof that its keys strictly increase, so a table is determined
  by its lookups (`Table.ext_get?`).
- **Operations.** `insert`, `erase`, `filter`, `map`, `modify`, `ofList`, and the readers `get?`,
  `contains`, `keys`, `values`, `size`, `lastKey?`.
- **One lookup equation per operation.** `get?_insert`, `get?_erase`, `get?_filter`, `get?_map`,
  `get?_modify`, `get?_ofList_iff`; membership of entries is `mem_entries_iff`.
-/

namespace Gallery

universe u v w

/-- A finite map whose entries are listed by strictly increasing key. -/
structure Table (κ : Type u) (ν : Type v) [Ord κ] where
  /-- The entries, smallest key first. -/
  entries : List (κ × ν)
  /-- Every key is smaller than the keys after it. -/
  sorted : entries.Pairwise fun a b => compare a.1 b.1 = .lt

namespace Table

variable {κ : Type u} {ν : Type v} {μ : Type w} [Ord κ]

theorem ext_entries {s t : Table κ ν} (h : s.entries = t.entries) : s = t := by
  cases s
  cases t
  cases h
  rfl

instance [DecidableEq κ] [DecidableEq ν] : DecidableEq (Table κ ν) := fun s t =>
  if h : s.entries = t.entries then isTrue (ext_entries h)
  else isFalse fun hst => h (hst ▸ rfl)

/-- The table without entries. -/
def empty : Table κ ν := ⟨[], .nil⟩

instance : EmptyCollection (Table κ ν) := ⟨empty⟩

instance : Inhabited (Table κ ν) := ⟨empty⟩

/-! ## Readers -/

/-- The value stored under `k`. -/
def get? (t : Table κ ν) (k : κ) : Option ν :=
  (t.entries.find? fun e => compare k e.1 == .eq).map (·.2)

/-- Whether some value is stored under `k`. -/
def contains (t : Table κ ν) (k : κ) : Bool := (t.get? k).isSome

/-- The keys, smallest first. -/
def keys (t : Table κ ν) : List κ := t.entries.map (·.1)

/-- The values in the order of their keys. -/
def values (t : Table κ ν) : List ν := t.entries.map (·.2)

/-- The number of entries. -/
def size (t : Table κ ν) : Nat := t.entries.length

/-- Whether there is no entry. -/
def isEmpty (t : Table κ ν) : Bool := t.entries.isEmpty

/-- The largest key. -/
def lastKey? (t : Table κ ν) : Option κ := t.keys.getLast?

/-! ## Operations -/

/-- Puts `v` under `k` into a list of entries in key order, replacing what was there. -/
def insertEntry (k : κ) (v : ν) : List (κ × ν) → List (κ × ν)
  | [] => [(k, v)]
  | e :: rest =>
    match compare k e.1 with
    | .lt => (k, v) :: e :: rest
    | .eq => (k, v) :: rest
    | .gt => e :: insertEntry k v rest

theorem mem_insertEntry {k : κ} {v : ν} {x : κ × ν} {l : List (κ × ν)}
    (h : x ∈ insertEntry k v l) : x = (k, v) ∨ x ∈ l := by
  induction l with
  | nil => simpa [insertEntry] using h
  | cons e rest ih =>
    simp only [insertEntry] at h
    split at h
    · simpa using h
    · rcases List.mem_cons.1 h with h | h
      · exact .inl h
      · exact .inr (List.mem_cons_of_mem _ h)
    · rcases List.mem_cons.1 h with h | h
      · exact .inr (h ▸ List.mem_cons_self)
      · exact (ih h).imp_right (List.mem_cons_of_mem _)

theorem sorted_insertEntry [Std.TransOrd κ] [Std.LawfulEqOrd κ] {k : κ} {v : ν}
    {l : List (κ × ν)} (h : l.Pairwise fun a b => compare a.1 b.1 = .lt) :
    (insertEntry k v l).Pairwise fun a b => compare a.1 b.1 = .lt := by
  induction l with
  | nil => simp [insertEntry]
  | cons e rest ih =>
    obtain ⟨hhead, htail⟩ := List.pairwise_cons.1 h
    simp only [insertEntry]
    split
    · rename_i hlt
      refine List.pairwise_cons.2 ⟨fun x hx => ?_, h⟩
      rcases List.mem_cons.1 hx with rfl | hx
      · exact hlt
      · exact Std.TransCmp.lt_trans hlt (hhead x hx)
    · rename_i heq
      have hk : k = e.1 := Std.compare_eq_iff_eq.1 heq
      exact List.pairwise_cons.2 ⟨fun x hx => by simpa [hk] using hhead x hx, htail⟩
    · rename_i hgt
      refine List.pairwise_cons.2 ⟨fun x hx => ?_, ih htail⟩
      rcases mem_insertEntry hx with rfl | hx
      · exact Std.OrientedCmp.gt_iff_lt.1 hgt
      · exact hhead x hx

/-- Stores `v` under `k`, in place of what was there. -/
def insert [Std.TransOrd κ] [Std.LawfulEqOrd κ] (t : Table κ ν) (k : κ) (v : ν) : Table κ ν :=
  ⟨insertEntry k v t.entries, sorted_insertEntry t.sorted⟩

/-- Keeps the entries that satisfy `p`. -/
def filter (t : Table κ ν) (p : κ → ν → Bool) : Table κ ν :=
  ⟨t.entries.filter fun e => p e.1 e.2, t.sorted.filter _⟩

/-- Drops the entry under `k`. -/
def erase (t : Table κ ν) (k : κ) : Table κ ν := t.filter fun k' _ => compare k k' != .eq

/-- Replaces every value by its image under `f`. -/
def map (t : Table κ ν) (f : κ → ν → μ) : Table κ μ :=
  ⟨t.entries.map fun e => (e.1, f e.1 e.2), List.pairwise_map.2 t.sorted⟩

/-- Replaces the value under `k`, if there is one, by its image under `f`. -/
def modify (t : Table κ ν) (k : κ) (f : ν → ν) : Table κ ν :=
  t.map fun k' v => if compare k k' == .eq then f v else v

/-- The table of a list of entries; of two entries with one key the later wins. -/
def ofList [Std.TransOrd κ] [Std.LawfulEqOrd κ] (l : List (κ × ν)) : Table κ ν :=
  l.foldl (fun t e => t.insert e.1 e.2) empty

/-! ## Lookups and entries -/

theorem get?_of_mem_entries [Std.TransOrd κ] [Std.LawfulEqOrd κ] {t : Table κ ν} {k : κ} {v : ν}
    (h : (k, v) ∈ t.entries) : t.get? k = some v := by
  obtain ⟨l, hl⟩ := t
  simp only [get?] at h ⊢
  induction l with
  | nil => simp at h
  | cons e rest ih =>
    obtain ⟨hhead, htail⟩ := List.pairwise_cons.1 hl
    rcases List.mem_cons.1 h with h | h
    · subst h
      simp
    · have hlt := hhead _ h
      have hne : compare k e.1 ≠ .eq := by
        intro hk
        simp [Std.compare_eq_iff_eq.1 hk] at hlt
      rw [List.find?_cons_of_neg (by simpa using hne)]
      exact ih htail h

theorem mem_entries_of_get? [Std.LawfulEqOrd κ] {t : Table κ ν} {k : κ} {v : ν}
    (h : t.get? k = some v) : (k, v) ∈ t.entries := by
  simp only [get?, Option.map_eq_some_iff] at h
  obtain ⟨e, he, rfl⟩ := h
  have hk : k = e.1 := Std.compare_eq_iff_eq.1 (by simpa using List.find?_some he)
  subst hk
  exact List.mem_of_find?_eq_some he

/-- The entries of a table are its lookups. -/
theorem mem_entries_iff [Std.TransOrd κ] [Std.LawfulEqOrd κ] {t : Table κ ν} {k : κ} {v : ν} :
    (k, v) ∈ t.entries ↔ t.get? k = some v :=
  ⟨get?_of_mem_entries, mem_entries_of_get?⟩

theorem mem_keys_iff [Std.TransOrd κ] [Std.LawfulEqOrd κ] {t : Table κ ν} {k : κ} :
    k ∈ t.keys ↔ (t.get? k).isSome := by
  simp only [keys, List.mem_map, Prod.exists, exists_and_right, exists_eq_right,
    Option.isSome_iff_exists, mem_entries_iff]

theorem mem_values_iff [Std.TransOrd κ] [Std.LawfulEqOrd κ] {t : Table κ ν} {v : ν} :
    v ∈ t.values ↔ ∃ k, t.get? k = some v := by
  simp only [values, List.mem_map, Prod.exists, exists_eq_right, mem_entries_iff]

theorem contains_iff {t : Table κ ν} {k : κ} : t.contains k ↔ ∃ v, t.get? k = some v := by
  simp [contains, Option.isSome_iff_exists]

theorem keys_pairwise (t : Table κ ν) : t.keys.Pairwise fun a b => compare a b = .lt :=
  List.pairwise_map.2 t.sorted

theorem keys_nodup [Std.ReflOrd κ] (t : Table κ ν) : t.keys.Nodup :=
  t.keys_pairwise.imp fun {a b} hab h => by
    simp [h] at hab

/-- Two lists in the same strict key order with the same members are equal. -/
theorem entries_eq_of_mem_iff [Std.TransOrd κ] {l m : List (κ × ν)}
    (hl : l.Pairwise fun a b => compare a.1 b.1 = .lt)
    (hm : m.Pairwise fun a b => compare a.1 b.1 = .lt) (h : ∀ e, e ∈ l ↔ e ∈ m) : l = m := by
  have irrefl : ∀ {a : κ × ν}, compare a.1 a.1 ≠ .lt := by
    simp
  induction l generalizing m with
  | nil =>
    cases m with
    | nil => rfl
    | cons b m => exact absurd ((h b).2 List.mem_cons_self) (by simp)
  | cons a l ih =>
    cases m with
    | nil => exact absurd ((h a).1 List.mem_cons_self) (by simp)
    | cons b m =>
      obtain ⟨ha, hl⟩ := List.pairwise_cons.1 hl
      obtain ⟨hb, hm⟩ := List.pairwise_cons.1 hm
      have hab : a = b := by
        rcases List.mem_cons.1 ((h a).1 List.mem_cons_self) with e | ham
        · exact e
        · rcases List.mem_cons.1 ((h b).2 List.mem_cons_self) with e | hbl
          · exact e.symm
          · exact absurd (Std.TransCmp.lt_trans (ha b hbl) (hb a ham)) irrefl
      subst hab
      congr 1
      refine ih hl ‹_› fun e => ⟨fun he => ?_, fun he => ?_⟩
      · rcases List.mem_cons.1 ((h e).1 (List.mem_cons_of_mem _ he)) with rfl | h'
        · exact absurd (ha _ he) irrefl
        · exact h'
      · rcases List.mem_cons.1 ((h e).2 (List.mem_cons_of_mem _ he)) with rfl | h'
        · exact absurd (hb _ he) irrefl
        · exact h'

/-- A table is determined by its lookups. -/
theorem ext_get? [Std.TransOrd κ] [Std.LawfulEqOrd κ] {s t : Table κ ν}
    (h : ∀ k, s.get? k = t.get? k) : s = t :=
  ext_entries (entries_eq_of_mem_iff s.sorted t.sorted fun e => by
    rw [show e = (e.1, e.2) from rfl, mem_entries_iff, mem_entries_iff, h])

/-! ## The lookup equation of each operation -/

@[simp, grind =] theorem get?_empty (k : κ) : (empty : Table κ ν).get? k = none := rfl

@[simp, grind =] theorem get?_emptyCollection (k : κ) : (∅ : Table κ ν).get? k = none := rfl

theorem find?_insertEntry [Std.TransOrd κ] [Std.LawfulEqOrd κ] [DecidableEq κ] (k k' : κ) (v : ν)
    (l : List (κ × ν)) :
    ((insertEntry k v l).find? fun e => compare k' e.1 == .eq).map (·.2)
      = if k' = k then some v else (l.find? fun e => compare k' e.1 == .eq).map (·.2) := by
  induction l with
  | nil =>
    by_cases h : k' = k
    · subst h; simp [insertEntry]
    · simp [insertEntry, h]
  | cons e rest ih =>
    simp only [insertEntry]
    split
    · by_cases h : k' = k
      · subst h; simp
      · simp [h]
    · rename_i heq
      have hk : k = e.1 := Std.compare_eq_iff_eq.1 heq
      subst hk
      by_cases h : k' = e.1
      · simp [h]
      · simp [h]
    · rename_i hgt
      have hne : k ≠ e.1 := by
        intro hk
        simp [hk] at hgt
      by_cases he : k' = e.1
      · subst he
        simp [Ne.symm hne]
      · have hf : (compare k' e.1 == .eq) = false := by simpa using he
        simp only [List.find?_cons, hf]
        exact ih

@[grind =] theorem get?_insert [Std.TransOrd κ] [Std.LawfulEqOrd κ] [DecidableEq κ]
    (t : Table κ ν) (k k' : κ) (v : ν) :
    (t.insert k v).get? k' = if k' = k then some v else t.get? k' :=
  find?_insertEntry k k' v t.entries

@[simp] theorem get?_insert_self [Std.TransOrd κ] [Std.LawfulEqOrd κ]
    (t : Table κ ν) (k : κ) (v : ν) : (t.insert k v).get? k = some v := by
  classical
  rw [get?_insert, if_pos rfl]

theorem get?_insert_of_ne [Std.TransOrd κ] [Std.LawfulEqOrd κ] (t : Table κ ν) {k k' : κ} (v : ν)
    (h : k' ≠ k) : (t.insert k v).get? k' = t.get? k' := by
  classical
  rw [get?_insert, if_neg h]

@[grind =] theorem get?_filter [Std.TransOrd κ] [Std.LawfulEqOrd κ] (t : Table κ ν)
    (p : κ → ν → Bool) (k : κ) : (t.filter p).get? k = (t.get? k).filter (p k) := by
  apply Option.ext
  intro v
  rw [← mem_entries_iff, Option.filter_eq_some_iff, ← mem_entries_iff]
  simp [filter]

@[grind =] theorem get?_erase [Std.TransOrd κ] [Std.LawfulEqOrd κ] [DecidableEq κ] (t : Table κ ν)
    (k k' : κ) : (t.erase k).get? k' = if k' = k then none else t.get? k' := by
  rw [erase, get?_filter]
  by_cases h : k' = k
  · subst h
    simp
  · have hne : (compare k k' != .eq) = true := by simpa using fun e => h e.symm
    simp only [hne, h, if_false]
    cases t.get? k' <;> rfl

@[grind =] theorem get?_map [Std.TransOrd κ] [Std.LawfulEqOrd κ] (t : Table κ ν) (f : κ → ν → μ)
    (k : κ) : (t.map f).get? k = (t.get? k).map (f k) := by
  apply Option.ext
  intro w
  rw [← mem_entries_iff, Option.map_eq_some_iff]
  simp only [← mem_entries_iff]
  simp only [map, List.mem_map, Prod.exists, Prod.mk.injEq]
  exact ⟨fun ⟨a, b, hmem, ha, hb⟩ => ⟨b, ha ▸ hmem, ha ▸ hb⟩, fun ⟨b, hmem, hb⟩ => ⟨k, b, hmem, rfl, hb⟩⟩

@[grind =] theorem get?_modify [Std.TransOrd κ] [Std.LawfulEqOrd κ] [DecidableEq κ]
    (t : Table κ ν) (k k' : κ) (f : ν → ν) :
    (t.modify k f).get? k' = if k' = k then (t.get? k').map f else t.get? k' := by
  rw [modify, get?_map]
  by_cases h : k' = k
  · subst h
    simp
  · have hne : (compare k k' == .eq) = false := by simpa using fun e => h e.symm
    simp [h, hne]

theorem get?_foldl_insert [Std.TransOrd κ] [Std.LawfulEqOrd κ] {l : List (κ × ν)}
    (hl : (l.map (·.1)).Nodup) (t : Table κ ν) (k : κ) (v : ν) :
    (l.foldl (fun t e => t.insert e.1 e.2) t).get? k = some v
      ↔ (k, v) ∈ l ∨ k ∉ l.map (·.1) ∧ t.get? k = some v := by
  induction l generalizing t with
  | nil => simp
  | cons e l ih =>
    obtain ⟨he, hl⟩ := List.nodup_cons.1 hl
    rw [List.foldl_cons, ih hl, List.map_cons]
    by_cases hk : k = e.1
    · subst hk
      have hmem : (e.1, v) ∉ l := fun h => he (List.mem_map.2 ⟨_, h, rfl⟩)
      have hhead : (e.1, v) = e ↔ e.2 = v := by
        rw [Prod.ext_iff]
        exact ⟨fun h => h.2.symm, fun h => ⟨rfl, h.symm⟩⟩
      simp [he, hmem, hhead]
    · have hhead : (k, v) ≠ e := fun h => hk (h ▸ rfl)
      rw [get?_insert_of_ne t e.2 hk]
      simp [hk, hhead]

/-- The table of a list whose keys all differ has the entries of the list. -/
theorem get?_ofList_iff [Std.TransOrd κ] [Std.LawfulEqOrd κ] {l : List (κ × ν)}
    (hl : (l.map (·.1)).Nodup) (k : κ) (v : ν) : (ofList l).get? k = some v ↔ (k, v) ∈ l := by
  rw [ofList, get?_foldl_insert hl]
  simp

theorem isEmpty_iff [Std.TransOrd κ] [Std.LawfulEqOrd κ] {t : Table κ ν} :
    t.isEmpty ↔ ∀ k, t.get? k = none := by
  constructor
  · intro h k
    have he : t.entries = [] := List.isEmpty_iff.1 h
    simp [get?, he]
  · intro h
    rw [isEmpty, List.isEmpty_iff]
    refine List.eq_nil_iff_forall_not_mem.2 fun e he => ?_
    have := get?_of_mem_entries (t := t) (k := e.1) (v := e.2) he
    simp [h] at this

end Table

end Gallery
