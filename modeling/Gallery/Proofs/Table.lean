import Gallery.Table

/-!
# `Gallery.Proofs.Table` — equations between tables

## Contents
- `ofList_concat` and `ofList_entries`, tables of lists.
- `contains_insert`, `contains_insert_of_some` and `contains_erase`, the keys after an operation.
- `keys_map`, `insert_insert`, `modify_insert`, `map_insert` and `map_erase`, one operation after another.
- `erase_of_none`, `insert_of_some` and `modify_of_none`, operations that change nothing.
- `lastKey?_eq_some_iff`, the largest key of a table of numbered entries.
-/

namespace Gallery.Table

universe u

section

variable {κ ν μ : Type u} [Ord κ] [Std.TransOrd κ] [Std.LawfulEqOrd κ]

/-! ## Tables of lists -/

theorem ofList_concat (l : List (κ × ν)) (e : κ × ν) :
    Table.ofList (l ++ [e]) = (Table.ofList l).insert e.1 e.2 :=
  List.foldl_append

/-- A table is the table of its entries. -/
theorem ofList_entries (t : Table κ ν) : Table.ofList t.entries = t := by
  refine ext_get? fun k => Option.ext fun v => ?_
  rw [get?_ofList_iff t.keys_nodup, mem_entries_iff]

/-! ## One operation after another -/

omit [Std.TransOrd κ] [Std.LawfulEqOrd κ] in
theorem keys_map (t : Table κ ν) (f : κ → ν → μ) : (t.map f).keys = t.keys := List.map_map

variable [DecidableEq κ]

theorem contains_insert (t : Table κ ν) (k k' : κ) (v : ν) :
    (t.insert k v).contains k' = (decide (k' = k) || t.contains k') := by
  rw [contains, contains, get?_insert]
  by_cases h : k' = k <;> simp [h]

/-- A new value for a key leaves the keys. -/
theorem contains_insert_of_some {t : Table κ ν} {k : κ} {v : ν} (h : t.get? k = some v) (k' : κ)
    (w : ν) : (t.insert k w).contains k' = t.contains k' := by
  rw [contains_insert]
  by_cases hk : k' = k
  · simp [hk, contains, h]
  · simp [hk]

theorem contains_erase (t : Table κ ν) (k k' : κ) :
    (t.erase k).contains k' = (!decide (k' = k) && t.contains k') := by
  rw [contains, contains, get?_erase]
  by_cases h : k' = k <;> simp [h]

theorem insert_insert (t : Table κ ν) (k : κ) (v w : ν) :
    (t.insert k v).insert k w = t.insert k w := by
  refine ext_get? fun k' => ?_
  rw [get?_insert, get?_insert, get?_insert]
  split <;> rfl

theorem modify_insert (t : Table κ ν) (k : κ) (v : ν) (f : ν → ν) :
    (t.insert k v).modify k f = t.insert k (f v) := by
  refine ext_get? fun k' => ?_
  rw [get?_modify, get?_insert, get?_insert]
  split <;> rfl

theorem insert_erase (t : Table κ ν) (k : κ) (v : ν) : (t.erase k).insert k v = t.insert k v := by
  refine ext_get? fun k' => ?_
  rw [get?_insert, get?_insert, get?_erase]
  split <;> rfl

theorem map_insert (t : Table κ ν) (g : ν → μ) (k : κ) (v : ν) :
    (t.insert k v).map (fun _ => g) = (t.map fun _ => g).insert k (g v) := by
  refine ext_get? fun k' => ?_
  rw [get?_map, get?_insert, get?_insert, get?_map]
  split <;> rfl

theorem map_erase (t : Table κ ν) (g : ν → μ) (k : κ) :
    (t.erase k).map (fun _ => g) = (t.map fun _ => g).erase k := by
  refine ext_get? fun k' => ?_
  rw [get?_map, get?_erase, get?_erase, get?_map]
  split <;> rfl

/-! ## Operations that change nothing -/

variable {t : Table κ ν} {k : κ} {v : ν} {f : ν → ν}

theorem erase_of_none (h : t.get? k = none) : t.erase k = t := by
  refine ext_get? fun k' => ?_
  rw [get?_erase]
  split
  · rename_i hk
    rw [hk, h]
  · rfl

theorem insert_of_some (h : t.get? k = some v) : t.insert k v = t := by
  refine ext_get? fun k' => ?_
  rw [get?_insert]
  split
  · rename_i hk
    rw [hk, h]
  · rfl

/-- The value under a key is changed where it is. -/
theorem modify_of_some (h : t.get? k = some v) : t.modify k f = t.insert k (f v) := by
  refine ext_get? fun k' => ?_
  rw [get?_modify, get?_insert]
  split
  · rename_i hk
    rw [hk, h, Option.map_some]
  · rfl

theorem modify_of_none (h : t.get? k = none) : t.modify k f = t := by
  refine ext_get? fun k' => ?_
  rw [get?_modify]
  split
  · rename_i hk
    rw [hk, h, Option.map_none]
  · rfl

end

/-! ## The largest key -/

variable {ν μ : Type u} {t : Table Int ν} {k m : Int}

/-- Keys stand in increasing order, so the last one is the largest. -/
theorem le_of_getLast? {l : List Int} (hl : l.Pairwise fun a b => compare a b = .lt)
    (hm : l.getLast? = some m) (hk : k ∈ l) : k ≤ m := by
  obtain ⟨front, rfl⟩ := List.getLast?_eq_some_iff.mp hm
  rcases List.mem_append.mp hk with hk | hk
  · have hlt := (List.pairwise_append.mp hl).2.2 k hk m List.mem_cons_self
    exact Int.le_of_lt (Int.compare_eq_lt.mp hlt)
  · exact Int.le_of_eq (List.mem_singleton.mp hk)

theorem lastKey?_eq_some_iff :
    t.lastKey? = some m ↔ (t.get? m).isSome ∧ ∀ k, (t.get? k).isSome → k ≤ m := by
  simp only [← mem_keys_iff]
  constructor
  · intro h
    exact ⟨List.mem_of_getLast? h, fun k => le_of_getLast? t.keys_pairwise h⟩
  · rintro ⟨hm, hle⟩
    cases h : t.lastKey? with
    | none =>
      rw [List.getLast?_eq_none_iff.mp h] at hm
      exact absurd hm List.not_mem_nil
    | some n =>
      have hmn := le_of_getLast? t.keys_pairwise h hm
      have hnm := hle n (List.mem_of_getLast? h)
      rw [Int.le_antisymm hmn hnm]

/-- Tables with the same keys have the same largest key. -/
theorem lastKey?_congr {s : Table Int μ} (h : ∀ k, (s.get? k).isSome = (t.get? k).isSome) :
    s.lastKey? = t.lastKey? := by
  refine Option.ext fun m => ?_
  simp only [lastKey?_eq_some_iff, h]

/-- A key above all others becomes the largest. -/
theorem lastKey?_insert (v : ν) (h : ∀ k, (t.get? k).isSome → k ≤ m) :
    (t.insert m v).lastKey? = some m := by
  refine lastKey?_eq_some_iff.mpr ⟨by simp, fun k hk => ?_⟩
  rw [get?_insert] at hk
  by_cases hkm : k = m
  · exact Int.le_of_eq hkm
  · rw [if_neg hkm] at hk
    exact h k hk

theorem le_lastKey?_getD (h : (t.get? k).isSome) : k ≤ t.lastKey?.getD 0 := by
  cases hlast : t.lastKey? with
  | none =>
    have hmem := mem_keys_iff.mpr h
    rw [List.getLast?_eq_none_iff.mp hlast] at hmem
    exact absurd hmem List.not_mem_nil
  | some m => exact (lastKey?_eq_some_iff.mp hlast).2 k h

end Gallery.Table
