import Gallery.Table

/-!
# `Gallery.KeySet` — finite sets in increasing order

A finite set is a table without values, so it lists its members by increasing key and is determined
by them.

## Contents
- `KeySet` with membership, `toList`, `ofList`.
- `insert`, `erase`, `union`, `inter`, `diff`, and a membership equation for each.
-/

namespace Gallery

universe u

/-- A finite set of keys. -/
abbrev KeySet (κ : Type u) [Ord κ] := Table κ Unit

namespace KeySet

variable {κ : Type u} [Ord κ]

/-- The set without members. -/
def empty : KeySet κ := Table.empty

/-- Whether `k` is a member. -/
def has (s : KeySet κ) (k : κ) : Bool := s.contains k

/-- The members, smallest first. -/
def toList (s : KeySet κ) : List κ := s.keys

/-- The members that satisfy `p`. -/
def select (s : KeySet κ) (p : κ → Bool) : KeySet κ := s.filter fun k _ => p k

/-- The members of `s` that are also in `t`. -/
def inter (s t : KeySet κ) : KeySet κ := s.select t.has

/-- The members of `s` that are not in `t`. -/
def diff (s t : KeySet κ) : KeySet κ := s.select fun k => !t.has k

theorem has_iff {s : KeySet κ} {k : κ} : s.has k = true ↔ s.get? k = some () := by
  rw [has, Table.contains]
  cases s.get? k <;> simp

variable [Std.TransOrd κ] [Std.LawfulEqOrd κ]

/-- The set with the further member `k`. -/
def add (s : KeySet κ) (k : κ) : KeySet κ := s.insert k ()

/-- The set without `k`. -/
def remove (s : KeySet κ) (k : κ) : KeySet κ := s.erase k

/-- The set with the further members `l`. -/
def addAll (s : KeySet κ) (l : List κ) : KeySet κ := l.foldl add s

/-- The set of the members of a list. -/
def ofList (l : List κ) : KeySet κ := empty.addAll l

/-- The members of `s` and those of `t`. -/
def union (s t : KeySet κ) : KeySet κ := s.addAll t.toList

theorem mem_toList {s : KeySet κ} {k : κ} : k ∈ s.toList ↔ s.has k = true := by
  rw [toList, Table.mem_keys_iff, has, Table.contains]

/-- A set is determined by its members. -/
theorem ext_has {s t : KeySet κ} (h : ∀ k, s.has k = t.has k) : s = t := by
  refine Table.ext_get? fun k => ?_
  have hk := h k
  rw [has, Table.contains, has, Table.contains] at hk
  cases hs : s.get? k <;> cases ht : t.get? k <;> simp_all

omit [Std.TransOrd κ] [Std.LawfulEqOrd κ] in
@[simp, grind =] theorem has_empty (k : κ) : (empty : KeySet κ).has k = false := rfl

@[simp, grind =] theorem has_select (s : KeySet κ) (p : κ → Bool) (k : κ) :
    (s.select p).has k = (s.has k && p k) := by
  rw [select, has, Table.contains, Table.get?_filter, has, Table.contains]
  cases s.get? k with
  | none => simp
  | some u => cases hp : p k <;> simp [Option.filter]

omit [Std.TransOrd κ] [Std.LawfulEqOrd κ] in
theorem toList_select (s : KeySet κ) (p : κ → Bool) :
    (s.select p).toList = s.toList.filter p := by
  show (s.entries.filter fun e => p e.1).map (·.1) = (s.entries.map (·.1)).filter p
  rw [List.filter_map]
  rfl

@[simp, grind =] theorem has_inter (s t : KeySet κ) (k : κ) :
    (s.inter t).has k = (s.has k && t.has k) := has_select s _ k

@[simp, grind =] theorem has_diff (s t : KeySet κ) (k : κ) :
    (s.diff t).has k = (s.has k && !t.has k) := has_select s _ k

variable [DecidableEq κ]

@[simp, grind =] theorem has_add (s : KeySet κ) (k k' : κ) :
    (s.add k).has k' = (decide (k' = k) || s.has k') := by
  rw [add, has, Table.contains, Table.get?_insert, has, Table.contains]
  by_cases h : k' = k <;> simp [h]

@[simp, grind =] theorem has_remove (s : KeySet κ) (k k' : κ) :
    (s.remove k).has k' = (!decide (k' = k) && s.has k') := by
  rw [remove, has, Table.contains, Table.get?_erase, has, Table.contains]
  by_cases h : k' = k <;> simp [h]

@[simp, grind =] theorem has_addAll (s : KeySet κ) (l : List κ) (k : κ) :
    (s.addAll l).has k = (l.contains k || s.has k) := by
  induction l generalizing s with
  | nil => simp [addAll]
  | cons a l ih =>
    rw [addAll, List.foldl_cons, ← addAll, ih, has_add, Bool.eq_iff_iff]
    simp only [Bool.or_eq_true, List.contains_iff_mem, List.mem_cons, decide_eq_true_eq]
    constructor
    · rintro (h | h | h)
      · exact .inl (.inr h)
      · exact .inl (.inl h)
      · exact .inr h
    · rintro ((h | h) | h)
      · exact .inr (.inl h)
      · exact .inl h
      · exact .inr (.inr h)

@[simp, grind =] theorem has_ofList (l : List κ) (k : κ) : (ofList l).has k = l.contains k := by
  simp [ofList]

theorem contains_toList (s : KeySet κ) (k : κ) : s.toList.contains k = s.has k := by
  rw [Bool.eq_iff_iff, List.contains_iff_mem, mem_toList]

@[simp, grind =] theorem has_union (s t : KeySet κ) (k : κ) :
    (s.union t).has k = (s.has k || t.has k) := by
  rw [union, has_addAll, contains_toList, Bool.or_comm]

end KeySet

end Gallery
