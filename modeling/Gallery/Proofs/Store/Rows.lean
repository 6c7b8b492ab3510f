import Gallery.Proofs.Table
import Gallery.Store.Numbered

/-!
# `Gallery.Proofs.Store.Rows` — numbers of rows, and what tells rows apart

The number of the next row is above all numbers in use, so a new row replaces none.  A rule of a
schema says that a field tells the rows apart; then a search by that field finds the row that has it,
and a change of rows keeps the rule as long as it gives no row a field that another row has.

## Contents
- `Numbered.get?_of_next_le`, numbers that are free.
- `Numbered.Separates`, a field that tells the rows apart, with one lemma for each change of rows;
  `Separates.find?_eq_some_iff`.  It is decided by the entries (`separates_iff`).
-/

namespace Gallery

universe u

/-! ## Numbers -/

namespace Numbered

variable {ν : Type u} {t t' : Numbered ν} {f : ν → String} {id : Int} {r v : ν} {a : String}

@[simp, grind =] theorem get?_modify (t : Numbered ν) (id id' : Int) (g : ν → ν) :
    (t.modify id g).get? id' = if id' = id then (t.get? id').map g else t.get? id' :=
  Table.get?_modify ..

theorem contains_iff : t.contains id = true ↔ ∃ r, t.get? id = some r := Table.contains_iff

/-- Numbers in use are below the next one. -/
theorem lt_next (h : t.get? id = some r) : id < t.next := by
  have hle : id ≤ t.rows.lastKey?.getD 0 := Table.le_lastKey?_getD (Option.isSome_of_eq_some h)
  unfold next
  omega

theorem get?_of_next_le (h : t.next ≤ id) : t.get? id = none := by
  cases hid : t.get? id with
  | none => rfl
  | some r => exact absurd (lt_next hid) (Int.not_lt.mpr h)

@[simp] theorem get?_next (t : Numbered ν) : t.get? t.next = none := get?_of_next_le (Int.le_refl _)

theorem contains_append_next (t : Numbered ν) (v : ν) : (t.append v).contains t.next = true :=
  contains_iff.mpr ⟨v, by rw [get?_append, if_pos rfl]⟩

theorem lastKey?_append (t : Numbered ν) (v : ν) : (t.append v).rows.lastKey? = some t.next :=
  Table.lastKey?_insert v fun k hk => by
    obtain ⟨r, hr⟩ := Option.isSome_iff_exists.mp hk
    exact Int.le_of_lt (lt_next hr)

/-- After a row was added, the next number is one more. -/
theorem next_append (t : Numbered ν) (v : ν) : (t.append v).next = t.next + 1 := by
  rw [next, lastKey?_append, Option.getD_some]
  show max t.next t.next + 1 = t.next + 1
  rw [Int.max_self]

/-! ## Rows with a property -/

theorem any_iff {p : ν → Bool} : t.any p = true ↔ ∃ id r, t.get? id = some r ∧ p r = true := by
  unfold any find?
  rw [List.find?_isSome, Prod.exists]
  simp only [Table.mem_entries_iff]
  rfl

/-- What `find?` finds is a row with the property. -/
theorem get?_of_find? {p : ν → Bool} (h : t.find? p = some (id, r)) :
    t.get? id = some r ∧ p r = true :=
  by
  refine ⟨Table.get?_of_mem_entries (List.mem_of_find?_eq_some h), ?_⟩
  simpa using List.find?_some h

theorem find?_eq_none_iff {p : ν → Bool} :
    t.find? p = none ↔ ∀ id r, t.get? id = some r → p r = false := by
  unfold find?
  simp only [List.find?_eq_none, Prod.forall, Table.mem_entries_iff, Bool.not_eq_true]
  rfl

/-- What holds of all rows holds of the entries. -/
theorem forall_get?_iff {p : Int → ν → Prop} :
    (∀ id r, t.get? id = some r → p id r) ↔ ∀ e ∈ t.rows.entries, p e.1 e.2 :=
  ⟨fun h e he => h e.1 e.2 (Table.get?_of_mem_entries he),
    fun h id r hr => h (id, r) (Table.mem_entries_of_get? hr)⟩

/-! ## Fields that tell rows apart -/

/-- Different rows have different fields. -/
def Separates (t : Numbered ν) (f : ν → String) : Prop :=
  ∀ i j r q, t.get? i = some r → t.get? j = some q → f r = f q → i = j

theorem separates_iff : t.Separates f ↔
    ∀ e ∈ t.rows.entries, ∀ e' ∈ t.rows.entries, f e.2 = f e'.2 → e.1 = e'.1 := by
  have hswap : t.Separates f ↔ ∀ i r, t.get? i = some r → ∀ j q, t.get? j = some q →
      f r = f q → i = j :=
    ⟨fun h i r hr j q hq => h i j r q hr hq, fun h i j r q hr hq => h i r hr j q hq⟩
  rw [hswap, forall_get?_iff]
  exact forall₂_congr fun e _ => forall_get?_iff

instance decidableSeparates (t : Numbered ν) (f : ν → String) : Decidable (t.Separates f) :=
  decidable_of_iff _ separates_iff.symm

/-- A search by a field that tells the rows apart finds the row with the field. -/
theorem Separates.find?_eq_some_iff (h : t.Separates f) :
    t.find? (fun r => f r == a) = some (id, r) ↔ t.get? id = some r ∧ f r = a := by
  constructor
  · intro hfind
    exact (get?_of_find? hfind).imp_right beq_iff_eq.mp
  · rintro ⟨hid, rfl⟩
    cases hfind : t.find? fun q => f q == f r with
    | none => exact absurd (find?_eq_none_iff.mp hfind id r hid) (by simp)
    | some found =>
      obtain ⟨hget, hfield⟩ := get?_of_find? hfind
      obtain rfl := h _ _ _ _ hget hid (beq_iff_eq.mp hfield)
      rw [show r = found.2 from Option.some.inj (hid.symm.trans hget)]

/-- Rows that keep their numbers and fields stay apart, also if some are gone. -/
theorem Separates.of_rows (h : t.Separates f)
    (hrows : ∀ id r, t'.get? id = some r → ∃ q, t.get? id = some q ∧ f q = f r) :
    t'.Separates f := by
  intro i j r q hi hj hfield
  obtain ⟨r', hr', hfr⟩ := hrows i r hi
  obtain ⟨q', hq', hfq⟩ := hrows j q hj
  exact h i j r' q' hr' hq' (hfr.trans (hfield.trans hfq.symm))

/-- One row may have a field that no other row has; the others keep theirs. -/
theorem Separates.of_changed (h : t.Separates f)
    (hfree : ∀ i q, t.get? i = some q → f q = a → i = id)
    (hrows : ∀ i r, t'.get? i = some r →
      i = id ∧ f r = a ∨ i ≠ id ∧ ∃ q, t.get? i = some q ∧ f q = f r) :
    t'.Separates f := by
  intro i j r q hi hj hfield
  rcases hrows i r hi with ⟨rfl, hr⟩ | ⟨hne, r', hr', hfr⟩ <;>
    rcases hrows j q hj with ⟨rfl, hq⟩ | ⟨hne', q', hq', hfq⟩
  · rfl
  · exact (hfree j q' hq' (hfq.trans (hfield.symm.trans hr))).symm
  · exact hfree i r' hr' (hfr.trans (hfield.trans hq))
  · exact h i j r' q' hr' hq' (hfr.trans (hfield.trans hfq.symm))

theorem Separates.append (h : t.Separates f) (hfree : ∀ i q, t.get? i = some q → f q ≠ f v) :
    (t.append v).Separates f := by
  have hnone : ∀ i q, t.get? i = some q → f q = f v → i = t.next := fun i q hq hfq =>
    absurd hfq (hfree i q hq)
  refine h.of_changed hnone fun i r hr => ?_
  rw [get?_append] at hr
  by_cases hi : i = t.next
  · rw [if_pos hi] at hr
    exact .inl ⟨hi, congrArg f (Option.some.inj hr).symm⟩
  · rw [if_neg hi] at hr
    exact .inr ⟨hi, r, hr, rfl⟩

theorem Separates.erase (h : t.Separates f) (id : Int) : (t.erase id).Separates f := by
  refine h.of_rows fun i r hr => ⟨r, ?_, rfl⟩
  rw [get?_erase] at hr
  by_cases hi : i = id
  · rw [if_pos hi] at hr
    cases hr
  · rwa [if_neg hi] at hr

theorem Separates.mapRows (h : t.Separates f) (g : ν → ν) (hg : ∀ r, f (g r) = f r) :
    (t.mapRows g).Separates f := by
  refine h.of_rows fun i r hr => ?_
  rw [get?_mapRows, Option.map_eq_some_iff] at hr
  obtain ⟨q, hq, rfl⟩ := hr
  exact ⟨q, hq, (hg q).symm⟩

theorem Separates.modify (h : t.Separates f) (id : Int) (g : ν → ν) (hg : ∀ r, f (g r) = f r) :
    (t.modify id g).Separates f := by
  refine h.of_rows fun i r hr => ?_
  rw [get?_modify] at hr
  by_cases hi : i = id
  · rw [if_pos hi, Option.map_eq_some_iff] at hr
    obtain ⟨q, hq, rfl⟩ := hr
    exact ⟨q, hq, (hg q).symm⟩
  · rw [if_neg hi] at hr
    exact ⟨r, hr, rfl⟩

end Numbered

end Gallery
