import Gallery.Query.Resolve

/-!
# `Gallery.Proofs.Distinct` — dropping repetitions bit by bit

A list that is collected from several sources takes from each of them what it does not hold yet.  The
outcome is that of dropping the repetitions of everything in the end, so it does not matter at which
places they are dropped in between.

## Contents
- `appendNew_eq`, appending what is new, with `mem_appendNew` and `nodup_appendNew`.
- `appendNew_nil`, `appendNew_append` and `appendNew_distinct`, by which sources are put together.
- `distinct_map`, repetitions under a function that tells members apart.
-/

namespace Gallery

variable {α β : Type} [DecidableEq α] [DecidableEq β] {a : α} {as bs : List α}

namespace Query

/-- What is appended are the members that are not there yet, each once. -/
theorem appendNew_eq (as bs : List α) :
    appendNew as bs = as ++ (distinct bs).filter (· ∉ as) := by
  induction bs generalizing as with
  | nil => exact (List.append_nil as).symm
  | cons b bs ih =>
    have hstep : appendNew as (b :: bs)
        = appendNew (if as.contains b then as else as ++ [b]) bs := rfl
    rw [hstep, ih, distinct]
    by_cases hb : b ∈ as
    · rw [if_pos (List.contains_iff_mem.mpr hb), List.filter_cons_of_neg (by simpa using hb),
        List.filter_filter]
      congr 1
      refine List.filter_congr fun a _ => ?_
      by_cases ha : a = b <;> simp [ha, hb]
    · rw [if_neg fun h => hb (List.contains_iff_mem.mp h),
        List.filter_cons_of_pos (by simpa using hb), List.filter_filter, List.append_assoc,
        List.singleton_append]
      congr 2
      refine List.filter_congr fun a _ => ?_
      simp

theorem mem_appendNew : a ∈ appendNew as bs ↔ a ∈ as ∨ a ∈ bs := by
  by_cases ha : a ∈ as <;> simp [appendNew_eq, ha]

theorem nodup_appendNew (h : as.Nodup) (bs : List α) : (appendNew as bs).Nodup := by
  rw [appendNew_eq, List.nodup_append]
  refine ⟨h, (nodup_distinct bs).filter _, fun a ha b hb hab => ?_⟩
  have hb' : b ∉ as := by simpa using (List.mem_filter.mp hb).2
  exact hb' (hab ▸ ha)

theorem appendNew_nil (bs : List α) : appendNew [] bs = distinct bs := by
  rw [appendNew_eq, List.nil_append, List.filter_eq_self]
  exact fun b _ => by simp

theorem appendNew_append (as bs cs : List α) :
    appendNew (appendNew as bs) cs = appendNew as (bs ++ cs) := by
  rw [appendNew, appendNew, appendNew, List.foldl_append]

/-- Repetitions may be dropped beforehand. -/
theorem appendNew_distinct (as bs : List α) : appendNew as (distinct bs) = appendNew as bs := by
  rw [appendNew_eq, appendNew_eq, distinct_of_nodup (nodup_distinct bs)]

end Query

/-- Members that stay different under a function are repeated at the same places. -/
theorem distinct_map {f : α → β} (hf : ∀ a ∈ as, ∀ b ∈ as, f a = f b → a = b) :
    distinct (as.map f) = (distinct as).map f := by
  induction as with
  | nil => rfl
  | cons a as ih =>
    have htail := fun b hb c hc => hf b (List.mem_cons_of_mem a hb) c (List.mem_cons_of_mem a hc)
    rw [List.map_cons, distinct, distinct, ih htail, List.map_cons, List.filter_map]
    congr 2
    refine List.filter_congr fun b hb => ?_
    have hb' := List.mem_cons_of_mem a (mem_distinct.mp hb)
    rw [Function.comp, decide_eq_decide]
    exact not_congr ⟨hf b hb' a List.mem_cons_self, congrArg f⟩

end Gallery
