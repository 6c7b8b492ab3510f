/-!
# `Gallery.Distinct` — lists without their repetitions

## Contents
- `distinct`, the list with only the first occurrence of each member.
- `mem_distinct`, `nodup_distinct`, `distinct_of_nodup`: the same members, each once, and nothing
  changes if each occurs once already.
-/

namespace Gallery

universe u

variable {α : Type u} [DecidableEq α]

/-- The members in order of their first occurrence. -/
def distinct : List α → List α
  | [] => []
  | a :: as => a :: (distinct as).filter (· ≠ a)

@[simp, grind =] theorem mem_distinct {a : α} {as : List α} : a ∈ distinct as ↔ a ∈ as := by
  induction as with
  | nil => simp [distinct]
  | cons b bs ih => by_cases h : a = b <;> simp [distinct, h, ih]

theorem nodup_distinct (as : List α) : (distinct as).Nodup := by
  induction as with
  | nil => simp [distinct]
  | cons a as ih =>
    rw [distinct, List.nodup_cons]
    exact ⟨by simp, ih.filter _⟩

theorem distinct_of_nodup {as : List α} (h : as.Nodup) : distinct as = as := by
  induction as with
  | nil => rfl
  | cons a as ih =>
    obtain ⟨ha, has⟩ := List.nodup_cons.1 h
    rw [distinct, ih has, List.filter_eq_self.2]
    intro b hb
    simpa using fun e : b = a => ha (e ▸ hb)

end Gallery
