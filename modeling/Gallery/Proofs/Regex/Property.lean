import Gallery.Regex.Property

/-!
# `Gallery.Proofs.Regex.Property` — the characters that a property asks for

The tables of scripts, of script extensions and of ages are lists of intervals in order.  In such a
list no two intervals share a character, so the characters that are collected for a value are those
that have the value: a script holds the characters whose script it is, and the ages grow.

## Contents
- `ValueRun.anyContains_runsWith_iff`, the characters of some values, in a table in order.
- `contains_ofScript_iff` and `contains_usedBy_iff`; `eq_of_contains_ofScript`, scripts are apart.
- `contains_ofAge_iff` and `contains_ofAge_mono`, the ages grow.
-/

namespace Gallery.Text.ValueRun

variable {α : Type} {runs : List (ValueRun α)} {r : ValueRun α} {p : α → Bool} {c : Char} {n : Nat}

theorem holds_iff : r.holds n = true ↔ r.first ≤ n ∧ n ≤ r.last := by
  simp [holds]

theorem ordered_cons_iff : ordered n (r :: runs) = true
    ↔ n ≤ r.first ∧ r.first ≤ r.last ∧ ordered (r.last + 1) runs = true := by
  simp [ordered, and_assoc]

theorem value?_cons : value? (r :: runs) c
    = if r.holds c.toNat = true then some r.value else value? runs c := by
  cases h : r.holds c.toNat <;> simp [value?, h]

/-- A list in order gives no value to the characters before it. -/
theorem value?_eq_none (h : ordered n runs = true) (hc : c.toNat < n) : value? runs c = none := by
  induction runs generalizing n with
  | nil => rfl
  | cons r runs ih =>
    obtain ⟨hn, hr, hrest⟩ := ordered_cons_iff.1 h
    have hout : ¬r.holds c.toNat = true := by
      intro hin
      have := holds_iff.1 hin
      omega
    rw [value?_cons, if_neg hout]
    exact ih hrest (by omega)

theorem anyContains_runsWith_cons : CodeRun.anyContains (runsWith p (r :: runs)) c = true
    ↔ (p r.value = true ∧ r.holds c.toNat = true)
      ∨ CodeRun.anyContains (runsWith p runs) c = true := by
  cases h : p r.value <;>
    simp [runsWith, CodeRun.anyContains, CodeRun.contains, holds, h, Nat.mod_one]

/-- In a list in order the intervals whose value passes a test hold the characters whose value
passes it. -/
theorem anyContains_runsWith_iff (h : ordered n runs = true) :
    CodeRun.anyContains (runsWith p runs) c = true ↔ ∃ v, value? runs c = some v ∧ p v = true := by
  induction runs generalizing n with
  | nil => simp [runsWith, value?, CodeRun.anyContains]
  | cons r runs ih =>
    obtain ⟨-, hr, hrest⟩ := ordered_cons_iff.1 h
    rw [anyContains_runsWith_cons, ih hrest, value?_cons]
    by_cases hin : r.holds c.toNat = true
    · -- no later interval holds the character, so the value of this one decides
      have hnone : value? runs c = none := by
        have := holds_iff.1 hin
        exact value?_eq_none hrest (by omega)
      simp [hin, hnone]
    · simp [hin]

end Gallery.Text.ValueRun

namespace Gallery.Regex

open Gallery.Text

variable {s : Script} {a : Age} {c : Char}

theorem ordered_scriptRuns : ValueRun.ordered 0 scriptRuns = true := by decide +kernel

theorem ordered_sharedRuns : ValueRun.ordered 0 sharedRuns = true := by decide +kernel

theorem ordered_ageRuns : ValueRun.ordered 0 ageRuns = true := by decide +kernel

/-- A script holds the characters whose script it is. -/
theorem contains_ofScript_iff :
    (CharClass.ofScript s).contains c = true ↔ scriptOf? c = some s := by
  rw [CharClass.ofScript, CharClass.contains, ValueRun.anyContains_runsWith_iff ordered_scriptRuns]
  simp [scriptOf?]

/-- No two scripts share a character. -/
theorem eq_of_contains_ofScript {t : Script} (hs : (CharClass.ofScript s).contains c = true)
    (ht : (CharClass.ofScript t).contains c = true) : s = t := by
  rw [contains_ofScript_iff] at hs ht
  exact Option.some.inj (hs.symm.trans ht)

/-- A script uses the characters that have it among their scripts. -/
theorem contains_usedBy_iff : (CharClass.usedBy s).contains c = true ↔ s ∈ scriptsOf c := by
  simp only [CharClass.usedBy, CharClass.diff, CharClass.contains, Bool.or_eq_true,
    Bool.and_eq_true, Bool.not_eq_true', ← Bool.not_eq_true,
    ValueRun.anyContains_runsWith_iff ordered_sharedRuns, contains_ofScript_iff]
  cases h : ValueRun.value? sharedRuns c with
  | none => simp [scriptsOf, h]
  | some scripts => simp [scriptsOf, h]

/-- A version of Unicode knows the characters that it or an earlier version added. -/
theorem contains_ofAge_iff : (CharClass.ofAge a).contains c = true
    ↔ ∃ v, ageOf? c = some v ∧ v.noLater a = true := by
  rw [CharClass.ofAge, CharClass.contains, ValueRun.anyContains_runsWith_iff ordered_ageRuns]
  rfl

theorem Age.noLater_trans {b d : Age} (h : a.noLater b = true) (h' : b.noLater d = true) :
    a.noLater d = true := by
  simp only [Age.noLater, Bool.or_eq_true, Bool.and_eq_true, decide_eq_true_eq, beq_iff_eq] at *
  omega

/-- A later version of Unicode knows no fewer characters. -/
theorem contains_ofAge_mono {b : Age} (h : a.noLater b = true)
    (hc : (CharClass.ofAge a).contains c = true) : (CharClass.ofAge b).contains c = true := by
  rw [contains_ofAge_iff] at hc ⊢
  rcases hc with ⟨v, hv, hle⟩
  exact ⟨v, hv, Age.noLater_trans hle h⟩

end Gallery.Regex
