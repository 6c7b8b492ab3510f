import Gallery.Proofs.Library.History
import Gallery.Proofs.Query.Labels
import Gallery.Proofs.Query.Resolution

/-!
# `Gallery.Proofs.Library.Redefinition` — definitions that are checked before they are kept

Whether a label can be resolved is found out by compiling the query that consists of the label.  If
every label could be resolved before one of them changed its meaning, and this one still can, then
every label still can: a new cycle would have to pass through the label that was changed.

## Contents
- `Resolvable.transfer`, what changed meanings leave resolvable.
- `Snapshot.resolvable_of_compile` and `Snapshot.exists_compile`, compiling and resolvable labels.
- `Library.Historic`, a library as it is found after some steps, whose cache does not show;
  `Historic.resolvable_of_validate` and `Historic.exists_compile`.
-/

namespace Gallery

open Query

/-! ## Labels that can be resolved -/

/-- A label can be resolved as before, if the labels with a new meaning can be resolved. -/
theorem Query.Resolvable.transfer {c d : Catalog} {l : String}
    (hcd : ∀ m, d.meaning m = c.meaning m ∨ Resolvable d m) (h : Resolvable c l) :
    Resolvable d l := by
  induction h with
  | leaf hl =>
    rename_i l
    rcases hcd l with heq | hd
    · exact .leaf fun definition hdef => hl definition (heq.symm.trans hdef)
    · exact hd
  | compound hl hp _ ih =>
    rename_i l definition p _
    rcases hcd l with heq | hd
    · exact .compound (heq.trans hl) hp ih
    · exact hd

/-- A label that is not compound can be resolved. -/
theorem Query.resolvable_of_meaning {c : Catalog} {l : String}
    (h : c.meaning l = .unknown ∨ c.meaning l = .plain) : Resolvable c l := by
  refine .leaf fun definition hdef => ?_
  rcases h with h | h
  · cases h.symm.trans hdef
  · cases h.symm.trans hdef

namespace Snapshot

variable {s : Snapshot} {text l : String}

/-- A label that compiles can be resolved. -/
theorem resolvable_of_compile {compiled : Compiled} (hl : isValidLabel l = true)
    (h : (s.compile false l .empty).1 = .ok compiled) : Resolvable s.catalog l := by
  unfold compile at h
  rw [parse_label hl] at h
  dsimp only at h
  have hresolve : ∃ r, resolve s.catalog (.tag l) = .ok r := by
    unfold resolve
    split at h
    · cases h
    · rename_i r k hr
      exact ⟨r, by rw [hr]⟩
  obtain ⟨r, hr⟩ := hresolve
  exact (resolve_eq_ok hr).resolvable l List.mem_cons_self

/-- If every label can be resolved, every query compiles. -/
theorem exists_compile (h : ∀ l, Resolvable s.catalog l) {e : Expr} (he : parse text = .ok e) :
    ∃ compiled, (s.compile false text .empty).1 = .ok compiled := by
  obtain ⟨r, hr⟩ := resolve_ok_iff.mpr (grounded_of_resolvable fun l (_ : l ∈ e.occurrences) => h l)
  unfold resolve at hr
  unfold compile
  rw [he]
  dsimp only
  rcases hrun : resolveWith s.catalog false e .empty with ⟨err | r', k⟩
  · rw [hrun] at hr
    cases hr
  · exact ⟨_, rfl⟩

end Snapshot

/-! ## Libraries with a past -/

namespace Library

/-- The library is what some steps have led to. -/
def Historic (lib : Library) : Prop := ∃ h : History, Consistent h ∧ h.library = lib

variable {lib lib' : Library} {label : String}

theorem Started.historic (h : lib.Started) : lib.Historic := ⟨_, h.consistent, rfl⟩

theorem Historic.of_apply (h : lib.Historic) (change : LibraryChange)
    (hlib : (lib.apply change).2 = lib') : lib'.Historic := by
  obtain ⟨h, hh, rfl⟩ := h
  exact ⟨_, hh.step (.change change), hlib⟩

theorem Historic.sound (h : lib.Historic) : Sound lib.snapshot.catalog lib.cache := by
  obtain ⟨h, hh, rfl⟩ := h
  exact hh.sound _ hh.current

/-- A tag that was found to be usable can be resolved. -/
theorem Historic.resolvable_of_validate {warnings : List Warning} (h : lib.Historic)
    (hlabel : isValidLabel label = true) (hv : lib.validate label = (.ok warnings, lib')) :
    Resolvable lib.snapshot.catalog label ∧ lib'.snapshot = lib.snapshot := by
  have hlib : lib' = (lib.compile label).2 :=
    (congrArg Prod.snd hv).symm.trans (lib.validate_snd label)
  refine ⟨?_, hlib ▸ rfl⟩
  have hcompile : ∃ compiled, (lib.compile label).1 = .ok compiled := by
    unfold validate at hv
    split at hv
    · cases hv
    · rename_i compiled _ hc
      exact ⟨compiled, congrArg Prod.fst hc⟩
  obtain ⟨compiled, hcompiled⟩ := hcompile
  have huncached := (Snapshot.compile_eq h.sound label).1
  exact Snapshot.resolvable_of_compile hlabel (huncached.symm.trans hcompiled)

/-- If every label can be resolved, every query compiles, whatever the cache holds. -/
theorem Historic.exists_compile (h : lib.Historic)
    (hall : ∀ l, Resolvable lib.snapshot.catalog l) {text : String} {e : Expr}
    (he : parse text = .ok e) : ∃ compiled, (lib.compile text).1 = .ok compiled := by
  obtain ⟨compiled, hcompiled⟩ := Snapshot.exists_compile hall he
  exact ⟨compiled, (Snapshot.compile_eq h.sound text).1.trans hcompiled⟩

end Library

end Gallery
