import Gallery.Proofs.Command.Mirror

/-!
# `Gallery.Proofs.Command.Stored` — what commands leave in a store

A command begins with what is stored, so what one command keeps is kept by all commands together, in
whatever order they come and whether they succeed or not.

## Contents
- `Kept.run` and `kept_runAll`, what one command keeps and what several keep.
- `resolvable_after`, stored definitions can be resolved, and all queries with them.
- `follows_library`, what is stored is what the library of the command has become.
-/

namespace Gallery

open Query Command

namespace Store

variable {s : Store}

/-- **Commands keep the rules of a store.** -/
theorem Kept.run (h : s.Kept) (c : Command) : (c.run s).2.Kept := by
  obtain ⟨lib, hlib, hbegun⟩ := exists_begun h c.similarity
  obtain ⟨ρ, -, hruns⟩ := hbegun.runs_perform c
  unfold Command.run
  rw [hlib]
  dsimp only
  unfold Runs at hruns
  split
  · rename_i hperform
    rw [hperform] at hruns
    exact hruns.2
  · rename_i hperform
    rw [hperform] at hruns
    exact hruns.linked.kept

theorem kept_runAll (h : s.Kept) (commands : List Command) : (s.runAll commands).Kept := by
  induction commands generalizing s with
  | nil => exact h
  | cons c commands ih => exact ih (h.run c)

/-- The definition of a row is a query. -/
theorem Kept.exists_parse (h : s.Kept) {id : TagId} {r : TagRow} {definition : String}
    (hr : s.tags.get? id = some r) (hd : r.definition = some definition) :
    ∃ e, parse definition = .ok e := by
  have htag := h.tidy.valid.tag?_of_row hr (h.tidy.tag_legal id r hr)
  have hmeaning : s.catalog.meaning r.label = .compound definition := by
    rw [Catalog.meaning, htag, hd]
  cases h.resolvable r.label with
  | leaf hleaf => exact absurd hmeaning (hleaf definition)
  | compound hd' hp _ => exact ⟨_, Meaning.compound.inj (hd'.symm.trans hmeaning) ▸ hp⟩

/-- **No definition that is stored can make a query fail.**  After any commands on an empty store, the
stored definitions are queries, none of them depends on itself, and every text that is a query can be
resolved. -/
theorem resolvable_after (commands : List Command) (similarity : Similarity) :
    ∃ lib, Library.ofStore (runAll ∅ commands) similarity = .ok lib
      ∧ (∀ id r definition, (runAll ∅ commands).tags.get? id = some r →
        r.definition = some definition → ∃ e, parse definition = .ok e)
      ∧ (∀ l, ¬DependsOn lib.snapshot.catalog l l)
      ∧ ∀ text e, parse text = .ok e → ∃ compiled, (lib.compile text).1 = .ok compiled := by
  have hkept : (runAll ∅ commands).Kept := kept_runAll kept_empty commands
  obtain ⟨lib, hlib, hbegun⟩ := exists_begun hkept similarity
  have hresolvable : ∀ l, Resolvable lib.snapshot.catalog l := fun l =>
    (hkept.resolvable l).transfer fun m =>
      .inl (Catalog.meaning_of_tag? (congrArg (·.get? m) hbegun.loads.tags))
  exact ⟨lib, hlib, fun _ _ _ hr hd => hkept.exists_parse hr hd,
    fun l => (hresolvable l).not_dependsOn_self,
    fun _ _ he => hbegun.started.historic.exists_compile hresolvable he⟩

/-- **The store follows the library.**  After any commands on an empty store, the next command is never
refused by the store; if it succeeds, what is loaded from the store is the snapshot that the library
ended with, except that tags and images that the command has created may have other numbers. -/
theorem follows_library (commands : List Command) (c : Command) :
    ∃ lib, Library.ofStore (runAll ∅ commands) c.similarity = .ok lib
      ∧ ∃ result last, c.perform.run { library := lib, store := runAll ∅ commands } = (result, last)
        ∧ (c.run (runAll ∅ commands)).2 = last.store
        ∧ (∀ e, result ≠ .error (.store e))
        ∧ (result = .ok () → ∃ ρ : Renaming, ρ.Fixes lib.snapshot
          ∧ ∀ fresh, ∃ m, last.store.load fresh = .ok m
            ∧ m.Agrees (last.library.snapshot.rename ρ)) := by
  obtain ⟨lib, hlib, hbegun⟩ := exists_begun (kept_runAll kept_empty commands) c.similarity
  obtain ⟨ρ, hρ, hruns⟩ := hbegun.runs_perform c
  rcases hperform : c.perform.run { library := lib, store := runAll ∅ commands } with ⟨result, last⟩
  have hstore : (c.run (runAll ∅ commands)).2 = last.store := by
    unfold Command.run
    rw [hlib]
    dsimp only
    rw [hperform]
    cases result <;> rfl
  unfold Runs at hruns
  rw [hperform] at hruns
  refine ⟨lib, hlib, result, last, hperform, hstore, ?_, ?_⟩
  · rintro e rfl
    exact hruns.1 e rfl
  · rintro rfl
    exact ⟨ρ, hρ, fun fresh => hruns.exists_load fresh⟩

/-- Numbers may differ because a store does not give the number of a deleted tag again. -/
example :
    let s := runAll ∅ [.define "cat" .keep none, .undefine "cat"]
    (Library.ofStore s default).toOption.map (·.snapshot.catalog.nextTagId) = some 1
      ∧ s.tags.next = 2 := by decide +kernel

end Store

end Gallery
