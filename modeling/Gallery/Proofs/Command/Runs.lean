import Gallery.Command.Session

/-!
# `Gallery.Proofs.Command.Runs` — reasoning about actions on a session

An action is judged from the session in which it starts: it ends with a value and a session of which
something holds, or it fails with a store of which something else holds.  The store is never the reason
of a failure, for a command asks the library first and the library refuses what the store would refuse.

## Contents
- `Runs`, the judgement, with the rule of consequence and one rule for each way to build an action.
- One rule for each primitive action: `say`, `warn`, `ask`, `inLibrary`, `inStore`, `surely`,
  `findImage`.
-/

namespace Gallery.Command

open Query

/-- From the session the action ends with `Q`, or it fails for another reason than the store and
leaves a store with `P`. -/
def Runs {α : Type} (P : Store → Prop) (σ : Session) (a : Action α) (Q : α → Session → Prop) :
    Prop :=
  match a.run σ with
  | (.error f, t) => (∀ e, f ≠ .store e) ∧ P t.store
  | (.ok v, t) => Q v t

variable {α β : Type} {P : Store → Prop} {σ : Session} {a : Action α} {Q R : α → Session → Prop}

/-! ## Actions in general -/

theorem Runs.imp (h : Runs P σ a Q) (hQ : ∀ v t, Q v t → R v t) : Runs P σ a R := by
  unfold Runs at h ⊢
  split at h
  · exact h
  · exact hQ _ _ h

/-- The same action ends or fails in two ways at once. -/
theorem Runs.and {P' : Store → Prop} (h : Runs P σ a Q) (h' : Runs P' σ a R) :
    Runs P σ a fun v t => Q v t ∧ R v t := by
  unfold Runs at h h' ⊢
  rcases hrun : a.run σ with ⟨f | v, t⟩
  · rw [hrun] at h
    exact h
  · rw [hrun] at h h'
    exact ⟨h, h'⟩

theorem Runs.of_failure {P' : Store → Prop} (h : Runs P σ a Q) (hP : ∀ s, P s → P' s) :
    Runs P' σ a Q := by
  unfold Runs at h ⊢
  split at h
  · exact ⟨h.1, hP _ h.2⟩
  · exact h

theorem runs_pure {v : α} (h : Q v σ) : Runs P σ (pure v) Q := h

theorem runs_throw {f : Failure} (hf : ∀ e, f ≠ .store e) (hP : P σ.store) :
    Runs P σ (throw f : Action α) Q := ⟨hf, hP⟩

/-- The second action starts where the first one ends. -/
theorem runs_bind {f : α → Action β} {Q : β → Session → Prop}
    (h : Runs P σ a fun v t => Runs P t (f v) Q) : Runs P σ (a >>= f) Q := by
  have hrun : (a >>= f).run σ = match a.run σ with
      | (.error e, t) => (.error e, t)
      | (.ok v, t) => (f v).run t := by
    show (ExceptT.bindCont f (a.run σ).1).run (a.run σ).2 = _
    rcases a.run σ with ⟨e | v, t⟩ <;> rfl
  unfold Runs at h ⊢
  rw [hrun]
  rcases ha : a.run σ with ⟨e | v, t⟩
  · rw [ha] at h
    exact h
  · rw [ha] at h
    exact h

theorem runs_get {Q : Session → Session → Prop} (h : Q σ σ) : Runs P σ (get : Action Session) Q := h

theorem runs_modify {g : Session → Session} {Q : Unit → Session → Prop} (h : Q () (g σ)) :
    Runs P σ (modify g : Action Unit) Q := h

/-- What every round of a loop keeps. -/
theorem runs_forM {I : Session → Prop} {xs : List β} {f : β → Action Unit}
    (hf : ∀ x ∈ xs, ∀ t, I t → Runs P t (f x) fun _ => I) (h : I σ) :
    Runs P σ (xs.forM f) fun _ => I := by
  induction xs generalizing σ with
  | nil => exact h
  | cons x xs ih =>
    refine runs_bind ((hf x List.mem_cons_self σ h).imp fun _ t ht => ?_)
    exact ih (fun y hy => hf y (List.mem_cons_of_mem x hy)) ht

/-! ## Primitive actions -/

theorem runs_say {line : String} {Q : Unit → Session → Prop}
    (h : Q () { σ with out := σ.out ++ [line] }) : Runs P σ (say line) Q := h

theorem runs_warn {w : Warning} {Q : Unit → Session → Prop}
    (h : Q () { σ with err := σ.err ++ ["[WARN] " ++ w.message] }) : Runs P σ (warn w) Q := h

theorem runs_current {Q : Snapshot → Session → Prop} (h : Q σ.library.snapshot σ) :
    Runs P σ current Q := h

/-- The library may refuse, and then the store is as it was. -/
theorem runs_ask_cases {ε : Type} {failure : ε → Failure} {work : Library → Except ε α × Library}
    (hfailure : ∀ e x, failure e ≠ .store x)
    (hP : ∀ e lib, work σ.library = (.error e, lib) → P σ.store)
    (h : ∀ v lib, work σ.library = (.ok v, lib) → Q v { σ with library := lib }) :
    Runs P σ (ask failure work) Q := by
  refine runs_bind (runs_get ?_)
  rcases hwork : work σ.library with ⟨e | v, lib⟩
  · exact runs_bind (runs_modify (runs_throw (hfailure e) (hP e lib hwork)))
  · exact runs_bind (runs_modify (runs_pure (h v lib hwork)))

theorem runs_ask {ε : Type} {failure : ε → Failure} {work : Library → Except ε α × Library}
    (hfailure : ∀ e x, failure e ≠ .store x) (hP : P σ.store)
    (h : ∀ v lib, work σ.library = (.ok v, lib) → Q v { σ with library := lib }) :
    Runs P σ (ask failure work) Q := runs_ask_cases hfailure (fun _ _ _ => hP) h

theorem runs_inLibrary {change : Library → Except LibraryError α × Library} (hP : P σ.store)
    (h : ∀ v lib, change σ.library = (.ok v, lib) → Q v { σ with library := lib }) :
    Runs P σ (inLibrary change) Q := runs_ask nofun hP h

/-- The store must not refuse. -/
theorem runs_inStore {change : Store → Except StoreError (α × Store)} {v : α} {s : Store}
    (hs : change σ.store = .ok (v, s)) (h : Q v { σ with store := s }) :
    Runs P σ (inStore change) Q := by
  refine runs_bind (runs_get ?_)
  rw [hs]
  exact runs_bind (runs_modify (runs_pure h))

theorem runs_surely {change : Store → α × Store}
    (h : Q (change σ.store).1 { σ with store := (change σ.store).2 }) :
    Runs P σ (surely change) Q := runs_inStore rfl h

theorem runs_findImage {path : String} {Q : ImageId → Session → Prop}
    (hP : σ.library.snapshot.index.imageByPath? path = none → P σ.store)
    (h : ∀ image, σ.library.snapshot.index.imageByPath? path = some image → Q image.id σ) :
    Runs P σ (findImage path) Q := by
  refine runs_bind (runs_current ?_)
  cases himage : σ.library.snapshot.index.imageByPath? path with
  | none => exact runs_throw nofun (hP himage)
  | some image => exact runs_pure (h image himage)

end Gallery.Command
