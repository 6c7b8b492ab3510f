import Gallery.Proofs.Query.Paths
import Gallery.Query.Descent

/-!
# `Gallery.Proofs.Query.Descent` — reasoning about actions of the descent

A run stands in a text in front of what it has not read.  An action is judged from such a place: that
it ends, and what holds of its outcome and its last state.  Since an action that never ends has no
outcome, whoever shows the judgement shows that the action ends.

What the parser returns is told with what it has left.  An action agrees with it if it has the same
outcome, stands in front of what is left, and has the counter where it is expected.

## Contents
- `Event.Sound`, what a trace may show; `Stands`, where a run is.
- `Ends`, the judgement, with one rule for each way to build an action; `Agrees`.
- One rule for each primitive action, from `ends_peek` to `ends_call`.
-/

namespace Gallery.Query

open Gallery.Text

namespace Descent

/-- What a trace of a run on a text with `size` characters may show. -/
def Event.Sound (size : Nat) : Event → Prop
  | .counts depth => depth ≤ maxNesting + 1
  | .returns _ before after e =>
    before.position < after.position ∧ after.position ≤ size ∧ after.depth = before.depth
      ∧ e.Within (2 * maxNesting + 3)

/-- Everything in the trace is sound. -/
def State.Sound (size : Nat) (σ : State) : Prop := ∀ event ∈ σ.trace, event.Sound size

/-- In the text `cs`, the run stands in front of `s` with `d` minus signs and parentheses open. -/
structure Stands (cs : Input) (s : List Char) (d : Nat) (σ : State) : Prop where
  drop_eq : cs.drop σ.position = s
  position_le : σ.position ≤ cs.length
  depth_eq : σ.depth = d
  sound : σ.Sound cs.length

/-- From the state the action ends, and then `Q` holds of its outcome and its last state. -/
def Ends {α : Type} (σ : State) (m : Descent α) (Q : Except QueryError α → State → Prop) : Prop :=
  ∃ x τ, m.run σ = some (x, τ) ∧ Q x τ

/-- The outcome is that of a reader.  After a success the run stands in front of what the reader has
left, with `d` minus signs and parentheses open. -/
def Agrees {α : Type} {P : List Char → Prop} (cs : Input) (d : Nat)
    (x : Except QueryError (α × { r // P r })) : Except QueryError α → State → Prop := fun y τ =>
  match x with
  | .error err => y = .error err ∧ τ.Sound cs.length
  | .ok (a, r) => y = .ok a ∧ Stands cs r.1 d τ

variable {α β : Type} {cs : Input} {s t : List Char} {d : Nat} {σ τ : State} {c : Char}

theorem Stands.add_length (h : Stands cs s d σ) : σ.position + s.length = cs.length := by
  rw [← h.drop_eq, List.length_drop]
  exact Nat.add_sub_cancel' h.position_le

theorem Stands.getElem?_eq (h : Stands cs s d σ) : cs[σ.position]? = s.head? := by
  rw [← h.drop_eq, List.head?_drop]

/-! ## Actions in general -/

section

variable {P : List Char → Prop} {Q : Except QueryError β → State → Prop}

/-- The second action starts where the first one ends. -/
theorem ends_bind {m : Descent α} {f : α → Descent β}
    (h : Ends σ m fun x τ => match x with
      | .error err => Q (.error err) τ
      | .ok a => Ends τ (f a) Q) : Ends σ (m >>= f) Q := by
  obtain ⟨x, τ, hrun, h⟩ := h
  have hbind : (m >>= f).run σ = (m.run σ).bind fun y => ExceptT.bindCont f y.1 y.2 := rfl
  cases x with
  | error err => exact ⟨.error err, τ, by rw [hbind, hrun]; rfl, h⟩
  | ok a =>
    obtain ⟨y, υ, hnext, h⟩ := h
    exact ⟨y, υ, by rw [hbind, hrun]; exact hnext, h⟩

/-- An action with the outcome of a reader, and what is done with it. -/
theorem ends_bind_agrees {m : Descent α} {f : α → Descent β}
    {x : Except QueryError (α × { r // P r })} (h : Ends σ m (Agrees cs d x))
    (herror : ∀ err τ, x = .error err → τ.Sound cs.length → Q (.error err) τ)
    (hok : ∀ a r τ, x = .ok (a, r) → Stands cs r.1 d τ → Ends τ (f a) Q) :
    Ends σ (m >>= f) Q := by
  obtain ⟨y, τ, hrun, h⟩ := h
  refine ends_bind ⟨y, τ, hrun, ?_⟩
  cases x with
  | error err =>
    obtain ⟨rfl, hsound⟩ := h
    exact herror err τ rfl hsound
  | ok a =>
    obtain ⟨rfl, hstands⟩ := h
    exact hok a.1 a.2 τ rfl hstands

theorem ends_get {f : State → Descent β} (h : Ends σ (f σ) Q) : Ends σ (get >>= f) Q :=
  ends_bind ⟨.ok σ, σ, rfl, h⟩

theorem agrees_error {x : Except QueryError (α × { r // P r })} {err : QueryError}
    (hx : x = .error err) (h : τ.Sound cs.length) : Agrees cs d x (.error err) τ := by
  subst hx
  exact ⟨rfl, h⟩

theorem ends_pure {x : Except QueryError (α × { r // P r })} {a : α} {r : { r // P r }}
    (hx : x = .ok (a, r)) (h : Stands cs r.1 d τ) : Ends τ (pure a) (Agrees cs d x) := by
  subst hx
  exact ⟨_, _, rfl, rfl, h⟩

/-- The same is read with another bound on what is left. -/
theorem Ends.retype {P' : List Char → Prop} {m : Descent α} {x : Except QueryError (α × { r // P r })}
    {y : Except QueryError (α × { r // P' r })} (h : Ends σ m (Agrees cs d x))
    (herror : ∀ err, x = .error err → y = .error err)
    (hok : ∀ a r, x = .ok (a, r) → ∃ h, y = .ok (a, ⟨r.1, h⟩)) : Ends σ m (Agrees cs d y) := by
  obtain ⟨z, τ, hrun, h⟩ := h
  refine ⟨z, τ, hrun, ?_⟩
  cases x with
  | error err =>
    obtain ⟨rfl, hsound⟩ := h
    exact agrees_error (herror err rfl) hsound
  | ok a =>
    obtain ⟨rfl, hstands⟩ := h
    obtain ⟨hr, rfl⟩ := hok a.1 a.2 rfl
    exact ⟨rfl, hstands⟩

/-- What was read is put into something larger. -/
theorem ends_map {P' : List Char → Prop} {m : Descent α} {f : α → β}
    {x : Except QueryError (α × { r // P r })} {y : Except QueryError (β × { r // P' r })}
    (h : Ends σ m (Agrees cs d x))
    (herror : ∀ err, x = .error err → y = .error err)
    (hok : ∀ a r, x = .ok (a, r) → ∃ h, y = .ok (f a, ⟨r.1, h⟩)) :
    Ends σ (do return f (← m)) (Agrees cs d y) := by
  refine ends_bind_agrees h (fun err τ hx hτ => agrees_error (herror err hx) hτ) ?_
  intro a r τ hx hτ
  obtain ⟨hr, hy⟩ := hok a r hx
  exact ends_pure hy hτ

end

/-! ## Primitive actions -/

section

variable {P : List Char → Prop} {Q : Except QueryError β → State → Prop}

theorem ends_peek {f : Option Char → Descent β} (h : Stands cs s d σ) (hf : Ends σ (f s.head?) Q) :
    Ends σ (cs.peek >>= f) Q := by
  refine ends_bind ⟨.ok s.head?, σ, ?_, hf⟩
  rw [← h.getElem?_eq]
  rfl

theorem ends_advance_nil {f : Option Char → Descent β} (h : Stands cs [] d σ)
    (hf : Ends σ (f none) Q) : Ends σ (cs.advance >>= f) Q := by
  refine ends_bind ?_
  unfold Input.advance
  exact ends_peek h ⟨.ok none, σ, rfl, hf⟩

theorem ends_advance {f : Option Char → Descent β} (h : Stands cs (c :: s) d σ)
    (hf : ∀ τ, Stands cs s d τ → Ends τ (f (some c)) Q) : Ends σ (cs.advance >>= f) Q := by
  refine ends_bind ?_
  unfold Input.advance
  refine ends_peek h ⟨.ok (some c), _, rfl, hf _ ⟨?_, ?_, h.depth_eq, h.sound⟩⟩
  · rw [← List.drop_drop, h.drop_eq]
    rfl
  · have hlength := h.add_length
    rw [List.length_cons] at hlength
    show σ.position + 1 ≤ cs.length
    omega

theorem ends_skipWhile {p : Char → Bool} {f : Unit → Descent β} (h : Stands cs s d σ)
    (hf : ∀ τ, Stands cs (s.dropWhile p) d τ → Ends τ (f ()) Q) :
    Ends σ (cs.skipWhile p >>= f) Q := by
  refine ends_bind ?_
  induction s generalizing σ with
  | nil =>
    rw [Input.skipWhile]
    exact ends_peek h ⟨.ok (), σ, rfl, hf σ h⟩
  | cons c s ih =>
    rw [Input.skipWhile]
    refine ends_peek h ?_
    rw [List.head?_cons, Option.any_some]
    by_cases hc : p c = true
    · rw [if_pos hc]
      refine ends_advance h fun τ hτ => ih hτ ?_
      rwa [List.dropWhile_cons_of_pos hc] at hf
    · rw [if_neg hc]
      rw [List.dropWhile_cons_of_neg hc] at hf
      exact ⟨.ok (), σ, rfl, hf σ h⟩

theorem ends_skipBlanks {f : Unit → Descent β} (h : Stands cs s d σ)
    (hf : ∀ τ, Stands cs (skipSpace s).1 d τ → Ends τ (f ()) Q) : Ends σ (cs.skipBlanks >>= f) Q :=
  ends_skipWhile h hf

theorem ends_endsHere {f : Bool → Descent β} (h : Stands cs s d σ)
    (hf : Ends σ (f (endsOperands s)) Q) : Ends σ (cs.endsHere >>= f) Q := by
  refine ends_bind ?_
  unfold Input.endsHere
  refine ends_peek h ⟨.ok (endsOperands s), σ, ?_, hf⟩
  cases s <;> rfl

theorem ends_count {g : Nat → Nat} {f : Unit → Descent β} (h : Stands cs s d σ)
    (hg : g d ≤ maxNesting + 1) (hf : ∀ τ, Stands cs s (g d) τ → Ends τ (f ()) Q) :
    Ends σ (count g >>= f) Q := by
  obtain ⟨hdrop, hle, rfl, hsound⟩ := h
  exact ends_bind ⟨.ok (), _, rfl, hf _ ⟨hdrop, hle, rfl, List.forall_mem_cons.mpr ⟨hg, hsound⟩⟩⟩

/-- Goes back to where an earlier state stood. -/
theorem ends_moveTo {f : Unit → Descent β} (hσ : Stands cs s d σ) (hsound : τ.Sound cs.length)
    (hdepth : τ.depth = d) (hf : ∀ υ, Stands cs s d υ → Ends υ (f ()) Q) :
    Ends τ (moveTo σ.position >>= f) Q :=
  ends_bind ⟨.ok (), _, rfl, hf _ ⟨hσ.drop_eq, hσ.position_le, hdepth, hsound⟩⟩

theorem ends_since {p : Char → Bool} {f : List Char → Descent β} (hσ : Stands cs s d σ)
    (hτ : Stands cs (s.dropWhile p) d τ) (hf : Ends τ (f (s.takeWhile p)) Q) :
    Ends τ (cs.since σ.position >>= f) Q := by
  have htake : (cs.drop σ.position).take (τ.position - σ.position) = s.takeWhile p := by
    have hσlength := hσ.add_length
    have hτlength := hτ.add_length
    have hlength : (s.takeWhile p).length + (s.dropWhile p).length = s.length := by
      rw [← List.length_append, List.takeWhile_append_dropWhile]
    rw [hσ.drop_eq, show τ.position - σ.position = (s.takeWhile p).length by omega]
    exact (List.prefix_iff_eq_take.mp (List.takeWhile_prefix p)).symm
  refine ends_bind ⟨.ok (s.takeWhile p), τ, ?_, hf⟩
  rw [← htake]
  rfl

/-- A fault is reported where an earlier state stood. -/
theorem ends_fault {x : Except QueryError (α × { r // P r })} {fault : SyntaxFault} {d' : Nat}
    (hσ : Stands cs s d σ) (hτ : τ.Sound cs.length) (hx : x = faultAt cs.length s fault) :
    Ends τ (Descent.fault σ.position fault) (Agrees cs d' x) := by
  have hposition : σ.position = cs.length - s.length := by
    have hlength := hσ.add_length
    omega
  subst hx
  rw [hposition]
  exact ⟨_, _, rfl, rfl, hτ⟩

/-- A call agrees with the reader that its body agrees with, if that reads something and returns no
query that is too high. -/
theorem ends_call {x : Except QueryError (Expr × Shorter s)} {routine : Routine}
    {body : Nat → Descent Expr} (h : Stands cs s d σ)
    (hwithin : ∀ e r, x = .ok (e, r) → e.Within (2 * maxNesting + 3))
    (hbody : Ends σ (body σ.position) (Agrees cs d x)) :
    Ends σ (call routine body) (Agrees cs d x) := by
  refine ends_get (ends_bind_agrees hbody (fun err τ hx hτ => agrees_error hx hτ) ?_)
  intro e r τ hx hτ
  have hmoved : σ.position < τ.position := by
    have hbefore := h.add_length
    have hafter := hτ.add_length
    have hr := r.2
    omega
  have hdepth : τ.depth = σ.depth := hτ.depth_eq.trans h.depth_eq.symm
  have hreturns : (Event.returns routine σ.toCursor τ.toCursor e).Sound cs.length :=
    ⟨hmoved, hτ.position_le, hdepth, hwithin e r hx⟩
  exact ends_bind ⟨_, _, rfl, ends_pure hx
    ⟨hτ.drop_eq, hτ.position_le, hτ.depth_eq, List.forall_mem_cons.mpr ⟨hreturns, hτ.sound⟩⟩⟩

end

end Descent

end Gallery.Query
