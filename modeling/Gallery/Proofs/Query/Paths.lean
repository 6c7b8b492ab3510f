import Gallery.Proofs.Query.Printing

/-!
# `Gallery.Proofs.Query.Paths` — how high the trees of queries are

Whatever recurs over a query goes down a path of its tree, from the root to a leaf.  In a query that is
read, every level of nesting in the text adds at most two nodes to a path: a minus sign adds the
negation, and a parenthesis a disjunction with a conjunction in it.  Outside all nesting there are a
disjunction, a conjunction and the leaf.

## Contents
- `Expr.Path`, from the root to a leaf; `Expr.Within n`, no path has more than `n` nodes.
- `Operand.within` and `Written.within`, by induction over how much may be open at once.
- `exists_written_path` and `exists_parse_path`, no smaller bound holds.
-/

namespace Gallery.Query

open Gallery.Text

variable {e : Expr} {es : List Expr} {n m : Nat} {s r : List Char}

namespace Expr

/-! ## Paths -/

/-- The operands of a query. -/
def operands : Expr → List Expr
  | neg e => [e]
  | all es | any es => es
  | _ => []

/-- The nodes on a way from the root of a query to a leaf. -/
inductive Path : Expr → List Expr → Prop
  | leaf {e : Expr} (h : e.operands = []) : Path e [e]
  | step {e d : Expr} {p : List Expr} (hd : d ∈ e.operands) (h : Path d p) : Path e (e :: p)

/-- No path has more than `n` nodes. -/
def Within (n : Nat) (e : Expr) : Prop := ∀ p, e.Path p → p.length ≤ n

theorem Within.mono (h : e.Within n) (hnm : n ≤ m) : e.Within m := fun p hp =>
  Nat.le_trans (h p hp) hnm

/-- A node adds one to the paths of its operands. -/
theorem within_succ (h : ∀ d ∈ e.operands, d.Within n) : e.Within (n + 1) := by
  intro p hp
  cases hp with
  | leaf => exact Nat.succ_le_succ (Nat.zero_le n)
  | step hd hp => exact Nat.succ_le_succ (h _ hd _ hp)

theorem within_leaf (h : e.operands = []) : e.Within 1 :=
  within_succ (by rw [h]; exact fun _ hd => nomatch hd)

end Expr

/-! ## Queries that are read -/

theorem Word.within (h : Word e s r) : e.Within 1 := by
  cases h with
  | tag => exact Expr.within_leaf rfl
  | metatag => exact Expr.within_leaf rfl

/-- A connective adds one node, and a single operand none. -/
theorem within_joined {connective : List Expr → Expr} (hne : es ≠ [])
    (hconnective : (connective es).operands = es) (hs : ∀ e ∈ es, e.Within n) :
    (joined connective es).Within (n + 1) :=
  joined_induction hne (fun e he => (hs e he).mono (Nat.le_succ n)) fun _ =>
    Expr.within_succ (hconnective.symm ▸ hs)

theorem Conjunction.within {operand : Phrase} (hoperand : ∀ {e s r}, operand e s r → e.Within n)
    (h : Conjunction operand e s r) : e.Within (n + 1) := by
  obtain ⟨es, rfl, hes⟩ := h
  refine within_joined hes.ne_nil rfl fun e he => ?_
  obtain ⟨s, r, h⟩ := hes.forall_mem e he
  exact hoperand h

theorem Disjunction.within {operand : Phrase} (hoperand : ∀ {e s r}, operand e s r → e.Within n)
    (h : Disjunction operand e s r) : e.Within (n + 2) := by
  obtain ⟨cs, rfl, hcs⟩ := h
  refine within_joined hcs.ne_nil rfl fun c hc => ?_
  obtain ⟨s, r, h⟩ := hcs.forall_mem c hc
  exact Conjunction.within hoperand h

/-- One more that may be open adds two nodes. -/
theorem Operand.within (h : Operand n e s r) : e.Within (2 * n + 1) := by
  induction n generalizing e s r with
  | zero => exact Word.within h
  | succ n ih =>
    cases h with
    | word h => exact h.within.mono (Nat.le_add_left 1 _)
    | neg h =>
      refine Expr.within_succ fun d hd => ?_
      obtain rfl := List.mem_singleton.mp hd
      exact (ih h).mono (Nat.le_succ _)
    | group _ h => exact h.within ih

theorem Written.within (h : Written n e s) : e.Within (2 * n + 3) := by
  obtain ⟨t, u, -, h, -⟩ := h
  exact h.within Operand.within

/-! ## What the parser returns -/

section

variable {size d : Nat}

theorem within_of_parseUnary {r : Shorter s} (h : parseUnary size d s = .ok (e, r))
    (hd : d ≤ maxNesting) : e.Within (2 * maxNesting + 3) := by
  have hoperand : Operand (maxNesting - d) e s r.1 :=
    (gives_parseUnary_iff (Nat.add_sub_cancel' hd)).mp (gives_of_eq h)
  exact hoperand.within.mono (by omega)

theorem within_of_parseAll {r : Shorter s} (h : parseAll size d s = .ok (e, r))
    (hd : d ≤ maxNesting) : e.Within (2 * maxNesting + 3) := by
  obtain ⟨t, hconj, -⟩ := (gives_parseAll_iff fun s e r =>
    gives_parseUnary_iff (Nat.add_sub_cancel' hd)).mp (gives_of_eq h)
  exact (Conjunction.within Operand.within hconj).mono (by omega)

theorem within_of_parseAny {r : Shorter s} (h : parseAny size d s = .ok (e, r))
    (hd : d ≤ maxNesting) : e.Within (2 * maxNesting + 3) := by
  obtain ⟨t, hdisj, -⟩ := (gives_parseAny_iff fun s e r =>
    gives_parseUnary_iff (Nat.add_sub_cancel' hd)).mp (gives_of_eq h)
  exact (hdisj.within Operand.within).mono (by omega)

end

/-! ## The bound is attained -/

/-- An operand in a conjunction in a disjunction. -/
theorem Operand.deepen (h : Operand n e s " a + a".toList) :
    Written n (.any [.all [e, .tag "a"], .tag "a"]) s := by
  have ha : ∀ {x}, Follows x → Operand n (.tag "a") ('a' :: x) x := fun hx =>
    (word_tag (by decide) hx).operand n
  have hblank : ∀ s, Spaces (' ' :: s) s := fun s => (Spaces.refl s).cons (by decide)
  have hlast : Operand n (.tag "a") "a".toList [] := ha follows_nil
  have hsecond : Operand n (.tag "a") "a + a".toList " + a".toList :=
    ha (follows_blank (by decide) (by decide) " a".toList)
  have hplus : Plus " + a".toList "a".toList := ⟨" a".toList, hblank _, hblank _⟩
  exact ⟨s, [], .refl s, ⟨_, rfl, .cons ⟨_, rfl, .cons h (hblank _) (.one hsecond)⟩ hplus
    (.one ⟨_, rfl, .one hlast⟩)⟩, .refl []⟩

/-- The longest paths have as many nodes as `Written.within` allows. -/
theorem exists_written_path (n : Nat) :
    ∃ e s p, Written n e s ∧ e.Path p ∧ p.length = 2 * n + 3 := by
  have hpath : ∀ {e p}, e.Path p → Expr.Path (.any [.all [e, .tag "a"], .tag "a"])
      (.any [.all [e, .tag "a"], .tag "a"] :: .all [e, .tag "a"] :: p) := fun h =>
    .step List.mem_cons_self (.step List.mem_cons_self h)
  induction n with
  | zero =>
    have ha : Operand 0 (.tag "a") "a a + a".toList " a + a".toList :=
      word_tag (l := "a") (by decide) (follows_blank (by decide) (by decide) " + a".toList)
    exact ⟨_, _, _, ha.deepen, hpath (.leaf rfl), rfl⟩
  | succ n ih =>
    obtain ⟨e, s, p, h, hp, hlength⟩ := ih
    refine ⟨_, _, _, (h.group " a + a".toList).deepen, hpath hp, ?_⟩
    rw [List.length_cons, List.length_cons, hlength]
    omega

/-- The parser returns trees with such a path. -/
theorem exists_parse_path :
    ∃ text e p, parse text = .ok e ∧ e.Path p ∧ p.length = 2 * maxNesting + 3 := by
  obtain ⟨e, s, p, h, hp, hlength⟩ := exists_written_path maxNesting
  exact ⟨String.ofList s, e, p, parse_eq_ok_iff.mpr (String.toList_ofList.symm ▸ h), hp, hlength⟩

end Gallery.Query
