import Gallery.Proofs.Distinct
import Gallery.Proofs.Query.Satisfaction
import Mathlib.Logic.Relation

/-!
# `Gallery.Proofs.Query.Expansion` — what resolving does without a cache

Whether a label can be expanded, and to what, is decided by the labels that it leads to.  The stack
of labels that are being expanded has no influence as long as none of them is met again, and neither
have labels that are not reached.

## Contents
- `Meaning`, what a label stands for in a catalog, and `Refers`, from a compound label to the labels
  of its definition; `Resolvable`, nothing that a label leads to is malformed or leads back.
- `expandTag_eq` and one more equation for each way in which an expansion goes.
- `Expands`, the replacement of labels as a relation; `Yields` and `yields_expandTag`, what is known
  after a success, and `Settles` and `settles_expandTag`, when there is a success.
- `Traced`, what an expansion leaves in the trace, shown for one label after the other;
  `Traced.relates_expandTag`.
- `Compositional`, the relations by which two expansions can be compared side by side;
  `expandTag_congr`, when two expansions are the same.
-/

namespace Gallery

open Relation (TransGen ReflTransGen)

/-! ## What labels stand for -/

/-- What a label stands for. -/
inductive Meaning where
  | unknown
  | plain
  | compound (definition : String)
  deriving DecidableEq

/-- What a label stands for in a catalog. -/
def Catalog.meaning (c : Catalog) (label : String) : Meaning :=
  match c.tag? label with
  | none => .unknown
  | some t =>
    match t.definition with
    | none => .plain
    | some definition => .compound definition

variable {c : Catalog} {l m : String} {definition : String}

namespace Query

open Resolving

/-- A compound label refers to the labels of its definition. -/
def Refers (c : Catalog) (l m : String) : Prop :=
  ∃ definition p, c.meaning l = .compound definition ∧ parse definition = .ok p ∧ m ∈ p.occurrences

/-- What a label refers to occurs in its definition. -/
theorem Refers.mem_occurrences {p : Expr} (h : Refers c l m)
    (hl : c.meaning l = .compound definition) (hp : parse definition = .ok p) :
    m ∈ p.occurrences := by
  obtain ⟨definition', p', hl', hp', hmem⟩ := h
  obtain rfl := Meaning.compound.inj (hl.symm.trans hl')
  obtain rfl := Except.ok.inj (hp.symm.trans hp')
  exact hmem

/-- A label leads to itself and to what it refers to, directly or not. -/
abbrev LeadsTo (c : Catalog) : String → String → Prop := ReflTransGen (Refers c)

/-- A label depends on what it refers to, directly or not. -/
abbrev DependsOn (c : Catalog) : String → String → Prop := TransGen (Refers c)

/-- What depends on a label depends on what the label refers to, and so does the label itself. -/
theorem dependsOn_push {stack : List String} (hs : ∀ s ∈ stack, DependsOn c s l)
    (hstep : Refers c l m) : ∀ s ∈ stack ++ [l], DependsOn c s m := by
  intro s hmem
  rcases List.mem_append.mp hmem with hmem | hmem
  · exact (hs s hmem).tail hstep
  · exact List.mem_singleton.mp hmem ▸ .single hstep

theorem eq_of_leadsTo (hl : ∀ definition, c.meaning l ≠ .compound definition)
    (h : LeadsTo c l m) : l = m := by
  rcases h.cases_head with h | ⟨n, ⟨definition, p, hd, -⟩, -⟩
  · exact h
  · exact absurd hd (hl definition)

/-- All definitions that a label leads to are queries, and following them comes to an end. -/
inductive Resolvable (c : Catalog) : String → Prop
  | leaf {l : String} (hl : ∀ definition, c.meaning l ≠ .compound definition) : Resolvable c l
  | compound {l definition : String} {p : Expr} (hl : c.meaning l = .compound definition)
      (hp : parse definition = .ok p) (hm : ∀ m ∈ p.occurrences, Resolvable c m) : Resolvable c l

/-- What can be resolved does not depend on itself. -/
theorem Resolvable.not_dependsOn_self (h : Resolvable c l) : ¬DependsOn c l l := by
  induction h with
  | leaf hl =>
    intro hdep
    obtain ⟨m, ⟨definition, p, hd, -⟩, -⟩ := TransGen.head'_iff.mp hdep
    exact hl definition hd
  | @compound l definition p hl hp hm ih =>
    intro hdep
    obtain ⟨m, hstep, hback⟩ := TransGen.head'_iff.mp hdep
    -- The first step is to a label of the definition, and from there the way leads back.
    have hmem : m ∈ p.occurrences := hstep.mem_occurrences hl hp
    exact ih m hmem (TransGen.tail' hback hstep)

theorem Resolvable.of_refers (h : Resolvable c l) (hstep : Refers c l m) : Resolvable c m := by
  cases h with
  | leaf hl =>
    obtain ⟨definition, -, hd, -⟩ := hstep
    exact absurd hd (hl definition)
  | compound hl hp hm => exact hm m (hstep.mem_occurrences hl hp)

/-- What a label leads to can be resolved if the label can. -/
theorem Resolvable.of_leadsTo (h : Resolvable c l) (hm : LeadsTo c l m) : Resolvable c m := by
  induction hm with
  | refl => exact h
  | tail _ hstep ih => exact ih.of_refers hstep

/-! ## The ways of an expansion -/

variable {useCache : Bool} {stack : List String} {k : Cache}

/-- Putting a compound label on the stack leaves fewer labels of the catalog. -/
theorem length_unvisited_push (h : c.meaning l = .compound definition) (hs : l ∉ stack) :
    (unvisited c (stack ++ [l])).length < (unvisited c stack).length := by
  unfold Catalog.meaning at h
  split at h
  · cases h
  · rename_i t ht
    exact length_unvisited_lt ht hs

theorem bind_run {α β : Type} (w : Resolving α) (f : α → Resolving β) (t : Trace) (k : Cache) :
    (w >>= f) t k = match w t k with
      | (.error e, k) => (.error e, k)
      | (.ok (a, t), k) => f a t k := rfl

/-- The expansion of a label goes by what it stands for. -/
theorem expandTag_eq (c : Catalog) (useCache : Bool) (stack : List String) (l : String) :
    expandTag c useCache stack l = (do
      note [l] []
      match c.meaning l with
      | .unknown =>
        note [] [.unknownTag l]
        return .nothing
      | .plain => return .tag l
      | .compound definition =>
        if l ∈ stack then fail (.cyclicDefinition (stack.dropWhile (· != l) ++ [l]))
        else
          match ← cached? useCache l c.version with
          | some x =>
            note x.visited x.warnings
            return x.expr
          | none =>
            match parse definition with
            | .error e => fail (.invalidDefinition l e)
            | .ok p =>
              let (expr, inner) ← isolated (expandWith (expandTag c useCache (stack ++ [l])) p)
              keep useCache l ⟨expr, inner.visited, inner.warnings, c.version⟩
              note inner.visited inner.warnings
              return expr) := by
  rw [expandTag]
  congr 1
  funext _
  unfold Catalog.meaning
  generalize c.tag? l = tag
  cases tag with
  | none => rfl
  | some t =>
    dsimp only
    generalize t.definition = definition
    cases definition with
    | none => rfl
    | some definition =>
      dsimp only
      by_cases hs : l ∈ stack
      · exact (dif_pos hs).trans (if_pos hs).symm
      · exact (dif_neg hs).trans (if_neg hs).symm

theorem expandTag_unknown (h : c.meaning l = .unknown) (t : Trace) (k : Cache) :
    expandTag c useCache stack l t k
      = (.ok (.nothing, (t.merge [l] []).merge [] [.unknownTag l]), k) := by
  rw [expandTag_eq, h]
  rfl

theorem expandTag_plain (h : c.meaning l = .plain) (t : Trace) (k : Cache) :
    expandTag c useCache stack l t k = (.ok (.tag l, t.merge [l] []), k) := by
  rw [expandTag_eq, h]
  rfl

/-- A label that is met again is an error. -/
theorem expandTag_open (h : c.meaning l = .compound definition) (hs : l ∈ stack) (t : Trace)
    (k : Cache) :
    expandTag c useCache stack l t k
      = (.error (.cyclicDefinition (stack.dropWhile (· != l) ++ [l])), k) := by
  rw [expandTag_eq, h]
  simp only [bind_run, note, if_pos hs]
  rfl

/-- An expansion that is in the cache is used. -/
theorem expandTag_cached (h : c.meaning l = .compound definition) (hs : l ∉ stack) (t : Trace)
    {x : Expansion} (hk : k.get? l c.version = some x) :
    expandTag c true stack l t k
      = (.ok (x.expr, (t.merge [l] []).merge x.visited x.warnings), k) := by
  rw [expandTag_eq, h]
  simp only [bind_run, note, if_neg hs, cached?, hk, if_true]
  rfl

/-- The expansion of a definition becomes that of its label. -/
def expandParsed (c : Catalog) (useCache : Bool) (stack : List String) (l : String) (p : Expr) :
    Resolving Expr := fun t k =>
  match expandWith (expandTag c useCache (stack ++ [l])) p {} k with
  | (.error e, k) => (.error e, k)
  | (.ok (r, inner), k) =>
    (.ok (r, (t.merge [l] []).merge inner.visited inner.warnings),
      if useCache then k.insert l ⟨r, inner.visited, inner.warnings, c.version⟩ else k)

/-- An expansion that is not in the cache is computed. -/
theorem expandTag_computed (h : c.meaning l = .compound definition) (hs : l ∉ stack) (t : Trace)
    (hk : useCache = true → k.get? l c.version = none) :
    expandTag c useCache stack l t k = match parse definition with
      | .error e => (.error (.invalidDefinition l e), k)
      | .ok p => expandParsed c useCache stack l p t k := by
  have hk' : (if useCache then k.get? l c.version else none) = none := by
    cases useCache with
    | false => rfl
    | true => exact hk rfl
  rw [expandTag_eq, h]
  simp only [bind_run, note, if_neg hs, cached?, hk']
  cases parse definition with
  | error e => rfl
  | ok p =>
    simp only [bind_run, isolated, expandParsed]
    rcases expandWith (expandTag c useCache (stack ++ [l])) p {} k with ⟨_ | ⟨r, inner⟩, k'⟩
    · rfl
    · rfl

theorem expandTag_uncached (h : c.meaning l = .compound definition) (hs : l ∉ stack) (t : Trace)
    (k : Cache) :
    expandTag c false stack l t k = match parse definition with
      | .error e => (.error (.invalidDefinition l e), k)
      | .ok p => expandParsed c false stack l p t k :=
  expandTag_computed h hs t Bool.noConfusion

/-! ## Expansion as a relation -/

/-- Replacing each label of a query by what it stands for gives another query. -/
inductive Expands (c : Catalog) : Expr → Expr → Prop
  | nothing : Expands c .nothing .nothing
  | everything : Expands c .everything .everything
  | metatag (m : Metatag) : Expands c (.metatag m) (.metatag m)
  | unknown {l : String} (hl : c.meaning l = .unknown) : Expands c (.tag l) .nothing
  | plain {l : String} (hl : c.meaning l = .plain) : Expands c (.tag l) (.tag l)
  | compound {l definition : String} {p r : Expr} (hl : c.meaning l = .compound definition)
      (hp : parse definition = .ok p) (hr : Expands c p r) : Expands c (.tag l) r
  | neg {e r : Expr} (h : Expands c e r) : Expands c (.neg e) (.neg r)
  | allNil : Expands c (.all []) (.all [])
  | allCons {e r : Expr} {es rs : List Expr} (h : Expands c e r)
      (hs : Expands c (.all es) (.all rs)) : Expands c (.all (e :: es)) (.all (r :: rs))
  | anyNil : Expands c (.any []) (.any [])
  | anyCons {e r : Expr} {es rs : List Expr} (h : Expands c e r)
      (hs : Expands c (.any es) (.any rs)) : Expands c (.any (e :: es)) (.any (r :: rs))

theorem mem_occurrencesList {es : List Expr} :
    l ∈ Expr.occurrencesList es ↔ ∃ e ∈ es, l ∈ e.occurrences := by
  induction es with
  | nil => simp [Expr.occurrencesList]
  | cons e es ih => simp [Expr.occurrencesList, ih]

/-- The labels of a query that has an expansion can be resolved. -/
theorem Expands.resolvable {e r : Expr} (h : Expands c e r) :
    ∀ l ∈ e.occurrences, Resolvable c l := by
  induction h with
  | nothing | everything | metatag | allNil | anyNil => exact fun l hl => absurd hl List.not_mem_nil
  | unknown hl =>
    intro l hmem
    obtain rfl := List.mem_singleton.mp hmem
    exact .leaf fun definition hd => Meaning.noConfusion (hl.symm.trans hd)
  | plain hl =>
    intro l hmem
    obtain rfl := List.mem_singleton.mp hmem
    exact .leaf fun definition hd => Meaning.noConfusion (hl.symm.trans hd)
  | compound hl hp _ ih =>
    intro l hmem
    obtain rfl := List.mem_singleton.mp hmem
    exact .compound hl hp ih
  | neg _ ih => exact ih
  | allCons _ _ ih ihs => exact fun l hl => (List.mem_append.mp hl).elim (ih l) (ihs l)
  | anyCons _ _ ih ihs => exact fun l hl => (List.mem_append.mp hl).elim (ih l) (ihs l)

/-! ## After a success -/

/-- The result of a computation that succeeds has the property, and the labels that it notes are
among those it has visited in the end. -/
def Yields {α : Type} (w : Resolving α) (P : α → Prop) (noted : String → Prop) : Prop :=
  ∀ t k a t' k', w t k = (.ok (a, t'), k') →
    P a ∧ (∀ l ∈ t.visited, l ∈ t'.visited) ∧ ∀ l, noted l → l ∈ t'.visited

section

variable {α β : Type} {w : Resolving α} {P : α → Prop} {Q : β → Prop} {noted noted' : String → Prop}

theorem yields_pure {a : α} (h : P a) : Yields (pure a) P fun _ => False := by
  rintro t k a t' k' hrun
  cases hrun
  exact ⟨h, fun _ hl => hl, fun _ hl => hl.elim⟩

theorem yields_bind {f : α → Resolving β} (hw : Yields w P noted)
    (hf : ∀ a, P a → Yields (f a) Q noted') :
    Yields (w >>= f) Q fun l => noted l ∨ noted' l := by
  intro t k b t' k' hrun
  rw [bind_run] at hrun
  split at hrun
  · cases hrun
  · rename_i a t₁ k₁ hwrun
    obtain ⟨ha, hkeep, hnoted⟩ := hw t k a t₁ k₁ hwrun
    obtain ⟨hb, hkeep', hnoted'⟩ := hf a ha t₁ k₁ b t' k' hrun
    refine ⟨hb, fun l hl => hkeep' l (hkeep l hl), ?_⟩
    rintro l (hl | hl)
    · exact hkeep' l (hnoted l hl)
    · exact hnoted' l hl

theorem Yields.imp {P' : α → Prop} (h : Yields w P noted) (hP : ∀ a, P a → P' a)
    (hnoted : ∀ l, noted' l → noted l) : Yields w P' noted' := by
  intro t k a t' k' hrun
  obtain ⟨ha, hkeep, hall⟩ := h t k a t' k' hrun
  exact ⟨hP a ha, hkeep, fun l hl => hall l (hnoted l hl)⟩

end

theorem yields_expandEach {f : String → Resolving Expr} {noted : String → String → Prop}
    {es : List Expr} (hes : ∀ e ∈ es, Yields (expandWith f e) (Expands c e)
      fun m => ∃ l ∈ e.occurrences, noted l m) :
    Yields (expandEach f es)
      (fun rs => Expands c (.all es) (.all rs) ∧ Expands c (.any es) (.any rs))
      fun m => ∃ l ∈ Expr.occurrencesList es, noted l m := by
  induction es with
  | nil =>
    refine (yields_pure ⟨.allNil, .anyNil⟩).imp (fun _ h => h) ?_
    rintro m ⟨l, hl, -⟩
    exact List.not_mem_nil hl
  | cons e es ih =>
    have hes' := List.forall_mem_cons.mp hes
    unfold expandEach
    refine (yields_bind hes'.1 fun r hr => yields_bind (ih hes'.2) fun rs hrs =>
      yields_pure ⟨.allCons hr hrs.1, .anyCons hr hrs.2⟩).imp (fun _ h => h) ?_
    rintro m ⟨l, hl, hnoted⟩
    rcases List.mem_append.mp hl with hl | hl
    · exact .inl ⟨l, hl, hnoted⟩
    · exact .inr (.inl ⟨l, hl, hnoted⟩)

theorem yields_expandWith {f : String → Resolving Expr} {noted : String → String → Prop} {e : Expr}
    (hf : ∀ l ∈ e.occurrences, Yields (f l) (Expands c (.tag l)) (noted l)) :
    Yields (expandWith f e) (Expands c e) fun m => ∃ l ∈ e.occurrences, noted l m := by
  have hleaf : ∀ {d : Expr}, d.occurrences = [] → Expands c d d →
      Yields (pure d) (Expands c d) fun m => ∃ l ∈ d.occurrences, noted l m := by
    intro d hd hdd
    refine (yields_pure hdd).imp (fun _ h => h) ?_
    rintro m ⟨l, hl, -⟩
    exact List.not_mem_nil (hd ▸ hl)
  induction e using Expr.induction with
  | nothing => exact hleaf rfl .nothing
  | everything => exact hleaf rfl .everything
  | metatag m => exact hleaf rfl (.metatag m)
  | tag l =>
    refine (hf l List.mem_cons_self).imp (fun _ h => h) ?_
    rintro m ⟨l', hl', hnoted⟩
    exact List.mem_singleton.mp hl' ▸ hnoted
  | neg e ih =>
    exact (yields_bind (ih hf) fun r hr => yields_pure (.neg hr)).imp (fun _ h => h) fun _ => .inl
  | all es ih =>
    have hes : ∀ e ∈ es, _ := fun e he =>
      ih e he fun l hl => hf l (mem_occurrencesList.mpr ⟨e, he, hl⟩)
    exact (yields_bind (yields_expandEach hes) fun rs hrs => yields_pure hrs.1).imp
      (fun _ h => h) fun _ => .inl
  | any es ih =>
    have hes : ∀ e ∈ es, _ := fun e he =>
      ih e he fun l hl => hf l (mem_occurrencesList.mpr ⟨e, he, hl⟩)
    exact (yields_bind (yields_expandEach hes) fun rs hrs => yields_pure hrs.2).imp
      (fun _ h => h) fun _ => .inl

/-- The labels of a definition are visited together with all that they lead to. -/
theorem yields_expandParsed {p : Expr} (hl : c.meaning l = .compound definition)
    (hp : parse definition = .ok p)
    (hm : ∀ m ∈ p.occurrences,
      Yields (expandTag c useCache (stack ++ [l]) m) (Expands c (.tag m)) (LeadsTo c m)) :
    Yields (expandParsed c useCache stack l p) (Expands c (.tag l)) (LeadsTo c l) := by
  intro t k r t' k' hrun
  unfold expandParsed at hrun
  split at hrun
  · cases hrun
  · rename_i r' inner k₁ hinner
    cases hrun
    obtain ⟨hr, -, hnoted⟩ := yields_expandWith hm {} k _ _ _ hinner
    refine ⟨.compound hl hp hr, fun m hm => ?_, fun m hm => ?_⟩
    · exact mem_appendNew.mpr (.inl (mem_appendNew.mpr (.inl hm)))
    · rcases hm.cases_head with rfl | ⟨n, hstep, hnm⟩
      · exact mem_appendNew.mpr (.inl (mem_appendNew.mpr (.inr List.mem_cons_self)))
      · have hmem : n ∈ p.occurrences := hstep.mem_occurrences hl hp
        exact mem_appendNew.mpr (.inr (hnoted m ⟨n, hmem, hnm⟩))

/-- **After a success, the result is the expansion of the label**, and all labels that it leads to
have been visited. -/
theorem yields_expandTag (c : Catalog) (stack : List String) (l : String) :
    Yields (expandTag c false stack l) (Expands c (.tag l)) (LeadsTo c l) := by
  -- A label that is put on the stack leaves fewer labels of the catalog.
  induction hn : (unvisited c stack).length using Nat.strongRecOn generalizing stack l with
  | ind n ih =>
    intro t k r t' k' hrun
    cases hl : c.meaning l with
    | unknown =>
      rw [expandTag_unknown hl] at hrun
      cases hrun
      refine ⟨.unknown hl, fun m hm => ?_, fun m hm => ?_⟩
      · exact mem_appendNew.mpr (.inl (mem_appendNew.mpr (.inl hm)))
      · obtain rfl := eq_of_leadsTo (fun d hd => Meaning.noConfusion (hl.symm.trans hd)) hm
        exact mem_appendNew.mpr (.inl (mem_appendNew.mpr (.inr List.mem_cons_self)))
    | plain =>
      rw [expandTag_plain hl] at hrun
      cases hrun
      refine ⟨.plain hl, fun m hm => mem_appendNew.mpr (.inl hm), fun m hm => ?_⟩
      obtain rfl := eq_of_leadsTo (fun d hd => Meaning.noConfusion (hl.symm.trans hd)) hm
      exact mem_appendNew.mpr (.inr List.mem_cons_self)
    | compound definition =>
      by_cases hs : l ∈ stack
      · rw [expandTag_open hl hs] at hrun
        cases hrun
      · rw [expandTag_uncached hl hs] at hrun
        split at hrun
        · cases hrun
        · rename_i p hp
          have hchildren := fun m (_ : m ∈ p.occurrences) =>
            ih _ (hn ▸ length_unvisited_push hl hs) (stack ++ [l]) m rfl
          exact yields_expandParsed hl hp hchildren t k r t' k' hrun

/-! ## What a success leaves in the trace -/

/-- A relation of labels and two traces that holds whenever the labels are expanded one after the
other and the first trace becomes the second. -/
structure Traced (c : Catalog) (Q : List String → Trace → Trace → Prop) : Prop where
  nil : ∀ t, Q [] t t
  append : ∀ {ls ls' t t₁ t'}, Q ls t t₁ → Q ls' t₁ t' → Q (ls ++ ls') t t'
  unknown : ∀ {l} t, c.meaning l = .unknown →
    Q [l] t ((t.merge [l] []).merge [] [.unknownTag l])
  plain : ∀ {l} t, c.meaning l = .plain → Q [l] t (t.merge [l] [])
  compound : ∀ {l definition p inner} t, c.meaning l = .compound definition →
    parse definition = .ok p → Q p.occurrences {} inner →
    Q [l] t ((t.merge [l] []).merge inner.visited inner.warnings)

/-- The traces before and after a computation that succeeds are related. -/
def Relates {α : Type} (Q : List String → Trace → Trace → Prop) (w : Resolving α)
    (ls : List String) : Prop :=
  ∀ t k a t' k', w t k = (.ok (a, t'), k') → Q ls t t'

section

variable {Q : List String → Trace → Trace → Prop} {f : String → Resolving Expr}

theorem Traced.relates_pure (hQ : Traced c Q) {α : Type} (a : α) : Relates Q (pure a) [] := by
  rintro t k a' t' k' hrun
  cases hrun
  exact hQ.nil t

theorem Traced.relates_bind (hQ : Traced c Q) {α β : Type} {w : Resolving α}
    {f : α → Resolving β} {ls ls' : List String} (hw : Relates Q w ls)
    (hf : ∀ a, Relates Q (f a) ls') : Relates Q (w >>= f) (ls ++ ls') := by
  intro t k b t' k' hrun
  rw [bind_run] at hrun
  split at hrun
  · cases hrun
  · rename_i a t₁ k₁ hwrun
    exact hQ.append (hw t k a t₁ k₁ hwrun) (hf a t₁ k₁ b t' k' hrun)

/-- What is built from a result leaves the same trace. -/
theorem Traced.relates_map (hQ : Traced c Q) {α β : Type} {w : Resolving α} {ls : List String}
    (build : α → β) (hw : Relates Q w ls) : Relates Q (w >>= fun a => pure (build a)) ls := by
  have hbuilt := hQ.relates_bind hw fun a => hQ.relates_pure (build a)
  rwa [List.append_nil] at hbuilt

theorem Traced.relates_expandEach (hQ : Traced c Q) {es : List Expr}
    (hes : ∀ e ∈ es, Relates Q (expandWith f e) e.occurrences) :
    Relates Q (expandEach f es) (Expr.occurrencesList es) := by
  induction es with
  | nil => exact hQ.relates_pure []
  | cons e es ih =>
    obtain ⟨he, hes⟩ := List.forall_mem_cons.mp hes
    exact hQ.relates_bind he fun r => hQ.relates_map (r :: ·) (ih hes)

theorem Traced.relates_expandWith (hQ : Traced c Q) {e : Expr}
    (hf : ∀ l ∈ e.occurrences, Relates Q (f l) [l]) : Relates Q (expandWith f e) e.occurrences := by
  induction e using Expr.induction with
  | nothing | everything | metatag => exact hQ.relates_pure _
  | tag l => exact hf l List.mem_cons_self
  | neg e ih => exact hQ.relates_map Expr.neg (ih hf)
  | all es ih =>
    exact hQ.relates_map Expr.all (hQ.relates_expandEach fun e he =>
      ih e he fun l hl => hf l (mem_occurrencesList.mpr ⟨e, he, hl⟩))
  | any es ih =>
    exact hQ.relates_map Expr.any (hQ.relates_expandEach fun e he =>
      ih e he fun l hl => hf l (mem_occurrencesList.mpr ⟨e, he, hl⟩))

/-- **After a success** the traces are related as expanding the label relates them. -/
theorem Traced.relates_expandTag (hQ : Traced c Q) (stack : List String) (l : String) :
    Relates Q (expandTag c false stack l) [l] := by
  -- A label that is put on the stack leaves fewer labels of the catalog.
  induction hn : (unvisited c stack).length using Nat.strongRecOn generalizing stack l with
  | ind n ih =>
    intro t k r t' k' hrun
    cases hl : c.meaning l with
    | unknown =>
      rw [expandTag_unknown hl] at hrun
      cases hrun
      exact hQ.unknown t hl
    | plain =>
      rw [expandTag_plain hl] at hrun
      cases hrun
      exact hQ.plain t hl
    | compound definition =>
      by_cases hs : l ∈ stack
      · rw [expandTag_open hl hs] at hrun
        cases hrun
      · rw [expandTag_uncached hl hs] at hrun
        split at hrun
        · cases hrun
        · rename_i p hp
          have hchildren := fun m (_ : m ∈ p.occurrences) =>
            ih _ (hn ▸ length_unvisited_push hl hs) (stack ++ [l]) m rfl
          unfold expandParsed at hrun
          split at hrun
          · cases hrun
          · rename_i r' inner k₁ hinner
            cases hrun
            exact hQ.compound t hl hp (hQ.relates_expandWith hchildren {} k _ _ _ hinner)

/-- The same for all labels of a query. -/
theorem Traced.relates_expandTags (hQ : Traced c Q) (stack : List String) (e : Expr) :
    Relates Q (expandWith (expandTag c false stack) e) e.occurrences :=
  hQ.relates_expandWith fun l _ => hQ.relates_expandTag stack l

end

/-! ## Two expansions side by side -/

/-- A relation of computations that holds of a sequence if it holds of its parts. -/
structure Compositional (R : ∀ α : Type, Resolving α → Resolving α → Prop) : Prop where
  of_pure : ∀ {α : Type} (a : α), R α (pure a) (pure a)
  of_bind : ∀ {α β : Type} {w w' : Resolving α} {f f' : α → Resolving β},
    R α w w' → (∀ a, R β (f a) (f' a)) → R β (w >>= f) (w' >>= f')

section

variable {R : ∀ α : Type, Resolving α → Resolving α → Prop} {f f' : String → Resolving Expr}

theorem Compositional.expandEach (hR : Compositional R) {es : List Expr}
    (hes : ∀ e ∈ es, R Expr (expandWith f e) (expandWith f' e)) :
    R (List Expr) (Query.expandEach f es) (Query.expandEach f' es) := by
  induction es with
  | nil => exact hR.of_pure []
  | cons e es ih =>
    have hes' := List.forall_mem_cons.mp hes
    unfold Query.expandEach
    exact hR.of_bind hes'.1 fun _ => hR.of_bind (ih hes'.2) fun _ => hR.of_pure _

/-- Two ways of expanding labels that are related give related expansions of queries. -/
theorem Compositional.expandWith (hR : Compositional R) {e : Expr}
    (hf : ∀ l ∈ e.occurrences, R Expr (f l) (f' l)) :
    R Expr (Query.expandWith f e) (Query.expandWith f' e) := by
  induction e using Expr.induction with
  | nothing | everything | metatag => exact hR.of_pure _
  | tag l => exact hf l List.mem_cons_self
  | neg e ih => exact hR.of_bind (ih hf) fun _ => hR.of_pure _
  | all es ih =>
    refine hR.of_bind (hR.expandEach fun e he => ih e he fun l hl => ?_) fun _ => hR.of_pure _
    exact hf l (mem_occurrencesList.mpr ⟨e, he, hl⟩)
  | any es ih =>
    refine hR.of_bind (hR.expandEach fun e he => ih e he fun l hl => ?_) fun _ => hR.of_pure _
    exact hf l (mem_occurrencesList.mpr ⟨e, he, hl⟩)

end

/-- Only the labels that occur in a query are expanded. -/
theorem expandWith_congr {f g : String → Resolving Expr} {e : Expr}
    (h : ∀ l ∈ e.occurrences, f l = g l) : expandWith f e = expandWith g e := by
  have hR : Compositional fun _ w w' => w = w' := by
    refine ⟨fun _ => rfl, ?_⟩
    rintro α β w _ f f' rfl hf
    rw [funext hf]
  exact hR.expandWith h

/-! ## When there is a success -/

/-- The computation succeeds and leaves the cache alone. -/
def Settles {α : Type} (w : Resolving α) : Prop := ∀ t k, ∃ a t', w t k = (.ok (a, t'), k)

theorem compositional_settles : Compositional fun _ w _ => Settles w where
  of_pure := fun a t _ => ⟨a, t, rfl⟩
  of_bind := by
    intro α β w _ f _ hw hf t k
    obtain ⟨a, t₁, hwrun⟩ := hw t k
    obtain ⟨b, t', hfrun⟩ := hf a t₁ k
    refine ⟨b, t', ?_⟩
    rw [bind_run, hwrun]
    exact hfrun

theorem settles_expandWith {f : String → Resolving Expr} {e : Expr}
    (hf : ∀ l ∈ e.occurrences, Settles (f l)) : Settles (expandWith f e) :=
  @Compositional.expandWith _ f f compositional_settles e hf

/-- No label that `l` leads to is on the stack. -/
def Clear (c : Catalog) (stack : List String) (l : String) : Prop := ∀ m, LeadsTo c l m → m ∉ stack

/-- The stack stays clear while the definition of a label is being expanded, for the labels of the
definition do not lead back to it. -/
theorem Clear.push (h : Clear c stack l) (hstep : Refers c l m) (hr : Resolvable c l) :
    Clear c (stack ++ [l]) m := by
  intro n hn hmem
  rcases List.mem_append.mp hmem with hmem | hmem
  · exact h n (.head hstep hn) hmem
  · obtain rfl := List.mem_singleton.mp hmem
    exact hr.not_dependsOn_self (.head' hstep hn)

/-- **A label that can be resolved is resolved.** -/
theorem settles_expandTag (h : Resolvable c l) (hs : Clear c stack l) :
    Settles (expandTag c false stack l) := by
  induction h generalizing stack with
  | @leaf l hl =>
    intro t k
    cases hm : c.meaning l with
    | unknown => exact ⟨_, _, expandTag_unknown hm t k⟩
    | plain => exact ⟨_, _, expandTag_plain hm t k⟩
    | compound definition => exact absurd hm (hl definition)
  | @compound l definition p hl hp hm ih =>
    intro t k
    have hchildren : ∀ m ∈ p.occurrences, Settles (expandTag c false (stack ++ [l]) m) :=
      fun m hmem => ih m hmem (hs.push ⟨definition, p, hl, hp, hmem⟩ (.compound hl hp hm))
    obtain ⟨r, inner, hinner⟩ := settles_expandWith hchildren {} k
    rw [expandTag_uncached hl (hs l .refl)]
    simp only [hp, expandParsed, hinner]
    exact ⟨_, _, rfl⟩

/-! ## When two expansions are the same -/

/-- **The expansion of a label that can be resolved** does not depend on the stack, and only on what
the labels mean that it leads to. -/
theorem expandTag_congr {d : Catalog} {stack' : List String} (h : Resolvable c l)
    (hcd : ∀ m, LeadsTo c l m → d.meaning m = c.meaning m) (hs : Clear c stack l)
    (hs' : Clear c stack' l) :
    expandTag c false stack l = expandTag d false stack' l := by
  induction h generalizing stack stack' with
  | @leaf l hl =>
    funext t k
    cases hm : c.meaning l with
    | unknown => rw [expandTag_unknown hm, expandTag_unknown ((hcd l .refl).trans hm)]
    | plain => rw [expandTag_plain hm, expandTag_plain ((hcd l .refl).trans hm)]
    | compound definition => exact absurd hm (hl definition)
  | @compound l definition p hl hp hm ih =>
    funext t k
    have hchildren : ∀ m ∈ p.occurrences,
        expandTag c false (stack ++ [l]) m = expandTag d false (stack' ++ [l]) m := by
      intro m hmem
      have hstep : Refers c l m := ⟨definition, p, hl, hp, hmem⟩
      refine ih m hmem (fun n hn => hcd n (.head hstep hn)) ?_ ?_
      · exact hs.push hstep (.compound hl hp hm)
      · exact hs'.push hstep (.compound hl hp hm)
    rw [expandTag_uncached hl (hs l .refl),
      expandTag_uncached ((hcd l .refl).trans hl) (hs' l .refl)]
    simp only [hp, expandParsed, expandWith_congr hchildren]
    rfl

end Query

end Gallery
