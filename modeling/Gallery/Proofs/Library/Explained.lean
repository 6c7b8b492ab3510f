import Gallery.Proofs.Library.Answer
import Gallery.Proofs.Query.Leaves
import Gallery.Proofs.Query.Substitution

/-!
# `Gallery.Proofs.Library.Explained` — the query that stands in for another stands for itself

A library explains a query by printing what it answers in its place: the query with compound tags
expanded and simplified.  What is printed is a query again.  Its labels are those of plain tags, so
expanding leaves it; it is reduced, so simplifying leaves it; and no connective stands under one of its
kind, so nothing of it is lost in print.

## Contents
- `Snapshot.compile_spec`, what is compiled; `Snapshot.parse_toString_iff` and
  `Snapshot.compile_of_normal`, reading it in print and compiling it again.
- The result: `Library.explain_fixed`.
-/

namespace Gallery

open Query

/-! ## Compiling -/

namespace Snapshot

variable {s : Snapshot} {text : String} {e : Expr} {compiled : Compiled}

theorem compile_eq_ok_iff :
    (s.compile false text .empty).1 = .ok compiled ↔
      ∃ e r, parse text = .ok e ∧ resolve s.catalog e = .ok r
        ∧ compiled = ⟨r.expr.simplify, appendNew r.warnings (missingReferences s.index r.expr)⟩ := by
  unfold compile resolve
  cases parse text with
  | error err => simp
  | ok e =>
    rcases hrun : resolveWith s.catalog false e .empty with ⟨err | r, k⟩
    · simp [hrun]
    · simp [hrun, eq_comm]

/-- What is compiled is normal, its labels are those of plain tags, and all its leaves stand in
texts. -/
theorem compile_spec (h : (s.compile false text .empty).1 = .ok compiled) :
    compiled.expr.IsNormal
      ∧ compiled.expr.Leaves (fun l => isValidLabel l = true ∧ s.catalog.meaning l = .plain)
          Metatag.Readable := by
  obtain ⟨e, r, hparse, hresolve, rfl⟩ := compile_eq_ok_iff.mp h
  have hleaves := (parse_eq_ok_iff.mp hparse).readable.1.leaves
  exact ⟨Expr.isNormal_simplify r.expr, Expr.leaves_simplify ((resolve_eq_ok hresolve).leaves hleaves)⟩

/-- The text of a reduced query is read as this query if it does not nest too deep. -/
theorem parse_toString_iff (h : e.Reduced)
    (hl : e.Leaves (isValidLabel · = true) Metatag.Readable) :
    parse (toString e) = .ok e ↔ e.nesting ≤ maxNesting := by
  rw [parse_eq_ok_iff, toList_toString]
  constructor
  · exact fun h => h.readable.2
  · intro hn
    have hwritten := (h.readable hl).written hn
    rwa [h.isFlat.flat_eq] at hwritten

/-- A normal query over plain tags is compiled to itself, and no label is unknown. -/
theorem compile_of_normal (hparse : parse text = .ok e) (he : e.IsNormal)
    (hplain : ∀ l ∈ e.occurrences, s.catalog.meaning l = .plain) :
    ∃ warnings, (s.compile false text .empty).1 = .ok ⟨e, warnings⟩
      ∧ ∀ l, .unknownTag l ∉ warnings := by
  refine ⟨appendNew [] (missingReferences s.index e), ?_, fun l hl => ?_⟩
  · refine compile_eq_ok_iff.mpr ⟨e, _, hparse, resolve_of_plain hplain, ?_⟩
    rw [Expr.simplify_of_isNormal he]
  · rcases mem_appendNew.mp hl with hl | hl
    · exact absurd hl List.not_mem_nil
    · obtain ⟨m, -, hm⟩ := List.mem_map.mp hl
      cases hm

end Snapshot

/-! ## Explaining -/

namespace Library

variable {lib : Library} {text : String}

theorem explain_fst (lib : Library) (text : String) :
    (lib.explain text).1 = (lib.compile text).1.map fun c => toString c.expr := by
  unfold explain
  rcases lib.compile text with ⟨err | c, lib'⟩ <;> rfl

/-- The images of an answer depend on the query that is compiled only. -/
theorem query_images {compiled : Compiled} (h : (lib.compile text).1 = .ok compiled)
    (tok : CancelToken) :
    (lib.query text tok).1.map (·.images) =
      match evaluate tok lib.snapshot.index lib.similarity compiled.expr with
      | .error .cancelled => .error .cancelled
      | .ok m => .ok (present lib.snapshot.index m) := by
  rcases hrun : lib.snapshot.compile true text lib.cache with ⟨result, k⟩
  obtain rfl : result = .ok compiled := by
    rw [compile, compileOn, hrun] at h
    exact h
  simp only [query, compile, compileOn, hrun]
  cases evaluate tok lib.snapshot.index lib.similarity compiled.expr <;> rfl

/-- **What a library explains is a query that it explains by itself.**  After any steps, let `s` be the
explanation of a text and no constant.  It is the text of a query, which is read back if at most
`maxNesting` minus signs and parentheses are open in it at once, and then it is compiled to the same
query as the text, without unknown labels; it is its own explanation; and it has the same images, with
the same scores and in the same order, whether the query is cancelled or not. -/
theorem explain_fixed (hstart : lib.Started) (steps : List Step) (text s : String)
    (hexplain : ((History.run lib steps).library.explain text).1 = .ok s)
    (hnothing : s ≠ toString Expr.nothing) (heverything : s ≠ toString Expr.everything) :
    ∃ compiled, ((History.run lib steps).library.compile text).1 = .ok compiled
      ∧ s = toString compiled.expr
      ∧ (parse s = .ok compiled.expr ↔ compiled.expr.nesting ≤ maxNesting)
      ∧ (compiled.expr.nesting ≤ maxNesting →
          ∃ warnings, ((History.run lib steps).library.compile s).1 = .ok ⟨compiled.expr, warnings⟩
            ∧ (∀ l, .unknownTag l ∉ warnings)
            ∧ ((History.run lib steps).library.explain s).1 = .ok s
            ∧ ∀ tok, ((History.run lib steps).library.query s tok).1.map (·.images)
                = ((History.run lib steps).library.query text tok).1.map (·.images)) := by
  have hh := consistent_run hstart steps
  have huncached : ∀ t, ((History.run lib steps).library.compile t).1
      = ((History.run lib steps).library.snapshot.compile false t .empty).1 := fun t =>
    (Snapshot.compile_eq (hh.sound _ hh.current) t).1
  rw [explain_fst] at hexplain
  cases hcompile : ((History.run lib steps).library.compile text).1 with
  | error err =>
    rw [hcompile] at hexplain
    cases hexplain
  | ok compiled =>
    rw [hcompile] at hexplain
    obtain rfl : toString compiled.expr = s := Except.ok.inj hexplain
    obtain ⟨hnormal, hleaves⟩ := Snapshot.compile_spec ((huncached text).symm.trans hcompile)
    have hreduced : compiled.expr.Reduced := by
      rcases hnormal with hconst | hconst | hreduced
      · exact absurd (congrArg toString hconst) hnothing
      · exact absurd (congrArg toString hconst) heverything
      · exact hreduced
    have hiff := Snapshot.parse_toString_iff hreduced
      ⟨fun l hl => (hleaves.labels l hl).1, hleaves.metatags⟩
    refine ⟨compiled, rfl, rfl, hiff, fun hn => ?_⟩
    obtain ⟨warnings, hagain, hknown⟩ := Snapshot.compile_of_normal (hiff.mpr hn) hnormal
      fun l hl => (hleaves.labels l hl).2
    rw [← huncached] at hagain
    refine ⟨warnings, hagain, hknown, ?_, fun tok => ?_⟩
    · rw [explain_fst, hagain]
      rfl
    · rw [query_images hagain, query_images hcompile]

/-- A text with a compound and an unknown label, and its explanation, which has neither. -/
theorem explain_fixed_tagging :
    ((History.run {} tagging).library.explain "-(warm blue) -fire").1 = .ok "-red + -blue"
      ∧ parse "-red + -blue" = .ok (.any [.neg (.tag "red"), .neg (.tag "blue")])
      ∧ ((History.run {} tagging).library.explain "-red + -blue").1 = .ok "-red + -blue" := by
  have hcompile : ((History.run {} tagging).library.compile "-(warm blue) -fire").1
      = .ok ⟨.any [.neg (.tag "red"), .neg (.tag "blue")], [.unknownTag "fire"]⟩ := by
    decide +kernel
  have htext : toString (Expr.any [.neg (.tag "red"), .neg (.tag "blue")]) = "-red + -blue" := by
    refine congrArg String.ofList (?_ : Expr.render _ = "-red + -blue".toList)
    simp [Expr.render, Expr.renderAny]
  have hnothing : toString Expr.nothing = "<nothing>" :=
    congrArg String.ofList (by rw [Expr.render] : Expr.render _ = "<nothing>".toList)
  have heverything : toString Expr.everything = "<everything>" :=
    congrArg String.ofList (by rw [Expr.render] : Expr.render _ = "<everything>".toList)
  have hexplain : ((History.run {} tagging).library.explain "-(warm blue) -fire").1
      = .ok "-red + -blue" := by
    rw [explain_fst, hcompile]
    exact congrArg Except.ok htext
  obtain ⟨compiled, hcompiled, -, hiff, hfixed⟩ := explain_fixed (.empty default) tagging
    "-(warm blue) -fire" "-red + -blue" hexplain (by rw [hnothing]; decide)
    (by rw [heverything]; decide)
  obtain rfl := Except.ok.inj (hcompiled.symm.trans hcompile)
  have hn : (Expr.any [.neg (.tag "red"), .neg (.tag "blue")]).nesting ≤ maxNesting := by
    simp [Expr.nesting, Expr.nestingAny, Expr.isConnective, Expr.isAll, Expr.isAny, maxNesting]
  obtain ⟨-, -, -, hself, -⟩ := hfixed hn
  exact ⟨hexplain, hiff.mpr hn, hself⟩

end Library

end Gallery
