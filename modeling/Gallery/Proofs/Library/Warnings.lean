import Gallery.Proofs.Library.Explained
import Gallery.Proofs.Query.Substitution
import Mathlib.Data.List.Nodup

/-!
# `Gallery.Proofs.Library.Warnings` — warnings and answers agree

A query is warned about for two reasons.  Resolving it finds the unknown labels; then its comparisons
are looked through for those that have nothing to compare with.  The latter is found out once more,
from the index and in another way, when a comparison is answered.  Both ways find the same, so a
comparison that is warned of has no images, and every other one has a reference.

## Contents
- `Pattern.eq_of_toString_eq`, patterns that are printed alike are the same.
- `referenceFingerprints`, what images are compared with when a comparison is answered;
  `evaluate_of_unreferenced` and `hasReference_eq_false_iff`.
- `Expr.comparisons` and `unreferenced`, the patterns that are warned of; `appendNew_missingReferences`.
- The result: the warnings of a compiled query.
-/

namespace Gallery

open Query

variable {x : Index} {s : Snapshot} {p q : Pattern} {e r : Expr} {us : List String} {text : String}
  {compiled : Compiled}

namespace Query

/-! ## Patterns in print -/

/-- The delimiters tell how a pattern is written, and what stands between them is its text. -/
theorem Pattern.eq_of_toString_eq (hcase : p.ignoreCase = q.ignoreCase)
    (h : toString p = toString q) : p = q := by
  have hrender : p.render = q.render := String.ofList_injective h
  rw [Pattern.render_eq, Pattern.render_eq, List.cons_append, List.cons_append, List.cons.injEq]
    at hrender
  obtain ⟨hdelimiter, hrest⟩ := hrender
  have hkind : p.kind = q.kind := by
    cases hp : p.kind <;> cases hq : q.kind <;> first | rfl | simp_all [PatternKind.delimiter]
  have hsource : p.source = q.source := by
    rw [hdelimiter] at hrest
    exact String.toList_inj.mp (List.append_cancel_right hrest)
  exact Pattern.ext_written hkind hsource hcase

/-! ## References -/

/-- What images are compared with when a comparison is answered. -/
def referenceFingerprints (x : Index) (p : Pattern) : List Fingerprint :=
  (references x p).filterMap (·.fingerprint)

theorem referenceFingerprints_eq_nil_iff :
    referenceFingerprints x p = [] ↔
      ∀ image ∈ x.images.values, p.isMatch image.path = true → image.fingerprint = none := by
  simp only [referenceFingerprints, references, List.filterMap_eq_nil_iff, List.mem_filter, and_imp]

/-- A comparison with nothing to compare with ends before any image is looked at. -/
theorem evaluate_of_unreferenced (h : referenceFingerprints x p = []) (sim : Similarity) :
    evaluate .never x sim (.metatag ⟨.similarTo, p⟩) = .ok .none := by
  have hsimilar : ∀ n, similarTo .never x sim p n = .ok (.none, n + 1) := by
    intro n
    have hempty : ((references x p).filterMap (·.fingerprint)).isEmpty = true :=
      List.isEmpty_iff.mpr h
    unfold similarTo
    rw [if_pos hempty]
    rfl
  have hrun : run .never x sim (.metatag ⟨.similarTo, p⟩) 0 = .ok (.none, 2) := hsimilar 1
  have hplan : plan x.postingSize (.metatag ⟨.similarTo, p⟩) = .metatag ⟨.similarTo, p⟩ := rfl
  rw [evaluate, hplan, hrun]

/-- The warning of a comparison is looked for where its answer is. -/
theorem hasReference_eq_false_iff : x.hasReference p = false ↔ referenceFingerprints x p = [] := by
  rw [referenceFingerprints_eq_nil_iff, Index.hasReference, List.any_eq_false]
  refine forall₂_congr fun image _ => ?_
  cases image.fingerprint <;> simp

/-! ## Comparisons -/

/-- The patterns of a query that images are compared by, from left to right. -/
def Expr.comparisons (e : Expr) : List Pattern :=
  (e.metatags.filter (·.key == .similarTo)).map (·.pattern)

/-- Those of them that give nothing to compare with. -/
def unreferenced (x : Index) (e : Expr) : List Pattern :=
  e.comparisons.filter fun p => (referenceFingerprints x p).isEmpty

theorem Expr.mem_comparisons : p ∈ e.comparisons ↔ ⟨.similarTo, p⟩ ∈ e.metatags := by
  simp only [comparisons, List.mem_map, List.mem_filter, beq_iff_eq]
  constructor
  · rintro ⟨⟨key, pattern⟩, ⟨hm, rfl⟩, rfl⟩
    exact hm
  · exact fun hm => ⟨_, ⟨hm, rfl⟩, rfl⟩

theorem mem_unreferenced :
    p ∈ unreferenced x e ↔ p ∈ e.comparisons ∧ referenceFingerprints x p = [] := by
  rw [unreferenced, List.mem_filter, List.isEmpty_iff]

theorem missingReferences_eq :
    missingReferences x e = (unreferenced x e).map fun p => .noReference (toString p) := by
  have hempty : ∀ p, (referenceFingerprints x p).isEmpty = !x.hasReference p := by
    intro p
    rw [Bool.eq_iff_iff, List.isEmpty_iff, ← hasReference_eq_false_iff, Bool.not_eq_true']
  rw [missingReferences, unreferenced, Expr.comparisons, List.filter_map, List.map_map,
    List.filter_filter]
  congr 1
  refine List.filter_congr fun m _ => ?_
  rw [Function.comp, hempty, Bool.and_comm]

/-- The comparisons of a query that has been read from a text can be told apart in print. -/
theorem eq_of_mem_comparisons {P : String → Prop} (he : e.Leaves P Metatag.Readable)
    (hp : p ∈ e.comparisons) (hq : q ∈ e.comparisons) (h : toString p = toString q) : p = q := by
  have hp' := (he.metatags _ (Expr.mem_comparisons.mp hp)).ignoreCase
  have hq' := (he.metatags _ (Expr.mem_comparisons.mp hq)).ignoreCase
  exact Pattern.eq_of_toString_eq (hp'.trans hq'.symm) h

/-- The warnings of comparisons come after those of labels, among which none of them is. -/
theorem appendNew_missingReferences {P : String → Prop} (he : e.Leaves P Metatag.Readable)
    (ls : List String) :
    appendNew (ls.map .unknownTag) (missingReferences x e)
      = ls.map .unknownTag ++ (distinct (unreferenced x e)).map fun p => .noReference (toString p) := by
  rw [appendNew_eq, missingReferences_eq, distinct_map, List.filter_eq_self.mpr]
  · intro w hw
    obtain ⟨p, -, rfl⟩ := List.mem_map.mp hw
    simp
  · intro p hp q hq hpq
    exact eq_of_mem_comparisons he (mem_unreferenced.mp hp).1 (mem_unreferenced.mp hq).1
      (Warning.noReference.inj hpq)

/-- **A comparison is warned of if and only if it finds no reference.** -/
theorem noReference_mem_iff {P : String → Prop} (he : e.Leaves P Metatag.Readable)
    (hp : p ∈ e.comparisons) (ls : List String) :
    .noReference (toString p) ∈ appendNew (ls.map .unknownTag) (missingReferences x e)
      ↔ referenceFingerprints x p = [] := by
  rw [mem_appendNew, missingReferences_eq, List.mem_map, List.mem_map]
  constructor
  · rintro (⟨l, -, hl⟩ | ⟨q, hq, hpq⟩)
    · cases hl
    · obtain ⟨hq, hnil⟩ := mem_unreferenced.mp hq
      obtain rfl := eq_of_mem_comparisons he hq hp (Warning.noReference.inj hpq)
      exact hnil
  · exact fun hnil => .inr ⟨p, mem_unreferenced.mpr ⟨hp, hnil⟩, rfl⟩

end Query

/-! ## Compiling -/

/-- What a text is compiled to, with its resolved query and the unknown labels that are met. -/
theorem Snapshot.of_compile (h : (s.compile false text .empty).1 = .ok compiled) :
    ∃ e r us, parse text = .ok e ∧ resolve s.catalog e = .ok ⟨r, (distinct us).map .unknownTag⟩
      ∧ Misses s.catalog e.occurrences us ∧ r.Leaves (fun _ => True) Metatag.Readable
      ∧ compiled = ⟨r.simplify,
          appendNew ((distinct us).map .unknownTag) (missingReferences s.index r)⟩ := by
  obtain ⟨e, ⟨r, warnings⟩, hparse, hresolve, hcompiled⟩ := compile_eq_ok_iff.mp h
  obtain ⟨hexpands, us, hus, hwarnings⟩ := resolve_eq_ok_iff.mp hresolve
  obtain rfl : warnings = (distinct us).map .unknownTag := hwarnings
  have hleaves := hexpands.leaves (parse_eq_ok_iff.mp hparse).readable.1.leaves
  exact ⟨e, r, us, hparse, hresolve, hus, ⟨fun _ _ => trivial, hleaves.metatags⟩, hcompiled⟩

namespace Library

variable {lib : Library}

/-- **Warnings and answers agree.**  After any steps, let a text be compiled on the current snapshot or
an earlier one.  It is warned of the unknown labels that resolving meets, and then of the comparisons
of the resolved query that find no reference, from left to right and each once.  A comparison is warned
of if and only if its answer finds no fingerprint to compare with, and then it has no images; without
a warning some image with a fingerprint matches its pattern.  The comparisons that are answered in
the end are some of these. -/
theorem compileOn_warnings (hstart : lib.Started) (steps : List Step) (s : Snapshot)
    (hs : s ∈ (History.run lib steps).snapshots) (text : String) (compiled : Compiled)
    (h : ((History.run lib steps).library.compileOn s text).1 = .ok compiled) :
    ∃ e r us, parse text = .ok e ∧ resolve s.catalog e = .ok ⟨r, (distinct us).map .unknownTag⟩
      ∧ Misses s.catalog e.occurrences us
      ∧ compiled.warnings = (distinct us).map .unknownTag
          ++ (distinct (unreferenced s.index r)).map (fun p => .noReference (toString p))
      ∧ compiled.warnings.Nodup
      ∧ (∀ p ∈ r.comparisons,
          (.noReference (toString p) ∈ compiled.warnings ↔ referenceFingerprints s.index p = [])
          ∧ (referenceFingerprints s.index p = [] →
              ∀ sim, evaluate .never s.index sim (.metatag ⟨.similarTo, p⟩) = .ok .none)
          ∧ (.noReference (toString p) ∉ compiled.warnings →
              ∃ image ∈ s.index.images.values,
                p.isMatch image.path = true ∧ image.fingerprint ≠ none))
      ∧ compiled.expr = r.simplify ∧ ∀ p ∈ compiled.expr.comparisons, p ∈ r.comparisons := by
  have huncached := (Snapshot.compile_eq ((consistent_run hstart steps).sound s hs) text).1
  obtain ⟨e, r, us, hparse, hresolve, hus, hleaves, rfl⟩ :=
    Snapshot.of_compile (huncached.symm.trans h)
  refine ⟨e, r, us, hparse, hresolve, hus, appendNew_missingReferences hleaves _,
    nodup_appendNew ?_ _, fun p hp => ?_, rfl, fun p hp => ?_⟩
  · exact (nodup_distinct us).map_on fun _ _ _ _ => Warning.unknownTag.inj
  · have hwarned := noReference_mem_iff (x := s.index) hleaves hp (distinct us)
    refine ⟨hwarned, evaluate_of_unreferenced, fun hnot => ?_⟩
    have hne := mt hwarned.mpr hnot
    rw [referenceFingerprints_eq_nil_iff] at hne
    simpa only [not_forall, exists_prop] using hne
  · have hmetatags : r.simplify.Leaves (fun _ => True) (· ∈ r.metatags) :=
      Expr.leaves_simplify ⟨fun _ _ => trivial, fun _ hm => hm⟩
    exact Expr.mem_comparisons.mpr (hmetatags.metatags _ (Expr.mem_comparisons.mp hp))

/-- One image with a fingerprint and one without; a compound tag compares with both and mentions a
label that no tag has. -/
def comparing : List Step :=
  [.change (.registerImage "a.jpg" (some 0)), .change (.registerImage "b.jpg" none),
    .change (.createTag "red" none none),
    .change (.createTag "near" none (some "similar_to:a.jpg + similar_to:b.jpg + blue")),
    .query "near" .never]

/-- Two unknown labels are warned of, and of three patterns the two that match no image with a
fingerprint; the last of them has no images. -/
theorem compileOn_warnings_comparing :
    ((History.run {} comparing).library.compile "green + near + -similar_to:/c/ + green").1.map
        (·.warnings) = .ok [.unknownTag "green", .unknownTag "blue", .noReference "\"b.jpg\"",
          .noReference "/c/"]
      ∧ ∃ p, toString p = "/c/"
          ∧ evaluate .never (History.run {} comparing).library.snapshot.index default
              (.metatag ⟨.similarTo, p⟩) = .ok .none := by
  have hs : (History.run {} comparing).library.snapshot
      ∈ (History.run {} comparing).snapshots := by decide +kernel
  rw [and_iff_left_of_imp]
  · decide +kernel
  intro hcompile
  generalize hresult : ((History.run {} comparing).library.compile _).1 = result at hcompile
  cases result with
  | error err => cases hcompile
  | ok compiled =>
    have hlist : compiled.warnings = _ := Except.ok.inj hcompile
    obtain ⟨e, r, us, -, -, -, hwarnings, -, hagree, -⟩ :=
      compileOn_warnings (.empty default) comparing _ hs _ compiled hresult
    have hlast : Warning.noReference "/c/" ∈ compiled.warnings := by
      rw [hlist]
      decide
    have hfound := hlast
    rw [hwarnings, List.mem_append, List.mem_map, List.mem_map] at hfound
    rcases hfound with ⟨l, -, hl⟩ | ⟨p, hp, hpc⟩
    · cases hl
    · have hpc' := Warning.noReference.inj hpc
      have hcompare := hagree p (mem_unreferenced.mp (mem_distinct.mp hp)).1
      rw [hpc'] at hcompare
      exact ⟨p, hpc', hcompare.2.1 (hcompare.1.mp hlast) default⟩

end Library

end Gallery
