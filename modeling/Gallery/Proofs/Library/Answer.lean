import Gallery.Proofs.Library.History
import Gallery.Proofs.Query.Equivalence
import Gallery.Proofs.Query.Ranking
import Gallery.Proofs.Query.Resolution

/-!
# `Gallery.Proofs.Library.Answer` — the answer of a library to a query

A query goes through the parser, the resolver with its cache, the simplifier and the evaluator
before its images are put in order and presented.  Here the stages are joined: the images are those
of which the query as it is written says that they belong to the answer.

## Contents
- `nodup_present` and `mem_present_iff`, presenting loses and repeats no image.
- `Snapshot.compile_grounded`, what becomes of a query that can be resolved; `query_of_sound`, its
  answer.
- The result: the answer after any steps.
-/

namespace Gallery

open Query

/-! ## Presentation -/

namespace Library

variable {x : Index} {m : Matches}

/-- Each image is presented once. -/
theorem nodup_present (x : Index) (m : Matches) : ((present x m).map (·.id)).Nodup := by
  have hsub : ((present x m).map (·.id)).Sublist (m.ranked.map (·.1)) := by
    refine sublist_map_filterMap (fun e a ha => ?_) m.ranked
    obtain ⟨image, -, rfl⟩ := Option.map_eq_some_iff.mp ha
    rfl
  exact hsub.nodup m.nodup_ranked

/-- The images presented are the registered ones of the answer, with their paths. -/
theorem mem_present_iff {id : ImageId} {path : String} :
    (∃ score, ⟨id, path, score⟩ ∈ present x m)
      ↔ m.ids.has id = true ∧ ∃ image, x.images.get? id = some image ∧ image.path = path := by
  have hranked : m.ids.has id = true ↔ ∃ score, (id, score) ∈ m.ranked := by
    simp only [Matches.mem_ranked_iff, exists_and_left, exists_eq', and_true]
  rw [hranked]
  simp only [present, List.mem_filterMap, Option.map_eq_some_iff]
  constructor
  · rintro ⟨score, ⟨id', score'⟩, hmem, image, hg, himage⟩
    obtain ⟨rfl, rfl, rfl⟩ := ScoredImage.mk.inj himage
    exact ⟨⟨_, hmem⟩, image, hg, rfl⟩
  · rintro ⟨⟨score, hmem⟩, image, hg, rfl⟩
    exact ⟨score, (id, score), hmem, image, hg, rfl⟩

/-- Images without scores are presented by number. -/
theorem present_of_unscored (h : ∀ id, m.scores.get? id = none) :
    present x m = m.ids.toList.filterMap fun id =>
      (x.images.get? id).map fun image => ⟨id, image.path, none⟩ := by
  have hscored : m.scored = [] := by
    rw [Matches.scored, List.filterMap_eq_nil_iff]
    intro id _
    rw [h, Option.map_none]
  have hunscored : m.unscored = m.ids.toList := by
    rw [Matches.unscored, List.filter_eq_self]
    intro id _
    rw [Table.contains, h]
    rfl
  rw [present, Matches.ranked, hscored, hunscored, List.mergeSort_nil, List.map_nil,
    List.nil_append, List.filterMap_map]
  rfl

end Library

/-! ## Compiling and answering -/

/-- A query that can be resolved compiles to the simplification of an expansion. -/
theorem Snapshot.compile_grounded {s : Snapshot} {text : String} {e : Expr}
    (hparse : parse text = .ok e) (he : Grounded s.catalog e) :
    ∃ r warnings, Expands s.catalog e r
      ∧ (s.compile false text .empty).1 = .ok ⟨r.simplify, warnings⟩ := by
  obtain ⟨resolved, hresolve⟩ := resolve_ok_iff.mpr he
  refine ⟨resolved.expr, appendNew resolved.warnings (missingReferences s.index resolved.expr),
    resolve_eq_ok hresolve, ?_⟩
  unfold resolve at hresolve
  rcases hrun : resolveWith s.catalog false e .empty with ⟨result, k⟩
  rw [hrun] at hresolve
  obtain rfl : result = .ok resolved := hresolve
  simp only [compile, hparse, hrun]

namespace Library

variable {lib : Library}

/-- The answer of a library with a sound cache and a coherent index. -/
theorem query_of_sound (hk : Sound lib.snapshot.catalog lib.cache)
    (hx : lib.snapshot.index.Coherent) {text : String} {e : Expr} (hparse : parse text = .ok e)
    (he : Grounded lib.snapshot.catalog e) :
    ∃ m warnings lib',
      lib.query text .never = (.ok ⟨present lib.snapshot.index m, warnings⟩, lib')
        ∧ ∀ id image, lib.snapshot.index.images.get? id = some image →
          (m.ids.has id = true ↔ Verdict lib.snapshot lib.similarity image e true) := by
  obtain ⟨r, warnings, hr, hcompile⟩ := Snapshot.compile_grounded hparse he
  obtain ⟨m, hm, hdescribes⟩ := describes_evaluate hx lib.similarity r.simplify
  obtain ⟨hsame, -⟩ := Snapshot.compile_eq hk text
  rcases hrun : lib.snapshot.compile true text lib.cache with ⟨result, k⟩
  rw [hrun, hcompile] at hsame
  obtain rfl : result = .ok ⟨r.simplify, warnings⟩ := hsame
  refine ⟨m, warnings, { lib with cache := k }, ?_, fun id image hg => ?_⟩
  · simp only [query, Library.compile, compileOn, hrun, hm]
  · have hverdict : Verdict lib.snapshot lib.similarity image e (m.ids.has id) := by
      rw [hdescribes.has_eq hg, satisfies, Expr.holds_simplify]
      exact hr.verdict
    constructor
    · intro hid
      exact hid ▸ hverdict
    · exact fun h => hverdict.unique h

/-- **The answer of a library to a query.**  After any steps, a query that can be parsed and
resolved has an answer if it is not cancelled.  Its images are those of which the query, as it is
written, says that they belong to the answer, each once and with its path. -/
theorem query_correct (hstart : lib.Started) (steps : List Step) (text : String) (e : Expr)
    (hparse : parse text = .ok e)
    (he : Grounded (History.run lib steps).library.snapshot.catalog e) :
    ∃ out lib', (History.run lib steps).library.query text .never = (.ok out, lib')
      ∧ (out.images.map (·.id)).Nodup
      ∧ ∀ id path, (∃ score, ⟨id, path, score⟩ ∈ out.images) ↔
          ∃ image, (History.run lib steps).library.snapshot.index.images.get? id = some image
            ∧ image.path = path
            ∧ Verdict (History.run lib steps).library.snapshot
                (History.run lib steps).library.similarity image e true := by
  have hh := consistent_run hstart steps
  obtain ⟨changes, hindex⟩ := hh.index _ hh.current
  have hx := Index.coherent_applyAll Index.coherent_empty changes
  obtain ⟨m, warnings, lib', hquery, hids⟩ :=
    query_of_sound (hh.sound _ hh.current) (hindex ▸ hx) hparse he
  refine ⟨_, lib', hquery, nodup_present _ m, fun id path => ?_⟩
  rw [mem_present_iff]
  constructor
  · rintro ⟨hid, image, hg, hpath⟩
    exact ⟨image, hg, hpath, (hids id image hg).mp hid⟩
  · rintro ⟨image, hg, hpath, hv⟩
    exact ⟨(hids id image hg).mpr hv, image, hg, hpath⟩

/-- Three images, two plain tags and a compound one that also mentions a label that no tag has. -/
def tagging : List Step :=
  [.change (.registerImage "sea.jpg" none), .change (.registerImage "fire.png" none),
    .change (.registerImage "night.jpg" none), .change (.createTag "red" none none),
    .change (.createTag "blue" none none), .change (.createTag "warm" none (some "red + fire")),
    .change (.tagImage 2 "red"), .change (.tagImage 1 "blue"), .query "warm" .never]

/-- The images that are not warm are the first and the third, and of the first the query says so. -/
theorem query_correct_tagging :
    ∃ out lib', (History.run {} tagging).library.query "-warm" .never = (.ok out, lib')
      ∧ out.images.map (fun i => (i.id, i.path)) = [(1, "sea.jpg"), (3, "night.jpg")]
      ∧ ∃ image, (History.run {} tagging).library.snapshot.index.images.get? 1 = some image
          ∧ Verdict (History.run {} tagging).library.snapshot
              (History.run {} tagging).library.similarity image (.neg (.tag "warm")) true := by
  have hparse : parse "-warm" = .ok (.neg (.tag "warm")) := by decide +kernel
  have hresolve : resolve (History.run {} tagging).library.snapshot.catalog (.neg (.tag "warm"))
      = .ok ⟨.neg (.any [.tag "red", .nothing]), [.unknownTag "fire"]⟩ := by decide +kernel
  have hout : ((History.run {} tagging).library.query "-warm" .never).1
      = .ok ⟨[⟨1, "sea.jpg", none⟩, ⟨3, "night.jpg", none⟩], [.unknownTag "fire"]⟩ := by
    decide +kernel
  obtain ⟨out, lib', hquery, -, himages⟩ := query_correct (.empty default) tagging "-warm" _ hparse
    (resolve_ok_iff.mp ⟨_, hresolve⟩)
  rw [hquery] at hout
  cases hout
  obtain ⟨image, hg, -, hverdict⟩ := (himages 1 "sea.jpg").mp ⟨none, List.mem_cons_self⟩
  exact ⟨_, lib', hquery, rfl, image, hg, hverdict⟩

end Library

end Gallery
