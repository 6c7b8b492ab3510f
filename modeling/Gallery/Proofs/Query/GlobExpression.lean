import Gallery.Query.Pattern

/-!
# `Gallery.Proofs.Query.GlobExpression` — the expression of a glob, written and read

A glob with wildcards is searched for as a regular expression.  The expression that is written for
it, read by the parser of expressions, is `Glob.toRegex`.

## Contents
- `Glob.itemTree`, what the parser makes of one part.
- `Reading.loop_cons` and one lemma for each step that the expression needs; `loop_items`, the part
  inside the group.
- `Glob.parse_expression`, what the parser makes of the whole expression.
- `Matcher.compile_glob`, how a glob compiles; `Pattern.exists_make`, `Pattern.matcher_of_make` and
  `Pattern.make_tooLarge`.
-/

namespace Gallery

open Gallery.Regex Gallery.Text Gallery.Query

namespace Query.Glob

/-- The tree of one part. -/
def itemTree : GlobItem → Tree
  | .char c => .literal c false
  | .one => .dot
  | .many => .repeated .dot 0 none

end Query.Glob

namespace Regex

/-- The characters with a meaning of their own, in a list. -/
theorem isMeta_iff {c : Char} : isMeta c = true ↔
    c ∈ ['\\', '.', '+', '*', '?', '(', ')', '|', '[', ']', '\x7b', '\x7d', '^', '$', '#', '&', '-',
      '~'] := by
  rw [isMeta, List.contains_iff_mem]
  rfl

/-- After a backslash, they stand for themselves. -/
theorem escape_of_isMeta {c : Char} (hc : isMeta c = true) (s : List Char) :
    escape false (c :: s) = .ok (.literal c false, Rest.tail s) := by
  simp only [isMeta_iff, List.mem_cons, List.not_mem_nil, or_false] at hc
  obtain rfl | rfl | rfl | rfl | rfl | rfl | rfl | rfl | rfl | rfl | rfl | rfl | rfl | rfl | rfl
    | rfl | rfl | rfl := hc
  all_goals rfl

/-- A scanner that succeeds hands on what it leaves. -/
theorem Scan.bind_of_ok {α β : Type} {m : Scan α} {f : α → Scan β} {s : List Char} {a : α} {b : β}
    {r : Rest s} {t : Rest r.1} (h : m s = .ok (a, r)) (hf : f a r.1 = .ok (b, t)) :
    (m >>= f) s = .ok (b, r.trans t) := by
  simp only [bind, h, hf]

namespace Reading

variable {st st' : Reading} {s t : List Char} {c : Char}

/-! ## Steps -/

/-- The loop goes on from what a step leaves. -/
theorem loop_cons (hspace : st.current.space = false) {h : t.length ≤ s.length}
    (hstep : st.step c s = .ok (st', ⟨t, h⟩)) : loop st (c :: s) = loop st' t := by
  have hb : (Scan.afterBlanks st.current.space (c :: s)).1 = c :: s := by
    rw [hspace]
    rfl
  rw [loop]
  dsimp only
  split
  · rename_i hnil
    cases hb.symm.trans hnil
  · rename_i hcons
    obtain ⟨rfl, rfl⟩ := List.cons.inj (hb.symm.trans hcons)
    rw [hstep]

theorem loop_nil (st : Reading) : loop st [] = st.finish := by
  have hb : (Scan.afterBlanks st.current.space []).1 = [] := by cases st.current.space <;> rfl
  rw [loop]
  dsimp only
  split
  · rfl
  · rename_i hcons
    cases hb.symm.trans hcons

theorem step_dot (st : Reading) (s : List Char) :
    st.step '.' s = .ok (st.push .dot, Rest.all s) := rfl

theorem step_caret (st : Reading) (s : List Char) :
    st.step '^' s = .ok (st.push .caret, Rest.all s) := rfl

theorem step_dollar (st : Reading) (s : List Char) :
    st.step '$' s = .ok (st.push .dollar, Rest.all s) := rfl

theorem step_plain (st : Reading) (hc : isMeta c = false) (s : List Char) :
    st.step c s = .ok (st.push (.literal c false), Rest.all s) := by
  rw [Bool.eq_false_iff, Ne, isMeta_iff] at hc
  unfold step
  dsimp only
  split
  all_goals first | rfl | exact absurd (by decide) hc

theorem step_escape (hspace : st.current.space = false) (hc : isMeta c = true) (s : List Char) :
    st.step '\\' (c :: s) = .ok (st.push (.literal c false), (Rest.tail s).trans (Rest.all s)) := by
  unfold step
  rw [hspace]
  exact Scan.bind_of_ok (escape_of_isMeta hc s) rfl

/-- A star repeats the dot in front of it. -/
theorem step_star (st : Reading) (hs : s.head? ≠ some '?') :
    (st.push .dot).step '*' s
      = .ok (st.push (.repeated .dot 0 none), (Rest.all s).trans (Rest.all s)) := by
  have haccept : Scan.accept ['?'] s = .ok (false, Rest.all s) := by
    cases s with
    | nil => rfl
    | cons d s =>
      have hd : d ≠ '?' := fun hd => hs (congrArg some hd)
      simp [Scan.accept, hd.symm]
  refine Scan.bind_of_ok haccept ?_
  rfl

/-- A group with a flag that lets a dot match line breaks. -/
theorem step_open (hspace : st.current.space = false) (s : List Char) :
    ∃ h, st.step '(' ('?' :: 's' :: ':' :: s)
      = .ok ({ st with current := { change := [(.dotNewline, true)] },
                       outer := st.current :: st.outer }, ⟨s, h⟩) := by
  refine ⟨by simp only [List.length_cons]; omega, ?_⟩
  unfold step
  rw [hspace]
  rfl

theorem step_close {g : OpenGroup} {outer : List OpenGroup} (h : st.outer = g :: outer)
    (s : List Char) :
    st.step ')' s = .ok ({ st with
      current := g.push (.group st.current.change st.current.toTree), outer }, Rest.all s) := by
  unfold step
  rw [h]
  rfl

/-! ## The parts of a glob -/

open Glob

theorem loop_item (hspace : st.current.space = false) (x : GlobItem) (hs : s.head? ≠ some '?') :
    loop st (itemExpression x ++ s) = loop (st.push (itemTree x)) s := by
  cases x with
  | char c =>
    rw [itemExpression]
    split
    · rename_i hc
      exact loop_cons hspace (step_escape hspace hc s)
    · rename_i hc
      exact loop_cons hspace (step_plain st (Bool.eq_false_iff.mpr hc) s)
  | one => exact loop_cons hspace (step_dot st s)
  | many =>
    -- The dot is read as a part of its own before the star turns it into a repetition.
    have hspace' : (st.push .dot).current.space = false := hspace
    rw [itemExpression]
    exact (loop_cons hspace (step_dot st ('*' :: s))).trans (loop_cons hspace' (step_star st hs))

/-- No part is written with a question mark in front. -/
theorem head?_itemExpression (x : GlobItem) (s : List Char) :
    (itemExpression x ++ s).head? ≠ some '?' := by
  cases x with
  | char c =>
    rw [itemExpression]
    split
    · exact fun h => absurd (Option.some.inj h) (by decide)
    · rename_i hc
      rintro ⟨⟩
      exact hc (by decide +kernel)
  | one => exact fun h => absurd (Option.some.inj h) (by decide)
  | many => exact fun h => absurd (Option.some.inj h) (by decide)

theorem loop_items (hspace : st.current.space = false) (g : Glob) (hs : s.head? ≠ some '?') :
    loop st (g.flatMap itemExpression ++ s)
      = loop { st with current :=
          { st.current with items := (g.map itemTree).reverse ++ st.current.items } } s := by
  induction g generalizing st with
  | nil => simp
  | cons x g ih =>
    have hrest : (g.flatMap itemExpression ++ s).head? ≠ some '?' := by
      cases g with
      | nil => exact hs
      | cons y g =>
        rw [List.flatMap_cons, List.append_assoc]
        exact head?_itemExpression y _
    have hspace' : (st.push (itemTree x)).current.space = false := hspace
    rw [List.flatMap_cons, List.append_assoc, loop_item hspace x hrest, ih hspace']
    simp [push, OpenGroup.push]

end Reading

/-! ## Meanings -/

open Glob

theorem depth_itemTree_le (x : GlobItem) : (itemTree x).depth ≤ 1 := by
  cases x <;> simp [itemTree, Tree.depth]

theorem depth_ofItems_le (ts : List Tree) : (Tree.ofItems ts).depth ≤ Tree.depthList ts + 1 := by
  match ts with
  | [] => simp [Tree.ofItems, Tree.depth]
  | [t] => simp [Tree.ofItems, Tree.depthList]
  | _ :: _ :: _ => exact Nat.le_refl _

theorem depthList_map_itemTree_le (g : Glob) : Tree.depthList (g.map itemTree) ≤ 1 := by
  induction g with
  | nil => exact Nat.zero_le 1
  | cons x g ih => exact Nat.max_le.mpr ⟨depth_itemTree_le x, ih⟩

/-- The flags inside the group of a glob. -/
def groupFlags (ignoreCase : Bool) : Flags := { ignoreCase, dotNewline := true }

theorem toRegex_itemTree (ignoreCase : Bool) (x : GlobItem) :
    (itemTree x).toRegex (groupFlags ignoreCase)
      = .ok (itemRegex ignoreCase x, groupFlags ignoreCase) := by
  cases x with
  | char c => simp [itemTree, Tree.toRegex, itemRegex, charClass, Flags.close, groupFlags]
  | one => rfl
  | many => simp [itemTree, Tree.toRegex, itemRegex, Flags.dot, groupFlags]

theorem toRegexes_map_itemTree (ignoreCase : Bool) (g : Glob) :
    Tree.toRegexes (groupFlags ignoreCase) (g.map itemTree)
      = .ok (g.map (itemRegex ignoreCase), groupFlags ignoreCase) := by
  induction g with
  | nil => rw [List.map_nil, Tree.toRegexes, List.map_nil]
  | cons x g ih =>
    rw [List.map_cons, Tree.toRegexes, toRegex_itemTree]
    dsimp only
    rw [ih]
    rfl

/-- Trees in a row mean their expressions in a row. -/
theorem toRegex_ofItems {fl fl' : Flags} {ts : List Tree} {rs : List Regex}
    (h : Tree.toRegexes fl ts = .ok (rs, fl')) :
    (Tree.ofItems ts).toRegex fl = .ok (seqs rs, fl') := by
  match ts with
  | [] =>
    rw [Tree.toRegexes] at h
    cases h
    rfl
  | [t] =>
    rw [Tree.toRegexes] at h
    split at h
    · cases h
    · rename_i r fl₁ ht
      rw [Tree.toRegexes] at h
      cases h
      exact ht
  | _ :: _ :: _ =>
    show Tree.toRegex fl (.concat _) = _
    rw [Tree.toRegex, h]

end Regex

namespace Query.Glob

/-- The tree of the whole expression. -/
def expressionTree (g : Glob) : Tree :=
  .concat [.caret, .group [(.dotNewline, true)] (.ofItems (g.map itemTree)), .dollar]

theorem depth_expressionTree_le (g : Glob) : g.expressionTree.depth ≤ maxDepth := by
  have hitems := depth_ofItems_le (g.map itemTree)
  have hlist := depthList_map_itemTree_le g
  simp only [expressionTree, Tree.depth, Tree.depthList, maxDepth]
  omega

theorem parse_tree (g : Glob) : Tree.parse g.expression = .ok g.expressionTree := by
  have hspace : (({} : Reading).push .caret).current.space = false := rfl
  have hgroup : OpenGroup.toTree { items := (g.map itemTree).reverse ++ [],
                                   change := [(.dotNewline, true)] }
      = .ofItems (g.map itemTree) := by
    simp [OpenGroup.toTree, OpenGroup.branch, Tree.ofBranches]
  obtain ⟨hle, hopen⟩ := Reading.step_open hspace (g.flatMap itemExpression ++ [')', '$'])
  rw [Tree.parse, expression]
  refine (Reading.loop_cons rfl (Reading.step_caret _ _)).trans ?_
  refine (Reading.loop_cons rfl hopen).trans ?_
  rw [Reading.loop_items rfl g (by decide)]
  refine (Reading.loop_cons rfl (Reading.step_close rfl _)).trans ?_
  dsimp only
  rw [hgroup]
  refine (Reading.loop_cons rfl (Reading.step_dollar _ _)).trans ?_
  rw [Reading.loop_nil]
  exact if_pos g.depth_expressionTree_le

/-- **The expression that is written for a glob is read as the one that is searched for.** -/
theorem parse_expression (ignoreCase : Bool) (g : Glob) :
    Regex.parse ignoreCase g.expression = .ok (g.toRegex ignoreCase) := by
  have hitems := toRegex_ofItems (toRegexes_map_itemTree ignoreCase g)
  have hflags : Flags.apply { ignoreCase } [(.dotNewline, true)] = groupFlags ignoreCase := rfl
  rw [Regex.parse, parse_tree]
  simp only [expressionTree, Tree.toRegex, Tree.toRegexes, hflags, hitems]
  rfl

end Query.Glob

/-! ## Compiled globs -/

namespace Query

open Glob

variable {source : String} {g : Glob} {ignoreCase : Bool}

theorem Matcher.compile_glob (hg : Glob.parse source.toList = some g) :
    Matcher.compile .glob source ignoreCase
      = if (g.toRegex ignoreCase).Fits then .ok (.ofGlob ignoreCase g (g.toRegex ignoreCase))
        else .error (.regex .tooLarge) := by
  have hbuild : Regex.build ignoreCase g.expression
      = if (g.toRegex ignoreCase).Fits then .ok (g.toRegex ignoreCase) else .error .tooLarge := by
    rw [Regex.build, parse_expression]
  rw [Matcher.compile, hg]
  dsimp only
  rw [hbuild]
  by_cases hfits : (g.toRegex ignoreCase).Fits
  · rw [if_pos hfits, if_pos hfits]
  · rw [if_neg hfits, if_neg hfits]

/-- A glob compiles to its own matcher if its expression stays within the size limit. -/
theorem Pattern.exists_make (hg : Glob.parse source.toList = some g)
    (hfits : (g.toRegex ignoreCase).Fits) :
    ∃ p, Pattern.make .glob source ignoreCase = .ok p
      ∧ p.matcher = .ofGlob ignoreCase g (g.toRegex ignoreCase) := by
  have hcompile := (Matcher.compile_glob hg).trans (if_pos hfits)
  exact ⟨⟨.glob, source, ignoreCase, _, hcompile⟩, Pattern.make_eq_ok_iff.mpr ⟨rfl, rfl, rfl⟩, rfl⟩

theorem Pattern.matcher_of_make {p : Pattern} (hg : Glob.parse source.toList = some g)
    (hp : Pattern.make .glob source ignoreCase = .ok p) :
    p.matcher = .ofGlob ignoreCase g (g.toRegex ignoreCase) := by
  obtain ⟨hkind, hsource, hcase⟩ := Pattern.make_eq_ok_iff.mp hp
  have hcompiled := p.compiled
  rw [hkind, hsource, hcase, Matcher.compile_glob hg] at hcompiled
  split at hcompiled
  · exact (Except.ok.inj hcompiled).symm
  · cases hcompiled

/-- Else it does not compile, whatever its parts are. -/
theorem Pattern.make_tooLarge (hg : Glob.parse source.toList = some g)
    (hlarge : ¬(g.toRegex ignoreCase).Fits) :
    Pattern.make .glob source ignoreCase = .error (.regex .tooLarge) := by
  rw [Pattern.make_eq_error_iff, Matcher.compile_glob hg, if_neg hlarge]

end Query

end Gallery
