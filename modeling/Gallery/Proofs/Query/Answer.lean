import Gallery.Proofs.Index.Coherent
import Gallery.Proofs.Query.Satisfaction

/-!
# `Gallery.Proofs.Query.Answer` — the evaluator answers as the query says

The evaluator sorts the operands of conjunctions, subtracts negated operands, stops when no image is
left and merges tables of scores.  None of this shows: a computation that is not cancelled finds the
registered images that satisfy the query, each with the best score that the query offers for it.

## Contents
- `Finds`, a computation that is not cancelled and whose result has a property.
- `Describes`, a set of images and scores that is right at every registered image, with one lemma
  for each way in which answers are combined.
- `Narrowed`, what further operands of a conjunction leave of an answer; `Answered`, what holds of
  the answer to a planned query, by induction over queries (`answered`).
- `satisfies_plan` and `offers_plan`, planning does not matter; `describes_evaluate`, the answer to
  any query.
- The result: the same after any history of an index.
-/

namespace Gallery.Query

/-! ## Computations that are not cancelled -/

/-- The computation succeeds from every state, and its result has the property. -/
def Finds {α : Type} (w : Watched α) (P : α → Prop) : Prop := ∀ n, ∃ a n', w n = .ok (a, n') ∧ P a

section

variable {α β : Type} {w : Watched α} {P : α → Prop} {Q : β → Prop}

theorem finds_pure {a : α} (h : P a) : Finds (pure a) P := fun n => ⟨a, n, rfl, h⟩

theorem finds_bind {f : α → Watched β} (hw : Finds w P) (hf : ∀ a, P a → Finds (f a) Q) :
    Finds (w >>= f) Q := by
  intro n
  obtain ⟨a, n', hwn, ha⟩ := hw n
  obtain ⟨b, n'', hfn, hb⟩ := hf a ha n'
  refine ⟨b, n'', ?_, hb⟩
  show (w n >>= fun r => f r.1 r.2) = .ok (b, n'')
  rw [hwn]
  exact hfn

theorem Finds.imp {P' : α → Prop} (h : Finds w P) (hP : ∀ a, P a → P' a) : Finds w P' := by
  intro n
  obtain ⟨a, n', hw, ha⟩ := h n
  exact ⟨a, n', hw, hP a ha⟩

theorem finds_read : Finds CancelToken.never.read (· = false) := fun n => ⟨false, n + 1, rfl, rfl⟩

theorem finds_check : Finds CancelToken.never.check fun _ => True := fun n =>
  ⟨(), n + 1, rfl, trivial⟩

/-- A computation that checks the token before it starts. -/
theorem finds_checked (h : Finds w P) : Finds (do CancelToken.never.check; w) P :=
  finds_bind finds_check fun _ _ => h

end

/-! ## Answers that are right at every image -/

variable {x : Index} {sim : Similarity} {m n : Matches} {H K : Image → Bool}
  {S T : Image → Float32 → Prop}

/-- The images of an answer are the registered ones with `H`, and the score of each is the best one
with `S`, if there is one; no other image has a score. -/
structure Describes (x : Index) (m : Matches) (H : Image → Bool) (S : Image → Float32 → Prop) :
    Prop where
  has_iff : ∀ id, m.ids.has id = true ↔ ∃ image, x.images.get? id = some image ∧ H image = true
  scored : ∀ id s, m.scores.get? id = some s → m.ids.has id = true
  best : ∀ id image, x.images.get? id = some image → IsBest (S image) (m.scores.get? id)

/-- The answer without scores. -/
def unscored (_ : Image) (_ : Float32) : Prop := False

theorem isBest_unscored (image : Image) : IsBest (unscored image) none := fun _ h => h

namespace Describes

/-- What is offered may as well be the best score alone. -/
theorem self (h : Describes x m H S) :
    Describes x m H fun image t => IsBest (S image) (some t) where
  has_iff := h.has_iff
  scored := h.scored
  best := fun id image hg => (h.best id image hg).self

theorem has_eq (h : Describes x m H S) {id : ImageId} {image : Image}
    (hg : x.images.get? id = some image) : m.ids.has id = H image := by
  rw [Bool.eq_iff_iff, h.has_iff]
  constructor
  · rintro ⟨i, hi, hH⟩
    rw [hg] at hi
    exact Option.some.inj hi ▸ hH
  · exact fun hH => ⟨image, hg, hH⟩

/-- Only images of the answer are offered scores. -/
theorem holds_of_offer (h : Describes x m H S) {id : ImageId} {image : Image}
    (hg : x.images.get? id = some image) {t : Float32} (ht : S image t) : H image = true := by
  have hbest := h.best id image hg
  cases hs : m.scores.get? id with
  | none =>
    rw [hs] at hbest
    exact absurd ht (hbest t)
  | some s => exact h.has_eq hg ▸ h.scored id s hs

/-- What an answer is right about counts at registered images only. -/
theorem congr (h : Describes x m H S)
    (hH : ∀ id image, x.images.get? id = some image → H image = K image)
    (hS : ∀ id image, x.images.get? id = some image → ∀ t, S image t ↔ T image t) :
    Describes x m K T where
  has_iff := by
    intro id
    rw [h.has_iff]
    constructor
    · rintro ⟨image, hg, hi⟩
      exact ⟨image, hg, hH id image hg ▸ hi⟩
    · rintro ⟨image, hg, hi⟩
      exact ⟨image, hg, (hH id image hg).symm ▸ hi⟩
  scored := h.scored
  best := fun id image hg => (h.best id image hg).congr (hS id image hg)

theorem ofIds {ids : KeySet ImageId}
    (h : ∀ id, ids.has id = true ↔ ∃ image, x.images.get? id = some image ∧ H image = true) :
    Describes x (.ofIds ids) H unscored where
  has_iff := h
  scored := fun _ _ hs => nomatch hs
  best := fun _ image _ => isBest_unscored image

theorem none : Describes x .none (fun _ => false) unscored :=
  .ofIds fun _ => ⟨fun h => (nomatch h), fun ⟨_, _, h⟩ => (nomatch h)⟩

/-- The numbers of all images. -/
theorem has_ids (x : Index) (id : ImageId) :
    x.ids.has id = true ↔ ∃ image, x.images.get? id = some image := by
  rw [Index.ids, KeySet.has, Table.contains, Table.get?_map, Option.isSome_map,
    Option.isSome_iff_exists]

theorem everything : Describes x (.ofIds x.ids) (fun _ => true) unscored :=
  .ofIds fun id => by simp [has_ids]

theorem complement (h : Describes x m H S) :
    Describes x (m.complement x.ids) (fun i => !H i) unscored := by
  refine .ofIds fun id => ?_
  rw [KeySet.has_diff, Bool.and_eq_true, has_ids]
  constructor
  · rintro ⟨⟨image, hg⟩, hn⟩
    exact ⟨image, hg, h.has_eq hg ▸ hn⟩
  · rintro ⟨image, hg, hi⟩
    exact ⟨⟨image, hg⟩, (h.has_eq hg).symm ▸ hi⟩

/-- Restricting the scores of an answer to a set restricts what is offered. -/
theorem best_filter {scores : Table ImageId Float32} (keep : ImageId → Bool) {id : ImageId}
    {P : Float32 → Prop} (h : IsBest P (scores.get? id)) :
    IsBest (fun t => keep id = true ∧ P t) ((scores.filter fun id _ => keep id).get? id) := by
  rw [Table.get?_filter]
  cases hk : keep id with
  | false =>
    have hnone : (scores.get? id).filter (fun _ => false) = Option.none := by
      cases scores.get? id <;> rfl
    rw [hnone]
    exact fun t ht => Bool.noConfusion ht.1
  | true =>
    have hsame : (scores.get? id).filter (fun _ => true) = scores.get? id := by
      cases scores.get? id <;> rfl
    rw [hsame]
    exact h.congr fun t => (and_iff_right rfl).symm

theorem intersect (h : Describes x m H S) (hn : Describes x n K T) :
    Describes x (m.intersect n) (fun i => H i && K i)
      (fun i t => (H i && K i) = true ∧ (S i t ∨ T i t)) where
  has_iff := by
    intro id
    show (m.ids.inter n.ids).has id = true ↔ _
    rw [KeySet.has_inter, Bool.and_eq_true, h.has_iff]
    constructor
    · rintro ⟨⟨image, hg, hH⟩, hK⟩
      exact ⟨image, hg, Bool.and_eq_true_iff.mpr ⟨hH, hn.has_eq hg ▸ hK⟩⟩
    · rintro ⟨image, hg, hi⟩
      obtain ⟨hH, hK⟩ := Bool.and_eq_true_iff.mp hi
      exact ⟨⟨image, hg, hH⟩, (hn.has_eq hg).symm ▸ hK⟩
  scored := by
    intro id s hs
    have hf : ((Matches.mergeScores m.scores n.scores).filter
      fun id _ => (m.ids.inter n.ids).has id).get? id = some s := hs
    rw [Table.get?_filter, Option.filter_eq_some_iff] at hf
    exact hf.2
  best := by
    intro id image hg
    have hmerged := (h.best id image hg).merge (hn.best id image hg)
    rw [← Matches.get?_mergeScores] at hmerged
    refine (best_filter (m.ids.inter n.ids).has hmerged).congr fun t => ?_
    rw [KeySet.has_inter, h.has_eq hg, hn.has_eq hg]

theorem difference (h : Describes x m H S) (hn : Describes x n K T) :
    Describes x (m.difference n) (fun i => H i && !K i)
      (fun i t => (H i && !K i) = true ∧ (S i t ∨ unscored i t)) where
  has_iff := by
    intro id
    show (m.ids.diff n.ids).has id = true ↔ _
    rw [KeySet.has_diff, Bool.and_eq_true, h.has_iff]
    constructor
    · rintro ⟨⟨image, hg, hH⟩, hK⟩
      exact ⟨image, hg, Bool.and_eq_true_iff.mpr ⟨hH, hn.has_eq hg ▸ hK⟩⟩
    · rintro ⟨image, hg, hi⟩
      obtain ⟨hH, hK⟩ := Bool.and_eq_true_iff.mp hi
      exact ⟨⟨image, hg, hH⟩, (hn.has_eq hg).symm ▸ hK⟩
  scored := by
    intro id s hs
    have hf : (m.scores.filter fun id _ => !n.ids.has id).get? id = some s := hs
    rw [Table.get?_filter, Option.filter_eq_some_iff] at hf
    show (m.ids.diff n.ids).has id = true
    rw [KeySet.has_diff, h.scored id s hf.1, hf.2, Bool.and_self]
  best := by
    intro id image hg
    have hbest := h.best id image hg
    refine (best_filter (fun id => !n.ids.has id) hbest).congr fun t => ?_
    rw [hn.has_eq hg, Bool.and_eq_true]
    constructor
    · rintro ⟨hK, hs⟩
      exact ⟨⟨h.holds_of_offer hg hs, hK⟩, .inl hs⟩
    · rintro ⟨⟨-, hK⟩, hs⟩
      exact ⟨hK, hs.resolve_right False.elim⟩

theorem union (h : Describes x m H S) (hn : Describes x n K T) :
    Describes x (m.union n) (fun i => H i || K i) (fun i t => S i t ∨ T i t) where
  has_iff := by
    intro id
    show (m.ids.union n.ids).has id = true ↔ _
    rw [KeySet.has_union, Bool.or_eq_true, h.has_iff, hn.has_iff]
    constructor
    · rintro (⟨image, hg, hi⟩ | ⟨image, hg, hi⟩)
      · exact ⟨image, hg, Bool.or_eq_true_iff.mpr (.inl hi)⟩
      · exact ⟨image, hg, Bool.or_eq_true_iff.mpr (.inr hi)⟩
    · rintro ⟨image, hg, hi⟩
      exact (Bool.or_eq_true_iff.mp hi).imp (fun hH => ⟨image, hg, hH⟩) fun hK => ⟨image, hg, hK⟩
  scored := by
    intro id s hs
    show (m.ids.union n.ids).has id = true
    rw [KeySet.has_union]
    have hm : (Matches.mergeScores m.scores n.scores).get? id = some s := hs
    rw [Matches.get?_mergeScores] at hm
    cases hms : m.scores.get? id with
    | some t => rw [h.scored id t hms, Bool.true_or]
    | none =>
      rw [hms] at hm
      rw [hn.scored id s hm, Bool.or_true]
  best := by
    intro id image hg
    have hmerged := (h.best id image hg).merge (hn.best id image hg)
    rwa [← Matches.get?_mergeScores] at hmerged

end Describes

/-! ## Metadata of all images -/

/-- What is kept of a list keeps its place. -/
theorem sublist_map_filterMap {α β γ : Type} {f : α → Option β} {g : β → γ} {h : α → γ}
    (hf : ∀ a b, f a = some b → g b = h a) (l : List α) :
    ((l.filterMap f).map g).Sublist (l.map h) := by
  induction l with
  | nil => exact .slnil
  | cons a l ih =>
    rw [List.filterMap_cons]
    cases hb : f a with
    | none => exact ih.cons (h a)
    | some b =>
      rw [List.map_cons, List.map_cons, hf a b hb]
      exact ih.cons_cons (h a)

/-- What `f` finds at the images of an index. -/
def findings {α : Type} (x : Index) (f : ImageId → Image → Option α) : List (ImageId × α) :=
  x.images.entries.filterMap fun e => (f e.1 e.2).map (e.1, ·)

section

variable {α : Type} {f : ImageId → Image → Option α}

theorem finds_collect (l : List (ImageId × Image)) :
    Finds (collect .never f l) (· = l.filterMap fun e => (f e.1 e.2).map (e.1, ·)) := by
  induction l with
  | nil => exact finds_pure rfl
  | cons e l ih =>
    obtain ⟨id, image⟩ := e
    unfold collect
    refine finds_bind finds_read ?_
    rintro _ rfl
    refine finds_bind ih ?_
    rintro _ rfl
    cases hf : f id image with
    | none => exact finds_pure (by simp [hf])
    | some a => exact finds_pure (by simp [hf])

theorem finds_findings (x : Index) :
    Finds (collect .never f x.images.entries) (· = findings x f) := finds_collect _

theorem mem_findings {id : ImageId} {a : α} :
    (id, a) ∈ findings x f ↔ ∃ image, x.images.get? id = some image ∧ f id image = some a := by
  simp only [findings, List.mem_filterMap, Option.map_eq_some_iff, Prod.mk.injEq, Prod.exists,
    Table.mem_entries_iff]
  constructor
  · rintro ⟨id', image, hg, b, hf, rfl, rfl⟩
    exact ⟨image, hg, hf⟩
  · rintro ⟨image, hg, hf⟩
    exact ⟨id, image, hg, a, hf, rfl, rfl⟩

/-- Each image is visited once. -/
theorem nodup_findings (x : Index) : ((findings x f).map (·.1)).Nodup := by
  have hsub : ((findings x f).map (·.1)).Sublist x.images.keys := by
    refine sublist_map_filterMap (fun e a ha => ?_) x.images.entries
    obtain ⟨b, -, rfl⟩ := Option.map_eq_some_iff.mp ha
    rfl
  exact hsub.nodup x.images.keys_nodup

theorem has_findings {id : ImageId} :
    (KeySet.ofList ((findings x f).map (·.1))).has id = true
      ↔ ∃ image, x.images.get? id = some image ∧ (f id image).isSome = true := by
  rw [KeySet.has_ofList, List.contains_iff_mem, List.mem_map]
  constructor
  · rintro ⟨⟨id', a⟩, hmem, rfl⟩
    obtain ⟨image, hg, hf⟩ := mem_findings.mp hmem
    exact ⟨image, hg, by rw [hf]; rfl⟩
  · rintro ⟨image, hg, hf⟩
    obtain ⟨a, ha⟩ := Option.isSome_iff_exists.mp hf
    exact ⟨(id, a), mem_findings.mpr ⟨image, hg, ha⟩, rfl⟩

theorem get?_findings {id : ImageId} {image : Image} (hg : x.images.get? id = some image) :
    (Table.ofList (findings x f)).get? id = f id image := by
  refine Option.ext fun a => ?_
  rw [Table.get?_ofList_iff (nodup_findings x), mem_findings]
  constructor
  · rintro ⟨i, hi, hf⟩
    rw [hg] at hi
    exact Option.some.inj hi ▸ hf
  · exact fun hf => ⟨image, hg, hf⟩

end

theorem describes_findings {f : ImageId → Image → Option Float32}
    (hf : ∀ id image, x.images.get? id = some image → IsBest (S image) (f id image))
    (hH : ∀ image, H image = true ↔ ∃ t, S image t) :
    Describes x ⟨KeySet.ofList ((findings x f).map (·.1)), Table.ofList (findings x f)⟩ H S where
  has_iff := by
    intro id
    refine has_findings.trans (exists_congr fun image => and_congr_right fun hg => ?_)
    rw [hH]
    have hbest := hf id image hg
    cases hs : f id image with
    | none =>
      rw [hs] at hbest
      exact ⟨fun h => (nomatch h), fun ⟨t, ht⟩ => absurd ht (hbest t)⟩
    | some s =>
      rw [hs] at hbest
      exact ⟨fun _ => ⟨s, hbest.1⟩, fun _ => rfl⟩
  scored := by
    intro id s hs
    have hmem := (Table.get?_ofList_iff (nodup_findings x) id s).mp hs
    obtain ⟨image, hg, hsome⟩ := mem_findings.mp hmem
    exact has_findings.mpr ⟨image, hg, by rw [hsome]; rfl⟩
  best := by
    intro id image hg
    show IsBest (S image) ((Table.ofList (findings x f)).get? id)
    rw [get?_findings hg]
    exact hf id image hg

theorem finds_scan (x : Index) (p : Image → Bool) :
    Finds (scan .never x p) fun m => Describes x m p unscored := by
  unfold scan
  refine finds_bind (finds_findings x) ?_
  rintro _ rfl
  refine finds_bind finds_check fun _ _ => finds_pure (.ofIds fun id => has_findings.trans ?_)
  have hsome : ∀ image, (if p image then some () else none).isSome = p image := by
    intro image
    cases p image <;> rfl
  simp only [hsome]

/-- The best score of an image against the references, whether it is one of them or not. -/
theorem isBest_similarityTo (x : Index) (sim : Similarity) (p : Pattern) (image : Image) :
    IsBest (fun t => ∃ ref ∈ x.images.values, p.isMatch ref.path = true ∧
        ∃ r f, ref.fingerprint = some r ∧ image.fingerprint = some f ∧ sim.score r f = some t)
      (similarityTo sim ((references x p).filterMap (·.fingerprint)) image) := by
  unfold similarityTo
  cases hf : image.fingerprint with
  | none => simp [IsBest]
  | some f =>
    refine (isBest_bestScore? _).congr fun t => ?_
    simp only [references, List.mem_filterMap, List.mem_filter, Option.some.injEq]
    constructor
    · rintro ⟨r, ⟨ref, ⟨hmem, hp⟩, hr⟩, hs⟩
      exact ⟨ref, hmem, hp, r, f, hr, rfl, hs⟩
    · rintro ⟨ref, hmem, hp, r, f', hr, rfl, hs⟩
      exact ⟨r, ⟨ref, ⟨hmem, hp⟩, hr⟩, hs⟩

/-- The images that are left out are those with a path that matches. -/
theorem contains_references (hx : Index.Coherent x) (p : Pattern) {id : ImageId} {image : Image}
    (hg : x.images.get? id = some image) :
    ((references x p).map (·.id)).contains id = p.isMatch image.path := by
  rw [Bool.eq_iff_iff, List.contains_iff_mem]
  simp only [references, List.mem_map, List.mem_filter, Table.mem_values_iff]
  constructor
  · rintro ⟨ref, ⟨⟨k, hk⟩, hp⟩, hid⟩
    obtain rfl : k = id := (hx.image_id k ref hk).symm.trans hid
    rw [hg] at hk
    exact Option.some.inj hk ▸ hp
  · exact fun hp => ⟨image, ⟨⟨id, hg⟩, hp⟩, hx.image_id id image hg⟩

theorem finds_similarTo (hx : Index.Coherent x) (sim : Similarity) (p : Pattern) :
    Finds (similarTo .never x sim p) fun m =>
      Describes x m (resembles x sim p) (Compares x sim p) := by
  unfold similarTo
  refine finds_bind finds_check fun _ _ => ?_
  have hfound : ∀ id image, x.images.get? id = some image → IsBest (Compares x sim p image)
      (if ((references x p).map (·.id)).contains id then none
        else similarityTo sim ((references x p).filterMap (·.fingerprint)) image) := by
    intro id image hg
    rw [contains_references hx p hg]
    cases hp : p.isMatch image.path with
    | true => exact fun t ht => Bool.noConfusion (hp.symm.trans ht.1)
    | false => exact (isBest_similarityTo x sim p image).congr fun t => (and_iff_right hp).symm
  by_cases he : ((references x p).filterMap (·.fingerprint)).isEmpty = true
  · rw [if_pos he]
    -- Without fingerprints to compare with, no image has a score.
    have hnone : ∀ id image, x.images.get? id = some image → ∀ t, ¬Compares x sim p image t := by
      intro id image _ t ht
      have hbest := isBest_similarityTo x sim p image
      rw [List.isEmpty_iff.mp he] at hbest
      have hempty : similarityTo sim [] image = none := by
        unfold similarityTo
        cases image.fingerprint <;> rfl
      rw [hempty] at hbest
      exact hbest t ht.2
    refine finds_pure (Describes.none.congr (fun id image hg => ?_) fun id image hg t => ?_)
    · rw [eq_comm, Bool.eq_false_iff, ne_eq, resembles_iff]
      rintro ⟨t, ht⟩
      exact hnone id image hg t ht
    · exact ⟨False.elim, hnone id image hg t⟩
  · rw [if_neg he]
    refine finds_bind (finds_findings x) ?_
    rintro _ rfl
    exact finds_bind finds_check fun _ _ =>
      finds_pure (describes_findings hfound fun image => resembles_iff)

/-- The images with metadata as asked for; only a comparison gives scores. -/
theorem finds_metatagMatches (hx : Index.Coherent x) (sim : Similarity) (m : Metatag) :
    Finds (metatagMatches .never x sim m) fun a =>
      Describes x a (metadataFit x sim · m) (Offers x sim · (.metatag m)) := by
  have hscan : ∀ p : Image → Bool, m.key ≠ .similarTo →
      (∀ image, metadataFit x sim image m = p image) → Finds (scan .never x p) fun a =>
        Describes x a (metadataFit x sim · m) (Offers x sim · (.metatag m)) := by
    intro p hkey hp
    refine (finds_scan x p).imp fun a ha => ha.congr (fun id image _ => (hp image).symm) ?_
    intro id image _ t
    exact ⟨False.elim, fun h => hkey h.1⟩
  unfold metatagMatches
  cases hkey : m.key with
  | type => exact hscan _ (by simp [hkey]) fun image => by simp only [metadataFit, hkey]
  | name => exact hscan _ (by simp [hkey]) fun image => by simp only [metadataFit, hkey]
  | path => exact hscan _ (by simp [hkey]) fun image => by simp only [metadataFit, hkey]
  | similarTo =>
    refine (finds_similarTo hx sim m.pattern).imp fun a ha => ha.congr ?_ ?_
    · intro id image _
      simp only [metadataFit, hkey]
    · intro id image _ t
      exact (and_iff_right hkey).symm

/-! ## Planned queries -/

/-- The answer to a planned query is as the query says. -/
def Answered (x : Index) (sim : Similarity) (e : Expr) : Prop :=
  Finds (run .never x sim e) fun m => Describes x m (satisfies x sim · e) (Offers x sim · e)

/-- A posting lists the registered images that carry the label. -/
theorem describes_posting (hx : Index.Coherent x) (sim : Similarity) (l : String) :
    Describes x (.ofIds ((x.posting? l).getD KeySet.empty)) (satisfies x sim · (.tag l))
      (Offers x sim · (.tag l)) := by
  refine .ofIds fun id => ?_
  have hlisted : ((x.posting? l).getD KeySet.empty).has id = (x.labelsOf id).has l :=
    hx.listed_eq l id
  rw [hlisted]
  constructor
  · intro hl
    obtain ⟨image, hg⟩ := hx.registered_of_has hl
    refine ⟨image, hg, ?_⟩
    show (x.labelsOf image.id).has l = true
    rw [hx.image_id id image hg]
    exact hl
  · rintro ⟨image, hg, hl⟩
    exact hx.image_id id image hg ▸ hl

theorem narrow_cons {tok : CancelToken} {found : Matches} {e : Expr} {es : List Expr}
    (he : ∀ d, e ≠ .neg d) :
    narrow tok x sim found (e :: es) =
      if found.isEmpty then pure found
      else run tok x sim e >>= fun n => narrow tok x sim (found.intersect n) es := by
  rw [narrow]
  exact he

/-- Once no image is left, further queries are not looked at. -/
theorem narrow_of_isEmpty {tok : CancelToken} {found : Matches} (hempty : found.isEmpty = true)
    (es : List Expr) : narrow tok x sim found es = pure found := by
  cases es with
  | nil => rfl
  | cons e es => cases e <;> simp only [narrow, hempty, if_true]

theorem has_eq_false_of_isEmpty (hempty : m.isEmpty = true) (id : ImageId) :
    m.ids.has id = false := by
  rw [KeySet.has, Table.contains, Table.isEmpty_iff.mp hempty id]
  rfl

/-- What is left of an answer when further queries have taken away the images that do not satisfy
them: it may have got scores from each. -/
def Narrowed (x : Index) (sim : Similarity) (H : Image → Bool) (S : Image → Float32 → Prop)
    (es : List Expr) (m : Matches) : Prop :=
  Describes x m (fun i => H i && es.all (satisfies x sim i)) fun i t =>
    (H i && es.all (satisfies x sim i)) = true ∧ (S i t ∨ OffersAmong x sim i es t)

theorem Describes.narrowed_nil (h : Describes x m H S) : Narrowed x sim H S [] m := by
  refine h.congr (fun id image hg => ?_) fun id image hg t => ?_
  · rw [List.all_nil, Bool.and_true]
  · rw [List.all_nil, Bool.and_true]
    exact ⟨fun hs => ⟨h.holds_of_offer hg hs, .inl hs⟩, fun hs => hs.2.resolve_right False.elim⟩

/-- An answer without images has nothing to lose. -/
theorem Describes.narrowed_of_isEmpty (h : Describes x m H S) (hempty : m.isEmpty = true)
    (es : List Expr) : Narrowed x sim H S es m := by
  have hH : ∀ id image, x.images.get? id = some image → H image = false := by
    intro id image hg
    rw [← h.has_eq hg, has_eq_false_of_isEmpty hempty]
  refine h.congr (fun id image hg => ?_) fun id image hg t => ?_
  · rw [hH id image hg, Bool.false_and]
  · rw [hH id image hg, Bool.false_and]
    refine ⟨fun hs => ?_, fun hs => Bool.noConfusion hs.1⟩
    exact Bool.noConfusion ((hH id image hg).symm.trans (h.holds_of_offer hg hs))

/-- The first of the further queries may be counted to those before. -/
theorem Narrowed.cons {e : Expr} {es : List Expr} {a : Matches}
    (hT : ∀ i t, T i t ↔ IsBest (Offers x sim i e) (some t))
    (h : Narrowed x sim (fun i => H i && satisfies x sim i e)
      (fun i t => (H i && satisfies x sim i e) = true ∧ (S i t ∨ T i t)) es a) :
    Narrowed x sim H S (e :: es) a := by
  refine Describes.congr h (fun id image _ => ?_) fun id image _ t => ?_
  · rw [List.all_cons, Bool.and_assoc]
  · rw [List.all_cons, ← Bool.and_assoc, OffersAmong, ← hT]
    constructor
    · rintro ⟨hall, ⟨-, hs | hs⟩ | hs⟩
      · exact ⟨hall, .inl hs⟩
      · exact ⟨hall, .inr (.inl hs)⟩
      · exact ⟨hall, .inr (.inr hs)⟩
    · rintro ⟨hall, hs | hs | hs⟩
      · exact ⟨hall, .inl ⟨(Bool.and_eq_true_iff.mp hall).1, .inl hs⟩⟩
      · exact ⟨hall, .inl ⟨(Bool.and_eq_true_iff.mp hall).1, .inr hs⟩⟩
      · exact ⟨hall, .inr hs⟩

/-- Each further query takes away the images that do not satisfy it.  A negated one is answered
without its negation, so `hes` speaks of what is negated as well. -/
theorem finds_narrow {es : List Expr}
    (hes : ∀ e ∈ es, Answered x sim e ∧ ∀ d, e = .neg d → Answered x sim d)
    (h : Describes x m H S) :
    Finds (narrow .never x sim m es) (Narrowed x sim H S es) := by
  induction es generalizing m H S with
  | nil => exact finds_pure h.narrowed_nil
  | cons e es ih =>
    have hes' := List.forall_mem_cons.mp hes
    by_cases hempty : m.isEmpty = true
    · rw [narrow_of_isEmpty hempty]
      exact finds_pure (h.narrowed_of_isEmpty hempty (e :: es))
    · by_cases hneg : ∃ d, e = .neg d
      · obtain ⟨d, rfl⟩ := hneg
        rw [narrow, if_neg hempty]
        refine finds_bind (hes'.1.2 d rfl) fun n hn => ?_
        -- No negation has a score.
        have hT : ∀ i t, unscored i t ↔ IsBest (Offers x sim i (.neg d)) (some t) :=
          fun i t => ⟨False.elim, And.left⟩
        exact (ih hes'.2 (h.difference hn)).imp fun a ha => ha.cons hT
      · rw [narrow_cons fun d hd => hneg ⟨d, hd⟩, if_neg hempty]
        refine finds_bind hes'.1.1 fun n hn => ?_
        exact (ih hes'.2 (h.intersect hn.self)).imp fun a ha => ha.cons fun _ _ => Iff.rfl

theorem finds_runAny {es : List Expr} (hes : ∀ e ∈ es, Answered x sim e)
    (h : Describes x m H S) :
    Finds (runAny .never x sim m es) fun a =>
      Describes x a (fun i => H i || es.any (satisfies x sim i)) fun i t =>
        S i t ∨ OffersAmong x sim i es t := by
  induction es generalizing m H S with
  | nil =>
    refine finds_pure (h.congr (fun id image hg => ?_) fun id image hg t => ?_)
    · rw [List.any_nil, Bool.or_false]
    · exact (or_iff_left False.elim).symm
  | cons e es ih =>
    have hes' := List.forall_mem_cons.mp hes
    unfold runAny
    refine finds_bind hes'.1 fun n hn => ?_
    refine (ih hes'.2 (h.union hn.self)).imp fun a ha => ha.congr ?_ ?_
    · intro id image _
      rw [List.any_cons, Bool.or_assoc]
    · intro id image _ t
      rw [OffersAmong, or_assoc]

theorem finds_runAll {es : List Expr}
    (hes : ∀ e ∈ es, Answered x sim e ∧ ∀ d, e = .neg d → Answered x sim d) :
    Finds (runAll .never x sim es) fun a =>
      Describes x a (satisfies x sim · (.all es)) (Offers x sim · (.all es)) := by
  cases es with
  | nil => exact finds_pure (Describes.everything.congr (fun _ _ _ => rfl) fun _ _ _ _ =>
      ⟨False.elim, fun h => h.2⟩)
  | cons e es =>
    have hes' := List.forall_mem_cons.mp hes
    unfold runAll
    refine finds_bind hes'.1.1 fun n hn => (finds_narrow hes'.2 hn.self).imp fun a ha => ?_
    refine Describes.congr ha ?_ ?_
    · intro id image _
      rw [satisfies_all, List.all_cons]
    · intro id image _ t
      rw [Offers, OffersAmong, satisfies_all, List.all_cons]

/-- **A planned query is answered as it says.** -/
theorem answered (hx : Index.Coherent x) (sim : Similarity) (e : Expr) : Answered x sim e := by
  -- A negated operand of a conjunction is never run itself, only what it negates.
  suffices h : Answered x sim e ∧ ∀ d, e = .neg d → Answered x sim d from h.1
  induction e using Expr.induction with
  | nothing => exact ⟨finds_checked (finds_pure .none), fun _ h => nomatch h⟩
  | everything => exact ⟨finds_checked (finds_pure .everything), fun _ h => nomatch h⟩
  | tag l => exact ⟨finds_checked (finds_pure (describes_posting hx sim l)), fun _ h => nomatch h⟩
  | metatag m => exact ⟨finds_checked (finds_metatagMatches hx sim m), fun _ h => nomatch h⟩
  | neg e ih =>
    refine ⟨finds_checked (finds_bind ih.1 fun n hn => finds_pure hn.complement), fun d hd => ?_⟩
    exact Expr.neg.inj hd ▸ ih.1
  | all es ih => exact ⟨finds_checked (finds_runAll ih), fun _ h => nomatch h⟩
  | any es ih =>
    refine ⟨finds_checked ?_, fun _ h => nomatch h⟩
    refine (finds_runAny (fun e he => (ih e he).1) Describes.none).imp fun a ha => ha.congr ?_ ?_
    · intro id image _
      rw [satisfies_any, Bool.false_or]
    · exact fun id image _ t => or_iff_right False.elim

/-! ## Planning -/

theorem planList_eq_map (size : String → Nat) (es : List Expr) :
    planList size es = es.map (plan size) := by
  induction es with
  | nil => rfl
  | cons e es ih => rw [planList, ih, List.map_cons]

/-- Planning puts the operands of conjunctions in another order and changes nothing else. -/
theorem satisfies_plan (size : String → Nat) (image : Image) (e : Expr) :
    satisfies x sim image (plan size e) = satisfies x sim image e := by
  induction e using Expr.induction with
  | nothing | everything | tag | metatag => rfl
  | neg e ih => exact congrArg not ih
  | all es ih =>
    have hperm := List.mergeSort_perm (planList size es)
      fun d e => (estimate size d).le (estimate size e)
    rw [plan, satisfies_all, satisfies_all, hperm.all_eq, planList_eq_map, Bool.eq_iff_iff]
    simp only [List.all_eq_true, List.forall_mem_map]
    exact forall₂_congr fun e he => by rw [ih e he]
  | any es ih =>
    rw [plan, satisfies_any, satisfies_any, planList_eq_map, List.any_map, Bool.eq_iff_iff]
    simp only [List.any_eq_true, Function.comp]
    exact exists_congr fun e => and_congr_right fun he => by rw [ih e he]

theorem offers_plan (size : String → Nat) (image : Image) (e : Expr) :
    Offers x sim image (plan size e) = Offers x sim image e := by
  have hamong : ∀ es : List Expr,
      (∀ e ∈ es, Offers x sim image (plan size e) = Offers x sim image e) →
        ∀ t, OffersAmong x sim image (planList size es) t ↔ OffersAmong x sim image es t := by
    intro es ih t
    rw [offersAmong_iff, offersAmong_iff, planList_eq_map]
    constructor
    · rintro ⟨_, hmem, ht⟩
      obtain ⟨e, he, rfl⟩ := List.mem_map.mp hmem
      exact ⟨e, he, ih e he ▸ ht⟩
    · rintro ⟨e, he, ht⟩
      exact ⟨plan size e, List.mem_map.mpr ⟨e, he, rfl⟩, (ih e he).symm ▸ ht⟩
  induction e using Expr.induction with
  | nothing | everything | tag | metatag | neg => rfl
  | all es ih =>
    have hperm := List.mergeSort_perm (planList size es)
      fun d e => (estimate size d).le (estimate size e)
    funext t
    refine propext (and_congr ?_ ?_)
    · exact Bool.eq_iff_iff.mp (satisfies_plan size image (.all es))
    · rw [offersAmong_iff, ← hamong es ih, offersAmong_iff]
      simp only [hperm.mem_iff]
  | any es ih => exact funext fun t => propext (hamong es ih t)

/-- **The answer to a query** that is not cancelled: the registered images that satisfy it, each
with the best score that it offers. -/
theorem describes_evaluate (hx : Index.Coherent x) (sim : Similarity) (e : Expr) :
    ∃ m, evaluate .never x sim e = .ok m
      ∧ Describes x m (satisfies x sim · e) (Offers x sim · e) := by
  obtain ⟨m, n, hrun, hm⟩ := answered hx sim (plan x.postingSize e) 0
  refine ⟨m, ?_, hm.congr (fun _ image _ => satisfies_plan _ image e) fun _ image _ t => ?_⟩
  · rw [evaluate, hrun]
  · rw [offers_plan]

/-- **The evaluator refines the reading of a query at single images**, on every index that changes
lead to.  A query that is not cancelled has an answer; its images are the registered ones that
satisfy the query, no other image has a score, and the score of each image is the best one that the
query offers for it, if there is one. -/
theorem evaluate_refines (changes : List IndexChange) (sim : Similarity) (e : Expr) :
    ∃ m, evaluate .never ((∅ : Index).applyAll changes) sim e = .ok m
      ∧ (∀ id, m.ids.has id = true ↔
          ∃ image, ((∅ : Index).applyAll changes).images.get? id = some image
            ∧ satisfies ((∅ : Index).applyAll changes) sim image e = true)
      ∧ (∀ id s, m.scores.get? id = some s → m.ids.has id = true)
      ∧ ∀ id image, ((∅ : Index).applyAll changes).images.get? id = some image →
          ∀ o, m.scores.get? id = o
            ↔ IsBest (Offers ((∅ : Index).applyAll changes) sim image e) o := by
  have hx := Index.coherent_applyAll Index.coherent_empty changes
  obtain ⟨m, hm, hdescribes⟩ := describes_evaluate hx sim e
  refine ⟨m, hm, hdescribes.has_iff, hdescribes.scored, fun id image hg o => ?_⟩
  have hbest := hdescribes.best id image hg
  constructor
  · rintro rfl
    exact hbest
  · exact fun h => hbest.unique h

end Gallery.Query
