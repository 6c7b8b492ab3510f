import Gallery.Proofs.Query.Answer

/-!
# `Gallery.Proofs.Query.Cancellation` — a cancelled evaluation has no result

Once the token is raised, a scan skips the images that are left, so what it finds is not all there is.
The token is read again behind every scan, and then the evaluation stops; hence what is skipped never
reaches an answer.  An evaluation is followed here by its readings of the token: without a raised
reading it takes a certain number of them and has its result, and it has none if one of them is raised.

A scan may look at several images at once.  Which of its readings are the raised ones is then open, but
the reading behind the scan comes after all of them.

## Contents
- `Heeds`, a computation whose readings are `count` many and which stops if one of them is raised, with
  one lemma for each way in which the evaluator is put together; `Heedful`, from any reading on.
- `heedful_run`, planned queries, by induction over queries.
- `readings` and `Decides`; the result: what an evaluation comes to when the token is raised at some
  moment.
-/

namespace Gallery.Query

/-- The token that is raised at one reading only. -/
def CancelToken.raisedAtOnly (n : Nat) : CancelToken := ⟨fun i => i == n⟩

/-! ## Readings of a computation -/

/-- The computation that starts with reading `n` takes `count` readings and then has the result `a`,
unless one of them is raised.  A raised reading stops it if those readings are raised as well that come
later and would stop it alone. -/
structure Heeds {α : Type} (w : CancelToken → Watched α) (n count : Nat) (a : α) : Prop where
  whole : ∀ tok : CancelToken, (∀ i, n ≤ i → i < n + count → tok.raisedAt i = false) →
    w tok n = .ok (a, n + count)
  stops : ∀ (tok : CancelToken) (i : Nat), n ≤ i → i < n + count → tok.raisedAt i = true →
    (∀ i j, n ≤ i → i ≤ j → j < n + count → tok.raisedAt i = true →
      w (.raisedAtOnly j) n = .error .cancelled → tok.raisedAt j = true) →
    w tok n = .error .cancelled

/-- The computation is of this kind from every reading on. -/
def Heedful {α : Type} (w : CancelToken → Watched α) : Prop := ∀ n, ∃ count a, Heeds w n count a

section

variable {α β : Type} {w : CancelToken → Watched α}

theorem heedful_pure (a : α) : Heedful fun _ => (pure a : Watched α) := fun _ =>
  ⟨0, a, fun _ _ => rfl, fun _ _ hn hi => absurd hi (Nat.not_lt.mpr hn)⟩

theorem bind_of_error {w : Watched α} {n : Nat} {c : Cancelled} (h : w n = .error c)
    (f : α → Watched β) : (w >>= f) n = .error c := by
  show (w n >>= fun r => f r.1 r.2) = .error c
  rw [h]
  rfl

theorem bind_of_whole {w : Watched α} {n k : Nat} {a : α} (h : w n = .ok (a, k))
    (f : α → Watched β) : (w >>= f) n = f a k := by
  show (w n >>= fun r => f r.1 r.2) = f a k
  rw [h]
  rfl

/-- A reading that is the only raised one is not raised before or after. -/
theorem raisedAtOnly_of_ne {i j : Nat} (h : i ≠ j) :
    (CancelToken.raisedAtOnly j).raisedAt i = false := by
  simpa [CancelToken.raisedAtOnly] using h

theorem Heeds.bind {f : CancelToken → α → Watched β} {n k l : Nat} {a : α} {b : β}
    (hw : Heeds w n k a) (hf : Heeds (fun tok => f tok a) (n + k) l b) :
    Heeds (fun tok => w tok >>= f tok) n (k + l) b where
  whole := by
    intro tok hunraised
    have hfirst : w tok n = .ok (a, n + k) :=
      hw.whole tok fun i hn hi => hunraised i hn (by omega)
    have hsecond : f tok a (n + k) = .ok (b, n + k + l) :=
      hf.whole tok fun i hn hi => hunraised i (by omega) (by omega)
    rw [bind_of_whole hfirst, hsecond, Nat.add_assoc]
  stops := by
    intro tok i hn hi hraised hlasts
    by_cases hfirst : ∃ j, n ≤ j ∧ j < n + k ∧ tok.raisedAt j = true
    · -- The first part stops, as what would stop it alone stops the whole.
      obtain ⟨j, hnj, hjk, hj⟩ := hfirst
      refine bind_of_error (hw.stops tok j hnj hjk hj fun i j hni hij hjk hi hdecides => ?_) _
      exact hlasts i j hni hij (by omega) hi (bind_of_error hdecides _)
    · have hunraised : ∀ j, n ≤ j → j < n + k → tok.raisedAt j = false := by
        intro j hnj hjk
        exact Bool.eq_false_iff.mpr fun hj => hfirst ⟨j, hnj, hjk, hj⟩
      have hki : n + k ≤ i := by
        refine Nat.not_lt.mp fun hik => ?_
        rw [hunraised i hn hik] at hraised
        cases hraised
      show (w tok >>= f tok) n = _
      rw [bind_of_whole (hw.whole tok hunraised)]
      refine hf.stops tok i hki (by omega) hraised fun i j hni hij hjl hi hdecides => ?_
      refine hlasts i j (by omega) hij (by omega) hi ?_
      -- The first part has its result if only a later reading is raised.
      rw [bind_of_whole (hw.whole _ fun p _ hp => raisedAtOnly_of_ne (by omega))]
      exact hdecides

theorem heedful_bind {f : CancelToken → α → Watched β} (hw : Heedful w)
    (hf : ∀ a, Heedful fun tok => f tok a) : Heedful fun tok => w tok >>= f tok := by
  intro n
  obtain ⟨k, a, hwn⟩ := hw n
  obtain ⟨l, b, hfn⟩ := hf a (n + k)
  exact ⟨k + l, b, hwn.bind hfn⟩

theorem heedful_check : Heedful fun tok => tok.check := by
  intro n
  refine ⟨1, (), fun tok hunraised => ?_, fun tok i hn hi hraised _ => ?_⟩
  · show (if tok.raisedAt n then _ else _) = _
    rw [hunraised n (Nat.le_refl n) (Nat.lt_succ_self n)]
    rfl
  · obtain rfl : i = n := by omega
    show (if tok.raisedAt i then _ else _) = _
    rw [hraised]
    rfl

/-- A computation that checks the token before it starts. -/
theorem heedful_checked (h : Heedful w) : Heedful fun tok => (do tok.check; w tok) :=
  heedful_bind heedful_check fun _ => h

/-! ### Scans -/

variable {f : ImageId → Image → Option α}

/-- A scan reads the token once for every image, whatever is raised. -/
theorem exists_collect (tok : CancelToken) (l : List (ImageId × Image)) (n : Nat) :
    ∃ found, collect tok f l n = .ok (found, n + l.length)
      ∧ ((∀ i, n ≤ i → i < n + l.length → tok.raisedAt i = false) →
          found = l.filterMap fun e => (f e.1 e.2).map (e.1, ·)) := by
  induction l generalizing n with
  | nil => exact ⟨[], rfl, fun _ => rfl⟩
  | cons e l ih =>
    obtain ⟨id, image⟩ := e
    obtain ⟨rest, hrest, hall⟩ := ih (n + 1)
    have hlength : n + 1 + l.length = n + (l.length + 1) := by omega
    unfold collect
    rw [bind_of_whole (a := tok.raisedAt n) (k := n + 1) rfl, bind_of_whole hrest, hlength]
    cases hraised : tok.raisedAt n with
    | true =>
      refine ⟨rest, rfl, fun hunraised => ?_⟩
      rw [hunraised n (Nat.le_refl n) (Nat.lt_add_of_pos_right (Nat.succ_pos _))] at hraised
      cases hraised
    | false =>
      have hrest' : (∀ i, n ≤ i → i < n + (l.length + 1) → tok.raisedAt i = false) →
          rest = l.filterMap fun e => (f e.1 e.2).map (e.1, ·) := fun hunraised =>
        hall fun i hn hi => hunraised i (by omega) (by omega)
      cases hf : f id image with
      | none => exact ⟨rest, rfl, fun h => by simp [hf, hrest' h]⟩
      | some a => exact ⟨(id, a) :: rest, rfl, fun h => by simp [hf, hrest' h]⟩

/-- What a scan has found is only used if the token was not raised until it ended. -/
theorem heedful_scan (l : List (ImageId × Image)) (g : List (ImageId × α) → β) :
    Heedful fun tok => (do
      let found ← collect tok f l
      tok.check
      return g found) := by
  intro n
  -- What is found when nothing is skipped does not depend on the token.
  obtain ⟨all, -, hall⟩ := exists_collect (f := f) .never l n
  have hall := hall fun _ _ _ => rfl
  have hscan : ∀ tok : CancelToken, ∃ found : List (ImageId × α),
      ((do let found ← collect tok f l; tok.check; return g found) : Watched β) n
        = (if tok.raisedAt (n + l.length) then .error .cancelled
            else .ok (g found, n + (l.length + 1)))
      ∧ ((∀ i, n ≤ i → i < n + l.length → tok.raisedAt i = false) → found = all) := by
    intro tok
    obtain ⟨found, hfound, hwhole⟩ := exists_collect (f := f) tok l n
    refine ⟨found, ?_, fun h => (hwhole h).trans hall.symm⟩
    rw [bind_of_whole hfound]
    cases hraised : tok.raisedAt (n + l.length) with
    | true => exact bind_of_error (by rw [CancelToken.check, hraised]; rfl) _
    | false =>
      rw [bind_of_whole (a := ()) (k := n + l.length + 1) (by rw [CancelToken.check, hraised]; rfl)]
      rfl
  refine ⟨l.length + 1, g all, fun tok hunraised => ?_, fun tok i hn hi hraised hlasts => ?_⟩
  · obtain ⟨found, hresult, hwhole⟩ := hscan tok
    rw [hresult, hunraised _ (Nat.le_add_right _ _) (by omega),
      hwhole fun i hn hi => hunraised i hn (by omega)]
    rfl
  · -- The reading behind the scan would stop it alone, so it is raised after any raised reading.
    have hdecides : ((do
        let found ← collect (.raisedAtOnly (n + l.length)) f l
        CancelToken.check (.raisedAtOnly (n + l.length))
        return g found) : Watched β) n = .error .cancelled := by
      obtain ⟨found, hresult, -⟩ := hscan (.raisedAtOnly (n + l.length))
      rw [hresult, if_pos (by simp [CancelToken.raisedAtOnly])]
    have hlast := hlasts i (n + l.length) hn (by omega) (by omega) hraised hdecides
    obtain ⟨found, hresult, -⟩ := hscan tok
    show _ = _
    rw [hresult, if_pos hlast]

end

/-! ## Queries -/

section

variable (x : Index) (sim : Similarity)

theorem heedful_metatagMatches (m : Metatag) :
    Heedful fun tok => metatagMatches tok x sim m := by
  unfold metatagMatches
  split
  · exact heedful_scan _ _
  · exact heedful_scan _ _
  · exact heedful_scan _ _
  · unfold similarTo
    refine heedful_checked ?_
    by_cases hnone : ((references x m.pattern).filterMap (·.fingerprint)).isEmpty = true
    · simp only [hnone, if_true]
      exact heedful_pure _
    · simp only [if_neg hnone]
      exact heedful_scan _ _

variable {x sim}

/-- Further operands of a conjunction; a negated one is answered without its negation. -/
theorem heedful_narrow {es : List Expr}
    (hes : ∀ e ∈ es, (Heedful fun tok => run tok x sim e)
      ∧ ∀ d, e = .neg d → Heedful fun tok => run tok x sim d) (found : Matches) :
    Heedful fun tok => narrow tok x sim found es := by
  induction es generalizing found with
  | nil => exact heedful_pure found
  | cons e es ih =>
    have hes' := List.forall_mem_cons.mp hes
    by_cases hempty : found.isEmpty = true
    · simp only [narrow_of_isEmpty hempty]
      exact heedful_pure found
    · by_cases hneg : ∃ d, e = .neg d
      · obtain ⟨d, rfl⟩ := hneg
        simp only [narrow, if_neg hempty]
        exact heedful_bind (hes'.1.2 d rfl) fun m => ih hes'.2 _
      · simp only [narrow_cons fun d hd => hneg ⟨d, hd⟩, if_neg hempty]
        exact heedful_bind hes'.1.1 fun m => ih hes'.2 _

theorem heedful_runAny {es : List Expr} (hes : ∀ e ∈ es, Heedful fun tok => run tok x sim e)
    (found : Matches) : Heedful fun tok => runAny tok x sim found es := by
  induction es generalizing found with
  | nil => exact heedful_pure found
  | cons e es ih =>
    have hes' := List.forall_mem_cons.mp hes
    unfold runAny
    exact heedful_bind hes'.1 fun m => ih hes'.2 _

/-- **A planned query heeds the token**: it has no result if one of its readings is raised. -/
theorem heedful_run (e : Expr) : Heedful fun tok => run tok x sim e := by
  -- A negated operand of a conjunction is never run itself, only what it negates.
  suffices h : (Heedful fun tok => run tok x sim e)
      ∧ ∀ d, e = .neg d → Heedful fun tok => run tok x sim d from h.1
  induction e using Expr.induction with
  | nothing => exact ⟨heedful_checked (heedful_pure _), fun _ h => Expr.noConfusion h⟩
  | everything => exact ⟨heedful_checked (heedful_pure _), fun _ h => Expr.noConfusion h⟩
  | tag l => exact ⟨heedful_checked (heedful_pure _), fun _ h => Expr.noConfusion h⟩
  | metatag m => exact ⟨heedful_checked (heedful_metatagMatches x sim m), fun _ h => Expr.noConfusion h⟩
  | neg e ih =>
    refine ⟨heedful_checked (heedful_bind ih.1 fun m => heedful_pure _), fun d hd => ?_⟩
    exact Expr.neg.inj hd ▸ ih.1
  | all es ih =>
    refine ⟨heedful_checked ?_, fun _ h => Expr.noConfusion h⟩
    cases es with
    | nil => exact heedful_pure _
    | cons e es =>
      have ih' := List.forall_mem_cons.mp ih
      unfold runAll
      exact heedful_bind ih'.1.1 fun m => heedful_narrow ih'.2 m
  | any es ih =>
    exact ⟨heedful_checked (heedful_runAny (fun e he => (ih e he).1) _), fun _ h => Expr.noConfusion h⟩

end

/-! ## Evaluation -/

/-- The number of readings that an evaluation takes if it is not cancelled. -/
def readings (x : Index) (sim : Similarity) (e : Expr) : Nat :=
  match run .never x sim (plan x.postingSize e) 0 with
  | .error _ => 0
  | .ok (_, count) => count

/-- Whether the evaluation stops if the token is raised at the reading, even at no other. -/
def Decides (x : Index) (sim : Similarity) (e : Expr) (n : Nat) : Prop :=
  evaluate (.raisedAtOnly n) x sim e = .error .cancelled

/-- **Cancelling never leaves a part of an answer.**  Every evaluation that is not cancelled has an
answer.  If the token is raised from some reading on, the evaluation is cancelled when it gets so far
and has the same answer otherwise.  This is so as well if the images of a scan are looked at in any
order, so that raised readings are only known to be followed by raised ones where the evaluation
stops. -/
theorem evaluate_cancelled (x : Index) (sim : Similarity) (e : Expr) :
    ∃ m, evaluate .never x sim e = .ok m
      ∧ (∀ n, evaluate (.raisedFrom n) x sim e
          = if n < readings x sim e then .error .cancelled else .ok m)
      ∧ ∀ tok : CancelToken,
          (∀ i j, i ≤ j → Decides x sim e j → tok.raisedAt i = true → tok.raisedAt j = true) →
          evaluate tok x sim e = .error .cancelled ∨ evaluate tok x sim e = .ok m := by
  have hheeds : Heedful fun tok => run tok x sim (plan x.postingSize e) := heedful_run _
  obtain ⟨count, m, hrun⟩ := hheeds 0
  have hwhole : ∀ tok : CancelToken, (∀ i, i < count → tok.raisedAt i = false) →
      evaluate tok x sim e = .ok m := by
    intro tok hunraised
    have hresult := hrun.whole tok fun i _ hi => hunraised i (by omega)
    rw [evaluate, hresult]
  have hstops : ∀ (tok : CancelToken) (i : Nat), i < count → tok.raisedAt i = true →
      (∀ i j, i ≤ j → Decides x sim e j → tok.raisedAt i = true → tok.raisedAt j = true) →
      evaluate tok x sim e = .error .cancelled := by
    intro tok i hi hraised hlasts
    have hresult := hrun.stops tok i (Nat.zero_le i) (by omega) hraised
      fun i j _ hij _ hi hdecides => hlasts i j hij (by rw [Decides, evaluate, hdecides]) hi
    rw [evaluate, hresult]
  have hcount : readings x sim e = count := by
    rw [readings, hrun.whole .never fun _ _ _ => rfl]
    exact Nat.zero_add count
  refine ⟨m, hwhole .never fun _ _ => rfl, fun n => ?_, fun tok hlasts => ?_⟩
  · rw [hcount]
    by_cases hn : n < count
    · rw [if_pos hn]
      refine hstops _ n hn (decide_eq_true (Nat.le_refl n)) fun i j hij _ hi => ?_
      exact decide_eq_true (Nat.le_trans (of_decide_eq_true hi) hij)
    · rw [if_neg hn]
      exact hwhole _ fun i hi => decide_eq_false (by omega)
  · by_cases hraised : ∃ i, i < count ∧ tok.raisedAt i = true
    · obtain ⟨i, hi, hraised⟩ := hraised
      exact .inl (hstops tok i hi hraised hlasts)
    · refine .inr (hwhole tok fun i hi => ?_)
      exact Bool.eq_false_iff.mpr fun h => hraised ⟨i, hi, h⟩

end Gallery.Query
