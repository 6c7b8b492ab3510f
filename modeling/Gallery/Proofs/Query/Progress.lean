import Gallery.Proofs.Query.Descent
import Gallery.Proofs.Query.Faults

/-!
# `Gallery.Proofs.Query.Progress` — the descent ends, goes on and keeps count

The descent with a position and a counter is followed here next to the parser.  Where it stands, the
parser has the characters from that position on, and the counter has the number that the parser was
told.  So its loops end, since every operand takes a character, and the counter is back at its old
value behind every operand, since it is one less in front of a closing parenthesis than inside.

## Contents
- Equations for the branches of the parser, such as `parseAlternatives_of_plus`.
- `ends_delimited`, `ends_value`, `ends_word` for the pieces, and the mutual `ends_any` for the grammar,
  by induction over what is left.
- The result: `parse_bounded`.
-/

namespace Gallery.Query

open Gallery.Text

/-! ## What the parser reads -/

section

variable {n d : Nat} {s t : List Char} {c : Char} {e : Expr}

/-- A single operand needs no connective. -/
theorem ite_isEmpty_eq_joined (connective : List Expr → Expr) (e : Expr) (es : List Expr) :
    (if es.isEmpty then e else connective (e :: es)) = joined connective (e :: es) := by
  cases es <;> rfl

/-- The parser reads the first operand of a conjunction apart from the further ones. -/
theorem parseAll_of_factors :
    (∀ err, parseFactors n d s = .error err → parseAll n d s = .error err)
      ∧ (∀ r, parseFactors n d s = .ok ([], r) → parseAll n d s
          = faultAt n r.1 (if r.1.head? = some '+' then .danglingPlus else .expectedOperand))
      ∧ ∀ e es r, parseFactors n d s = .ok (e :: es, r) →
          ∃ h, parseAll n d s = .ok (joined .all (e :: es), ⟨r.1, h⟩) := by
  refine ⟨fun err h => ?_, fun r h => ?_, fun e es r h => ?_⟩
  · rw [parseFactors] at h
    rw [parseAll]
    dsimp only at h ⊢
    split at h
    · cases h
    · rename_i hends
      rw [if_neg hends]
      split at h
      · cases h
        rfl
      · split at h
        · cases h
          rfl
        · cases h
  · obtain ⟨hr, hends⟩ := gives_parseFactors_nil_iff.mp (gives_of_eq h)
    rw [hr] at hends ⊢
    rw [parseAll]
    exact if_pos hends
  · exact gives_parseAll_iff_factors.mpr ⟨e, es, rfl, gives_of_eq h⟩

/-- Behind a plus sign the parser reads a conjunction and goes on. -/
theorem parseAlternatives_of_plus (ht : (skipSpace s).1 = '+' :: t) :
    (endsOperands (skipSpace t).1 = true →
        parseAlternatives n d s = faultAt n ('+' :: t) .danglingPlus)
      ∧ ∀ err, endsOperands (skipSpace t).1 ≠ true →
          (parseAll n d (skipSpace t).1 = .error err
            ∨ ∃ e r, parseAll n d (skipSpace t).1 = .ok (e, r)
                ∧ parseAlternatives n d r.1 = .error err) →
          parseAlternatives n d s = .error err := by
  rw [parseAlternatives]
  dsimp only
  split
  · rename_i t' ht'
    obtain rfl : t' = t := (List.cons.inj (ht'.symm.trans ht)).2
    refine ⟨fun hends => ?_, fun err hends herror => ?_⟩
    · rw [if_pos hends, ht]
    · rw [if_neg hends]
      obtain herr | ⟨e, r, he, herr⟩ := herror
      · rw [herr]
      · rw [he]
        dsimp only
        rw [herr]
  · rename_i hnone
    exact absurd ht (hnone t)

/-- The checks in front of what a group encloses. -/
theorem parseUnary_open_of_check {fault : SyntaxFault}
    (h : (skipSpace s).1 = [] ∧ fault = .unclosedGroup
      ∨ (skipSpace s).1.head? = some ')' ∧ fault = .emptyGroup
      ∨ (skipSpace s).1 ≠ [] ∧ (skipSpace s).1.head? ≠ some ')' ∧ maxNesting ≤ d
          ∧ fault = .groupTooDeep) :
    parseUnary n d ('(' :: s) = faultAt n ('(' :: s) fault := by
  rw [parseUnary, if_neg (by decide), if_pos rfl, parseGroup]
  obtain ⟨hnil, rfl⟩ | ⟨hclose, rfl⟩ | ⟨hne, hclose, hd, rfl⟩ := h
  · rw [if_pos (List.isEmpty_iff.mpr hnil)]
    rfl
  · have hne : (skipSpace s).1.isEmpty ≠ true := by
      intro hnil
      rw [List.isEmpty_iff.mp hnil] at hclose
      cases hclose
    rw [if_neg hne, if_pos hclose]
    rfl
  · rw [if_neg (mt List.isEmpty_iff.mp hne), if_neg hclose, if_pos hd]
    rfl

/-- What a group encloses, and its closing parenthesis. -/
theorem parseUnary_open_of_fault (hne : (skipSpace s).1 ≠ [])
    (hclose : (skipSpace s).1.head? ≠ some ')') (hd : ¬maxNesting ≤ d) :
    (∀ err, parseAny n (d + 1) (skipSpace s).1 = .error err →
        parseUnary n d ('(' :: s) = .error err)
      ∧ ∀ e r, parseAny n (d + 1) (skipSpace s).1 = .ok (e, r) →
          (skipSpace r.1).1.head? ≠ some ')' →
          parseUnary n d ('(' :: s) = faultAt n ('(' :: s) .unclosedGroup := by
  rw [parseUnary, if_neg (by decide), if_pos rfl, parseGroup]
  rw [if_neg (mt List.isEmpty_iff.mp hne), if_neg hclose, if_neg hd]
  refine ⟨fun err herr => ?_, fun e r he hrest => ?_⟩
  · rw [herr]
  · rw [he]
    dsimp only
    split
    · rename_i hgroup
      split at hgroup
      · cases hgroup
      · cases hgroup
        rfl
    · rename_i hgroup
      split at hgroup
      · rename_i t ht
        exact absurd (congrArg List.head? ht) hrest
      · cases hgroup

/-- A word in front of a colon is read with the value behind it. -/
theorem word_of_colon (ht : (skipSpace (s.dropWhile isWord)).1 = ':' :: t) :
    ∃ hlt : ∀ r : Rest (skipSpace t).1, r.1.length < (c :: s).length,
      word n c s = match Key.ofKeyword? (String.ofList (c :: s.takeWhile isWord)) with
        | none =>
          faultAt n (c :: s) (.unknownMetatag (String.ofList (c :: s.takeWhile isWord)))
        | some key =>
          match value n key (skipSpace t).1 with
          | .error err => .error err
          | .ok (e, r) => .ok (e, ⟨r.1, hlt r⟩) := by
  have hlt : ∀ r : Rest (skipSpace t).1, r.1.length < (c :: s).length := by
    intro r
    have hafter := (Rest.dropWhile isWord s).2
    have hcolon := (skipSpace (s.dropWhile isWord)).2
    have hspace := (skipSpace t).2
    have hr := r.2
    rw [ht, List.length_cons] at hcolon
    rw [List.length_cons]
    exact Nat.lt_succ_of_le (Nat.le_trans (Nat.le_trans (Nat.le_trans hr hspace)
      (Nat.le_of_succ_le hcolon)) hafter)
  refine ⟨hlt, ?_⟩
  unfold word
  dsimp only
  split
  · rename_i t' ht'
    obtain rfl : t' = t := (List.cons.inj (ht'.symm.trans ht)).2
    rfl
  · rename_i hnone
    exact absurd ht (hnone t)

end

namespace Descent

variable {cs : Input} {s t : List Char} {d : Nat} {σ τ : State} {c : Char}

/-! ## Words and values -/

/-- The fault of a text that does not end is reported where `σ` stands. -/
theorem ends_delimited {close : Char} (hclose : close ≠ '\\') {unterminated : SyntaxFault}
    (hσ : Stands cs t d σ) (hτ : Stands cs s d τ) :
    Ends τ (cs.delimited σ.position close unterminated)
      (Agrees cs d ((Query.delimited close s).elim (faultAt cs.length t unterminated) .ok)) := by
  fun_induction Query.delimited close s generalizing τ with
  | case1 =>
    rw [Input.delimited]
    exact ends_advance_nil hτ (ends_fault hσ hτ.sound rfl)
  | case2 c s hnone ih =>
    rw [Input.delimited]
    refine ends_advance hτ fun τ hτ => ?_
    simp only [if_neg hclose.symm, if_true]
    refine ends_advance hτ fun τ hτ => ?_
    rw [hnone] at ih
    refine ends_map (ih hτ) ?_ nofun
    rintro err ⟨⟩
    rfl
  | case3 c s source r hsome ih =>
    rw [Input.delimited]
    refine ends_advance hτ fun τ hτ => ?_
    simp only [if_neg hclose.symm, if_true]
    refine ends_advance hτ fun τ hτ => ?_
    rw [hsome] at ih
    refine ends_map (ih hτ) nofun ?_
    rintro source r ⟨⟩
    exact ⟨_, rfl⟩
  | case4 s =>
    rw [Input.delimited]
    refine ends_advance hτ fun τ hτ => ?_
    simp only [if_true]
    exact ends_pure rfl hτ
  | case5 c s hlone hc hnone ih =>
    rw [Input.delimited]
    refine ends_advance hτ fun τ hτ => ?_
    rw [hnone] at ih
    have herror : Ends τ (do return c :: (← cs.delimited σ.position close unterminated))
        (Agrees cs d (faultAt cs.length t unterminated : Except QueryError (_ × Rest (c :: s)))) := by
      refine ends_map (ih hτ) ?_ nofun
      rintro err ⟨⟩
      rfl
    by_cases hescape : c = '\\'
    · -- A backslash at the very end protects nothing.
      cases s with
      | nil =>
        simp only [if_neg hc, if_pos hescape]
        exact ends_advance_nil hτ (hescape ▸ herror)
      | cons c' s => exact (hlone c' s hescape rfl).elim
    · simp only [if_neg hc, if_neg hescape]
      exact herror
  | case6 c s hlone hc source r hsome ih =>
    have hescape : c ≠ '\\' := by
      intro hescape
      cases s with
      | nil => cases hsome
      | cons c' s => exact hlone c' s hescape rfl
    rw [Input.delimited]
    refine ends_advance hτ fun τ hτ => ?_
    simp only [if_neg hc, if_neg hescape]
    rw [hsome] at ih
    refine ends_map (ih hτ) nofun ?_
    rintro source r ⟨⟩
    exact ⟨_, rfl⟩

/-- The value of a metatag is compiled by the same function. -/
theorem ends_metatag {key : Key} {kind : PatternKind} {source : List Char} {r : Rest s}
    (h : Stands cs r.1 d τ) :
    Ends τ (liftExcept (metatag key kind source)) (Agrees cs d (metatagWith key kind source r)) := by
  unfold metatagWith
  cases metatag key kind source with
  | error err => exact ⟨_, _, rfl, rfl, h.sound⟩
  | ok e => exact ⟨_, _, rfl, rfl, h⟩

/-- A value between delimiters. -/
theorem ends_enclosed {close : Char} (hclose : close ≠ '\\') {unterminated : SyntaxFault}
    {key : Key} {kind : PatternKind} (hσ : Stands cs (c :: s) d σ) (hτ : Stands cs s d τ) :
    Ends τ (do
        let source ← cs.delimited σ.position close unterminated
        liftExcept (metatag key kind source))
      (Agrees cs d (match Query.delimited close s with
        | none => faultAt cs.length (c :: s) unterminated
        | some (source, t) => metatagWith key kind source (t.ofTail : Rest (c :: s)))) := by
  refine ends_bind_agrees (ends_delimited hclose hσ hτ) ?_ ?_
  · intro err υ herr hυ
    cases hdelimited : Query.delimited close s with
    | none =>
      rw [hdelimited] at herr
      cases herr
      exact ⟨rfl, hυ⟩
    | some y =>
      rw [hdelimited] at herr
      cases herr
  · intro source r υ hsome hυ
    cases hdelimited : Query.delimited close s with
    | none =>
      rw [hdelimited] at hsome
      cases hsome
    | some y =>
      rw [hdelimited] at hsome
      cases hsome
      exact ends_metatag hυ

theorem ends_value {key : Key} (h : Stands cs s d σ) :
    Ends σ (cs.value key) (Agrees cs d (Query.value cs.length key s)) := by
  unfold Input.value
  refine ends_get (ends_peek h ?_)
  cases s with
  | nil => exact ends_fault h h.sound rfl
  | cons c s =>
    simp only [List.head?_cons, Query.value]
    split
    · exact ends_advance h fun τ hτ => ends_enclosed (by decide) h hτ
    split
    · exact ends_advance h fun τ hτ => ends_enclosed (by decide) h hτ
    split
    · refine ends_skipWhile h fun τ hτ => ?_
      exact ends_since h hτ (ends_metatag hτ)
    · exact ends_fault h h.sound rfl

theorem ends_word (h : Stands cs (c :: s) d σ) (hc : isWord c = true) :
    Ends σ cs.word (Agrees cs d (Query.word cs.length c s)) := by
  have htake : (c :: s).takeWhile isWord = c :: s.takeWhile isWord := List.takeWhile_cons_of_pos hc
  have hdrop : (c :: s).dropWhile isWord = s.dropWhile isWord := List.dropWhile_cons_of_pos hc
  unfold Input.word
  refine ends_call h (fun e r he => ?_) ?_
  · exact ((gives_word_iff hc).mp (gives_of_eq he)).within.mono (by decide)
  refine ends_skipWhile h fun τ hτ => ends_since h hτ (ends_get ?_)
  rw [htake]
  rw [hdrop] at hτ
  refine ends_skipBlanks hτ fun υ hυ => ends_peek hυ ?_
  by_cases hcolon : (skipSpace (s.dropWhile isWord)).1.head? = some ':'
  · rw [if_pos hcolon]
    obtain ⟨t, ht⟩ := List.head?_eq_some_iff.mp hcolon
    obtain ⟨hlt, hword⟩ := word_of_colon (n := cs.length) (c := c) ht
    rw [ht] at hυ
    rw [hword]
    cases Key.ofKeyword? (String.ofList (c :: s.takeWhile isWord)) with
    | none => exact ends_fault h hυ.sound rfl
    | some key =>
      refine ends_advance hυ fun τ hτ => ends_skipBlanks hτ fun τ hτ => ?_
      refine (ends_value hτ).retype (fun err herr => ?_) fun e r he => ⟨hlt r, ?_⟩
      · dsimp only
        rw [herr]
      · dsimp only
        rw [he]
  · rw [if_neg hcolon]
    have hword : Query.word cs.length c s
        = .ok (.tag (String.ofList (c :: s.takeWhile isWord)),
            Shorter.ofTail (Rest.dropWhile isWord s)) := by
      unfold Query.word
      dsimp only
      split
      · rename_i t ht
        exact absurd (congrArg List.head? ht) hcolon
      · rfl
    exact ends_moveTo hτ hυ.sound hυ.depth_eq fun τ hτ => ends_pure hword hτ

/-! ## The grammar -/

mutual

theorem ends_any {s : List Char} {d : Nat} {σ : State} (h : Stands cs s d σ)
    (hd : d ≤ maxNesting) :
    Ends σ cs.any (Agrees cs d (parseAny cs.length d s)) := by
  rw [Input.any]
  refine ends_call h (fun e r he => within_of_parseAny he hd) ?_
  refine ends_bind_agrees (ends_all h hd) (fun err τ herr hτ => ?_) fun e r τ he hτ => ?_
  · exact agrees_error (by rw [parseAny, herr]) hτ
  · have hr := r.2
    refine ends_map (ends_alternatives hτ hd) (fun err herr => ?_) fun es t hes => ?_
    · rw [parseAny, he]
      dsimp only
      rw [herr]
    · refine ⟨Nat.lt_of_le_of_lt t.2 hr, ?_⟩
      rw [parseAny, he]
      dsimp only
      rw [hes]
      dsimp only
      rw [ite_isEmpty_eq_joined]
      rfl
termination_by 6 * s.length + 5

theorem ends_alternatives {s : List Char} {d : Nat} {σ : State} (h : Stands cs s d σ)
    (hd : d ≤ maxNesting) :
    Ends σ cs.alternatives (Agrees cs d (parseAlternatives cs.length d s)) := by
  rw [Input.alternatives]
  refine ends_skipBlanks h fun τ hτ => ends_get (ends_peek hτ ?_)
  by_cases hplus : (skipSpace s).1.head? = some '+'
  · rw [if_pos hplus]
    obtain ⟨t, ht⟩ := List.head?_eq_some_iff.mp hplus
    obtain ⟨hdangling, herror⟩ := parseAlternatives_of_plus (n := cs.length) (d := d) ht
    have hnext : (skipSpace t).1.length < s.length := by
      have hs := (skipSpace s).2
      rw [ht, List.length_cons] at hs
      exact Nat.lt_of_le_of_lt (skipSpace t).2 hs
    rw [ht] at hτ
    refine ends_advance hτ fun υ hυ => ends_skipBlanks hυ fun υ hυ => ?_
    refine ends_endsHere hυ ?_
    by_cases hends : endsOperands (skipSpace t).1 = true
    · rw [if_pos hends]
      exact ends_fault hτ hυ.sound (hdangling hends)
    · rw [if_neg hends]
      refine ends_bind_agrees (ends_all hυ hd) (fun err φ herr hφ => ?_) fun e r φ he hφ => ?_
      · exact agrees_error (herror err hends (.inl herr)) hφ
      · have hr := r.2
        refine ends_map (ends_alternatives hφ hd) (fun err herr => ?_) fun es u hes => ?_
        · exact herror err hends (.inr ⟨e, r, he, herr⟩)
        · exact gives_parseAlternatives_cons_iff.mpr ⟨t, r.1, ht, gives_of_eq he, gives_of_eq hes⟩
  · rw [if_neg hplus]
    have hdone : Gives (parseAlternatives cs.length d s) [] (skipSpace s).1 := by
      refine gives_parseAlternatives_nil_iff.mpr ⟨rfl, fun t ht => hplus ?_⟩
      rw [ht]
      rfl
    obtain ⟨hr, hdone⟩ := hdone
    exact ends_pure hdone hτ
termination_by 6 * s.length + 4

theorem ends_all {s : List Char} {d : Nat} {σ : State} (h : Stands cs s d σ)
    (hd : d ≤ maxNesting) :
    Ends σ cs.all (Agrees cs d (parseAll cs.length d s)) := by
  rw [Input.all]
  obtain ⟨herror, hnil, hcons⟩ := parseAll_of_factors (n := cs.length) (d := d) (s := s)
  refine ends_call h (fun e r he => within_of_parseAll he hd) ?_
  refine ends_bind_agrees (ends_factors h hd) (fun err τ herr hτ => ?_)
    fun es r τ hes hτ => ?_
  · exact agrees_error (herror err herr) hτ
  · cases es with
    | nil =>
      exact ends_get (ends_peek hτ (ends_fault hτ hτ.sound (hnil r hes)))
    | cons e es =>
      obtain ⟨hr, hresult⟩ := hcons e es r hes
      exact ends_pure hresult hτ
termination_by 6 * s.length + 4

theorem ends_factors {s : List Char} {d : Nat} {σ : State} (h : Stands cs s d σ)
    (hd : d ≤ maxNesting) :
    Ends σ cs.factors (Agrees cs d (parseFactors cs.length d s)) := by
  rw [Input.factors]
  refine ends_skipBlanks h fun τ hτ => ends_endsHere hτ ?_
  have hb := (skipSpace s).2
  by_cases hends : endsOperands (skipSpace s).1 = true
  · rw [if_pos hends]
    exact ends_pure (by rw [parseFactors]; exact if_pos hends) hτ
  · rw [if_neg hends]
    refine ends_bind_agrees (ends_unary hτ hd) (fun err υ herr hυ => ?_) fun e r υ he hυ => ?_
    · exact agrees_error (by rw [parseFactors]; dsimp only; rw [if_neg hends, herr]) hυ
    · have hr := r.2
      refine ends_map (ends_factors hυ hd) (fun err herr => ?_) fun es t hes => ?_
      · rw [parseFactors]
        dsimp only
        rw [if_neg hends, he]
        dsimp only
        rw [herr]
      · exact gives_parseFactors_cons_iff.mpr ⟨r.1, gives_of_eq he, gives_of_eq hes⟩
termination_by 6 * s.length + 3

theorem ends_unary {s : List Char} {d : Nat} {σ : State} (h : Stands cs s d σ)
    (hd : d ≤ maxNesting) :
    Ends σ cs.unary (Agrees cs d (parseUnary cs.length d s)) := by
  rw [Input.unary]
  refine ends_call h (fun e r he => within_of_parseUnary he hd) (ends_peek h ?_)
  by_cases hminus : s.head? = some '-'
  · rw [if_pos hminus]
    obtain ⟨t, rfl⟩ := List.head?_eq_some_iff.mp hminus
    refine ends_advance h fun τ hτ => ends_peek hτ ?_
    have hsame : (t.head?.all fun c => c == '+' || c == ')' || isWhitespace c)
        = (endsOperands t || t.head?.any isWhitespace) := by cases t <;> rfl
    rw [hsame]
    by_cases hdangling : (endsOperands t || t.head?.any isWhitespace) = true
    · rw [if_pos hdangling]
      exact ends_fault h hτ.sound (by rw [parseUnary, if_pos rfl, if_pos hdangling])
    · rw [if_neg hdangling]
      refine ends_count hτ (Nat.succ_le_succ hd) fun υ hυ => ends_get ?_
      rw [hυ.depth_eq]
      by_cases hfull : maxNesting ≤ d
      · rw [if_pos (Nat.lt_succ_of_le hfull)]
        refine ends_fault h hυ.sound ?_
        rw [parseUnary, if_pos rfl, if_neg hdangling, if_pos hfull]
      · rw [if_neg (by omega)]
        refine ends_bind_agrees (ends_unary hυ (by omega)) (fun err φ herr hφ => ?_)
          fun e r φ he hφ => ?_
        · refine agrees_error ?_ hφ
          rw [parseUnary, if_pos rfl, if_neg hdangling, if_neg hfull, herr]
        · have hresult : parseUnary cs.length d ('-' :: t)
              = .ok (.neg e, Shorter.ofTail (Shorter.toRest r)) := by
            rw [parseUnary, if_pos rfl, if_neg hdangling, if_neg hfull, he]
          exact ends_count hφ (Nat.le_succ_of_le hd) fun ψ hψ => ends_pure hresult hψ
  · rw [if_neg hminus]
    exact ends_primary h hd hminus
termination_by 6 * s.length + 2

theorem ends_primary {s : List Char} {d : Nat} {σ : State} (h : Stands cs s d σ)
    (hd : d ≤ maxNesting) (hminus : s.head? ≠ some '-') :
    Ends σ cs.primary (Agrees cs d (parseUnary cs.length d s)) := by
  rw [Input.primary]
  refine ends_call h (fun e r he => within_of_parseUnary he hd) (ends_peek h ?_)
  cases s with
  | nil => exact ends_fault h h.sound (by rw [parseUnary])
  | cons c s =>
    have hminus : c ≠ '-' := fun hc => hminus (congrArg some hc)
    dsimp only [List.head?_cons]
    by_cases hopen : c = '('
    · subst hopen
      rw [if_pos rfl]
      exact ends_group h hd
    rw [if_neg hopen]
    by_cases hword : isWord c = true
    · rw [if_pos hword, parseUnary, if_neg hminus, if_neg hopen, if_pos hword]
      exact ends_word h hword
    · rw [if_neg hword]
      refine ends_fault h h.sound ?_
      rw [parseUnary, if_neg hminus, if_neg hopen, if_neg hword]
termination_by 6 * s.length + 1

theorem ends_group {s : List Char} {d : Nat} {σ : State} (h : Stands cs ('(' :: s) d σ)
    (hd : d ≤ maxNesting) :
    Ends σ cs.group (Agrees cs d (parseUnary cs.length d ('(' :: s))) := by
  rw [Input.group]
  refine ends_call h (fun e r he => within_of_parseUnary he hd) ?_
  refine ends_advance h fun τ hτ => ?_
  refine ends_skipBlanks hτ fun τ hτ => ends_peek hτ ?_
  have hb := (skipSpace s).2
  cases hfirst : (skipSpace s).1.head? with
  | none =>
    have hnil := List.head?_eq_none_iff.mp hfirst
    exact ends_fault h hτ.sound (parseUnary_open_of_check (.inl ⟨hnil, rfl⟩))
  | some c =>
    have hne : (skipSpace s).1 ≠ [] := by
      intro hnil
      rw [hnil] at hfirst
      cases hfirst
    dsimp only
    by_cases hc : c = ')'
    · rw [if_pos hc]
      rw [hc] at hfirst
      exact ends_fault h hτ.sound (parseUnary_open_of_check (.inr (.inl ⟨hfirst, rfl⟩)))
    rw [if_neg hc]
    have hclose : (skipSpace s).1.head? ≠ some ')' := by
      rw [hfirst]
      exact fun heq => hc (Option.some.inj heq)
    refine ends_count hτ (Nat.succ_le_succ hd) fun υ hυ => ends_get ?_
    rw [hυ.depth_eq]
    by_cases hfull : maxNesting ≤ d
    · rw [if_pos (Nat.lt_succ_of_le hfull)]
      exact ends_fault h hυ.sound
        (parseUnary_open_of_check (.inr (.inr ⟨hne, hclose, hfull, rfl⟩)))
    rw [if_neg (by omega)]
    obtain ⟨herror, hunclosed⟩ := parseUnary_open_of_fault (n := cs.length) hne hclose hfull
    refine ends_bind_agrees (ends_any hυ (by omega)) (fun err φ herr hφ => ?_)
      fun e r φ he hφ => ?_
    · exact agrees_error (herror err herr) hφ
    refine ends_count hφ (Nat.le_succ_of_le hd) fun ψ hψ => ?_
    refine ends_skipBlanks hψ fun ψ hψ => ?_
    have hunclosed := hunclosed e r he
    cases hrest : (skipSpace r.1).1 with
    | nil =>
      rw [hrest] at hψ hunclosed
      refine ends_advance_nil hψ ?_
      rw [if_neg (by decide)]
      exact ends_fault h hψ.sound (hunclosed (by decide))
    | cons c t =>
      rw [hrest] at hψ hunclosed
      refine ends_advance hψ fun χ hχ => ?_
      by_cases hc : c = ')'
      · subst hc
        rw [if_pos rfl]
        obtain ⟨hr, hresult⟩ := gives_parseUnary_open_iff.mpr
          ⟨Nat.lt_of_not_le hfull, r.1, gives_of_eq he, hrest⟩
        exact ends_pure hresult hχ
      · have hc : some c ≠ some ')' := fun heq => hc (Option.some.inj heq)
        rw [if_neg hc]
        exact ends_fault h hχ.sound (hunclosed hc)
termination_by 6 * (s.length + 1)

end

/-! ## The result -/

theorem ends_parse {text : String} (h : Stands text.toList text.toList 0 σ) :
    Ends σ (Input.parse text.toList) fun x τ =>
      x = Query.parse text ∧ τ.Sound text.toList.length := by
  have hposition : ∀ {s : List Char} {d : Nat} {τ : State}, Stands text.toList s d τ →
      τ.position = text.toList.length - s.length := fun hτ => by
    have hlength := hτ.add_length
    omega
  unfold Input.parse Query.parse
  dsimp only
  refine ends_skipBlanks h fun τ hτ => ends_get (ends_peek hτ ?_)
  by_cases hempty : (skipSpace text.toList).1.isEmpty = true
  · rw [if_pos (by simpa using hempty), if_pos hempty, hposition hτ]
    exact ⟨_, _, rfl, rfl, hτ.sound⟩
  rw [if_neg (by simpa using hempty), if_neg hempty]
  refine ends_bind_agrees (ends_any hτ (Nat.zero_le _)) (fun err υ herr hυ => ?_)
    fun e r υ he hυ => ?_
  · rw [herr]
    exact ⟨rfl, hυ⟩
  rw [he]
  refine ends_skipBlanks hυ fun υ hυ => ends_get (ends_peek hυ ?_)
  dsimp only
  cases hrest : (skipSpace r.1).1 with
  | nil => exact ⟨_, _, rfl, rfl, hυ.sound⟩
  | cons c t =>
    rw [hrest] at hυ
    dsimp only [List.head?_cons]
    rw [hposition hυ]
    by_cases hc : c = ')'
    · subst hc
      exact ⟨_, _, rfl, rfl, hυ.sound⟩
    · rw [if_neg hc]
      refine ⟨_, _, rfl, ?_, hυ.sound⟩
      split
      · contradiction
      · rename_i hclose
        exact absurd (List.cons.inj hclose).1 hc
      · rename_i hother
        obtain ⟨rfl, rfl⟩ := List.cons.inj hother
        rfl

end Descent

/-- **Reading a query ends, goes on and keeps count.**  The descent ends on every text with the answer
of the parser.  Every call that succeeds has moved the position, within the text, and left the counter
as it was; the counter never exceeds 129.  Faults are reported in the text, and no path of a tree that
is returned has more than 259 nodes, however long the text is. -/
theorem parse_bounded (text : String) :
    ∃ τ, descend text = some (parse text, τ)
      ∧ (∀ routine before after e, .returns routine before after e ∈ τ.trace →
          before.position < after.position ∧ after.position ≤ text.toList.length
            ∧ after.depth = before.depth ∧ e.Within 259)
      ∧ (∀ depth, .counts depth ∈ τ.trace → depth ≤ 129)
      ∧ (∀ err, parse text = .error (.malformed err) → err.position ≤ text.toList.length)
      ∧ ∀ e, parse text = .ok e → e.Within 259 := by
  have hstart : Descent.Stands text.toList text.toList 0 ⟨⟨0, 0⟩, []⟩ :=
    ⟨rfl, Nat.zero_le _, rfl, fun _ h => nomatch h⟩
  obtain ⟨x, τ, hrun, rfl, hsound⟩ := Descent.ends_parse hstart
  refine ⟨τ, hrun, fun routine before after e h => hsound _ h, fun depth h => hsound _ h,
    fun err herr => ?_, fun e he => ?_⟩
  · cases parse_error herr with
    | malformed fault h => exact h
  · exact (parse_eq_ok_iff.mp he).within

/-- The counter is raised for what a minus sign negates, and lowered again. -/
example : descend "-a" = some (.ok (.neg (.tag "a")), ⟨⟨2, 0⟩,
    [.returns .any ⟨0, 0⟩ ⟨2, 0⟩ (.neg (.tag "a")), .returns .all ⟨0, 0⟩ ⟨2, 0⟩ (.neg (.tag "a")),
      .returns .unary ⟨0, 0⟩ ⟨2, 0⟩ (.neg (.tag "a")), .counts 0,
      .returns .unary ⟨1, 1⟩ ⟨2, 1⟩ (.tag "a"), .returns .primary ⟨1, 1⟩ ⟨2, 1⟩ (.tag "a"),
      .returns .word ⟨1, 1⟩ ⟨2, 1⟩ (.tag "a"), .counts 1]⟩) := by cbv

end Gallery.Query
