import Gallery.Proofs.Query.Grammar

/-!
# `Gallery.Proofs.Query.Parsing` — the parser reads exactly the grammar

Every function of the parser is described by when it succeeds.  For the functions that read a list
of operands the description goes by the list that they return, so that no argument about lengths is
needed; from one nesting to the next it goes by how many minus signs and parentheses may still be
opened.

## Contents
- `Gives`, a reader succeeds; `gives_delimited_iff`, `gives_value_iff`, `gives_word_iff` for the
  pieces.
- One inversion for each branch of the descent, such as `gives_parseUnary_minus_iff`.
- `gives_parseFactors_iff`, `gives_parseAll_iff`, `gives_parseAlternatives_iff` and
  `gives_parseAny_iff`, the lists of operands; `gives_parseUnary_iff`, one operand.
- `parse_eq_ok_iff`, the query of a whole text, and what follows for groups in a row.
-/

namespace Gallery.Query

open Gallery.Text

/-! ## Readers -/

/-- The reader succeeds with `a` and leaves `r`. -/
def Gives {α : Type} {P : List Char → Prop} (x : Except QueryError (α × { r // P r })) (a : α)
    (r : List Char) : Prop := ∃ h : P r, x = .ok (a, ⟨r, h⟩)

section

variable {α : Type} {P : List Char → Prop} {a b : α} {r : List Char}

theorem gives_ok_iff {t : { r // P r }} :
    Gives (.ok (a, t) : Except QueryError (α × { r // P r })) b r ↔ b = a ∧ r = t.1 := by
  constructor
  · rintro ⟨h, heq⟩
    cases heq
    exact ⟨rfl, rfl⟩
  · rintro ⟨rfl, rfl⟩
    exact ⟨t.2, rfl⟩

theorem not_gives_error {e : QueryError} :
    ¬Gives (.error e : Except QueryError (α × { r // P r })) b r := by
  rintro ⟨h, heq⟩
  cases heq

theorem not_gives_faultAt {size : Nat} {s : List Char} {fault : SyntaxFault} :
    ¬Gives (faultAt size s fault : Except QueryError (α × { r // P r })) b r := not_gives_error

theorem gives_of_eq {x : Except QueryError (α × { r // P r })} {t : { r // P r }}
    (h : x = .ok (a, t)) : Gives x a t.1 := ⟨t.2, h⟩

end

/-! ## Words and values -/

variable {size d n : Nat} {s t u r source : List Char} {e : Expr} {es : List Expr}

/-- The closing delimiter is the first one that is not protected. -/
theorem gives_delimited_iff {close : Char} (hclose : close ≠ '\\') :
    (∃ h, delimited close s = some (source, ⟨r, h⟩)) ↔ Delimited close source s r := by
  constructor
  · rintro ⟨h, heq⟩
    fun_induction delimited close s generalizing source r with
    | case1 => cases heq
    | case2 => cases heq
    | case3 c rest source' r' hrest ih =>
      cases heq
      exact .escaped c (ih r'.2 hrest)
    | case4 rest =>
      cases heq
      exact .closed rest
    | case5 => cases heq
    | case6 c rest hlone hc source' r' hrest ih =>
      cases heq
      refine .char hc ?_ (ih r'.2 hrest)
      -- A backslash at the very end protects nothing, and then no delimiter follows.
      rintro rfl
      cases rest with
      | nil => cases hrest
      | cons c rest => exact hlone c rest rfl rfl
  · intro h
    induction h with
    | closed r =>
      refine ⟨Nat.le_succ _, ?_⟩
      rw [delimited, if_pos rfl]
      · rfl
      · exact fun _ _ heq _ => hclose heq
    | escaped c _ ih =>
      obtain ⟨h, heq⟩ := ih
      exact ⟨_, by rw [delimited, heq]; rfl⟩
    | char hc hb _ ih =>
      obtain ⟨h, heq⟩ := ih
      refine ⟨Nat.le_succ_of_le h, ?_⟩
      rw [delimited, if_neg hc, heq]
      · rfl
      · exact fun _ _ heq _ => hb heq

theorem gives_metatagWith_iff {key : Key} {kind : PatternKind} {t : Rest s} :
    Gives (metatagWith key kind source t) e r
      ↔ ∃ p, Pattern.make kind (String.ofList source) key.ignoresCase = .ok p
          ∧ e = .metatag ⟨key, p⟩ ∧ r = t.1 := by
  unfold metatagWith metatag
  cases Pattern.make kind (String.ofList source) key.ignoresCase with
  | error err => simp [not_gives_error]
  | ok p => simp [gives_ok_iff]

/-- A value between delimiters. -/
theorem gives_enclosed_iff {close c : Char} (hclose : close ≠ '\\') {key : Key} {kind : PatternKind}
    {fault : SyntaxFault} :
    Gives (match delimited close s with
        | none => faultAt size (c :: s) fault
        | some (source, t) => metatagWith key kind source (t.ofTail : Rest (c :: s))) e r
      ↔ ∃ source p, Delimited close source s r
          ∧ Pattern.make kind (String.ofList source) key.ignoresCase = .ok p
          ∧ e = .metatag ⟨key, p⟩ := by
  constructor
  · intro h
    split at h
    · exact absurd h not_gives_faultAt
    · rename_i source t ht
      obtain ⟨p, hp, he, rfl⟩ := gives_metatagWith_iff.mp h
      exact ⟨source, p, (gives_delimited_iff hclose).mp ⟨t.2, ht⟩, hp, he⟩
  · rintro ⟨source, p, hs, hp, he⟩
    obtain ⟨h, ht⟩ := (gives_delimited_iff hclose).mpr hs
    rw [ht]
    exact gives_metatagWith_iff.mpr ⟨p, hp, he, rfl⟩

/-- A bare value does not begin like one between delimiters. -/
theorem not_run_isValueChar {c : Char} {w : List Char} (hc : isValueChar c = false) :
    ¬Run isValueChar w (c :: s) r := by
  intro h
  obtain ⟨rfl, -, hne⟩ := run_iff.mp h
  rw [List.takeWhile_cons, hc] at hne
  exact hne rfl

/-- The value of a metatag goes by its first character. -/
theorem gives_value_iff {key : Key} :
    Gives (value size key s) e r ↔ ∃ kind source p, Value kind source s r
      ∧ Pattern.make kind (String.ofList source) key.ignoresCase = .ok p
      ∧ e = .metatag ⟨key, p⟩ := by
  unfold value
  cases s with
  | nil =>
    constructor
    · exact fun h => absurd h not_gives_faultAt
    · rintro ⟨kind, source, p, hv, -⟩
      cases hv with
      | bare h => exact absurd (List.append_eq_nil_iff.mp h.eq_append.symm).1 h.ne_nil
  | cons c s =>
    by_cases hquote : c = '"'
    · subst hquote
      refine (gives_enclosed_iff (by decide)).trans ?_
      constructor
      · rintro ⟨source, p, hs, hp⟩
        exact ⟨.glob, source, p, .quoted hs, hp⟩
      · rintro ⟨kind, source, p, hv, hp⟩
        cases hv with
        | quoted hs => exact ⟨source, p, hs, hp⟩
        | bare h => exact absurd h (not_run_isValueChar (by decide))
    by_cases hslash : c = '/'
    · subst hslash
      refine (gives_enclosed_iff (by decide)).trans ?_
      constructor
      · rintro ⟨source, p, hs, hp⟩
        exact ⟨.regex, source, p, .slashed hs, hp⟩
      · rintro ⟨kind, source, p, hv, hp⟩
        cases hv with
        | slashed hs => exact ⟨source, p, hs, hp⟩
        | bare h => exact absurd h (not_run_isValueChar (by decide))
    have hbare : ∀ {kind source}, Value kind source (c :: s) r
        ↔ kind = .glob ∧ Run isValueChar source (c :: s) r := by
      intro kind source
      constructor
      · rintro (h | h | h)
        · exact absurd rfl hquote
        · exact absurd rfl hslash
        · exact ⟨rfl, h⟩
      · rintro ⟨rfl, h⟩
        exact .bare h
    simp only [if_neg hquote, if_neg hslash, hbare]
    cases hc : isValueChar c with
    | false =>
      constructor
      · exact fun h => absurd h not_gives_faultAt
      · rintro ⟨kind, source, p, ⟨-, h⟩, -⟩
        exact absurd h (not_run_isValueChar hc)
    | true =>
      refine gives_metatagWith_iff.trans ?_
      have hne : (c :: s).takeWhile isValueChar ≠ [] := by
        rw [List.takeWhile_cons, hc]
        exact List.cons_ne_nil _ _
      constructor
      · rintro ⟨p, hp, he, rfl⟩
        exact ⟨.glob, _, p, ⟨rfl, run_iff.mpr ⟨rfl, rfl, hne⟩⟩, hp, he⟩
      · rintro ⟨kind, source, p, ⟨rfl, h⟩, hp, he⟩
        obtain ⟨rfl, rfl, -⟩ := run_iff.mp h
        exact ⟨p, hp, he, rfl⟩

/-- A word goes by whether a colon follows it. -/
theorem gives_word_iff {c : Char} (hc : isWord c = true) :
    Gives (word size c s) e r ↔ Word e (c :: s) r := by
  have hrun : ∀ {w t}, Run isWord w (c :: s) t
      ↔ w = c :: s.takeWhile isWord ∧ t = s.dropWhile isWord := by
    intro w t
    rw [run_iff, List.takeWhile_cons_of_pos hc, List.dropWhile_cons_of_pos hc]
    constructor
    · exact fun ⟨hw, ht, _⟩ => ⟨hw, ht⟩
    · rintro ⟨rfl, rfl⟩
      exact ⟨rfl, rfl, List.cons_ne_nil _ _⟩
  have hcolon : ∀ {t}, Spaces (s.dropWhile isWord) (':' :: t)
      ↔ (skipSpace (s.dropWhile isWord)).1 = ':' :: t := spaces_cons_iff (by decide)
  constructor
  · intro h
    unfold word at h
    dsimp only at h
    split at h
    · rename_i t ht
      split at h
      · exact absurd h not_gives_faultAt
      · rename_i key hkey
        split at h
        · exact absurd h not_gives_error
        · rename_i e' t' hvalue
          obtain ⟨rfl, rfl⟩ := gives_ok_iff.mp h
          obtain ⟨kind, source, p, hv, hp, rfl⟩ := gives_value_iff.mp (gives_of_eq hvalue)
          exact .metatag (hrun.mpr ⟨rfl, rfl⟩) hkey (hcolon.mpr ht) (spaces_skipSpace t) hv hp
    · rename_i hnone
      obtain ⟨rfl, rfl⟩ := gives_ok_iff.mp h
      refine .tag (hrun.mpr ⟨rfl, rfl⟩) ?_
      rintro ⟨t, ht⟩
      exact hnone t (hcolon.mp ht)
  · intro h
    unfold word
    dsimp only
    cases h with
    | tag h hnone =>
      obtain ⟨rfl, rfl⟩ := hrun.mp h
      split
      · rename_i t ht
        exact absurd ⟨t, hcolon.mpr ht⟩ hnone
      · exact gives_ok_iff.mpr ⟨rfl, rfl⟩
    | @metatag w source s t u v r key kind p h hkey hafter hspaces hv hp =>
      obtain ⟨rfl, rfl⟩ := hrun.mp h
      have hu : (skipSpace u).1 = v := hspaces.eq_skipSpace hv.skipSpace_eq
      split
      · rename_i t ht
        obtain rfl : t = u := (List.cons.inj (ht.symm.trans (hcolon.mp hafter))).2
        split
        · rename_i hnone
          cases hnone.symm.trans hkey
        · rename_i key' hkey'
          obtain rfl := Option.some.inj (hkey'.symm.trans hkey)
          obtain ⟨hle, hvalue⟩ := gives_value_iff.mpr ⟨kind, source, p, hu ▸ hv, hp, rfl⟩
          rw [hvalue]
          exact gives_ok_iff.mpr ⟨rfl, rfl⟩
      · rename_i hnone
        exact absurd (hcolon.mp hafter) (hnone u)

/-! ## One operand -/

theorem not_gives_parseUnary_nil : ¬Gives (parseUnary size d []) e r := by
  rw [parseUnary]
  exact not_gives_faultAt

/-- A text that begins with neither a minus sign nor a parenthesis is read as a word. -/
theorem gives_parseUnary_other_iff {c : Char} (hminus : c ≠ '-') (hopen : c ≠ '(') :
    Gives (parseUnary size d (c :: s)) e r ↔ Word e (c :: s) r := by
  rw [parseUnary, if_neg hminus, if_neg hopen]
  cases hc : isWord c with
  | true => exact gives_word_iff hc
  | false =>
    constructor
    · exact fun h => absurd h not_gives_faultAt
    · exact fun h => absurd (hc.symm.trans h.head) Bool.false_ne_true

theorem opens_of_gives_parseUnary (h : Gives (parseUnary size d s) e r) : Opens s := by
  cases s with
  | nil => exact absurd h not_gives_parseUnary_nil
  | cons c s =>
    by_cases hminus : c = '-'
    · exact ⟨c, s, rfl, .inr (.inl hminus)⟩
    by_cases hopen : c = '('
    · exact ⟨c, s, rfl, .inr (.inr hopen)⟩
    · exact ((gives_parseUnary_other_iff hminus hopen).mp h).opens

/-- What has to stand behind a minus sign does so where an operand can be read. -/
theorem gives_parseUnary_minus_iff :
    Gives (parseUnary size d ('-' :: s)) e r
      ↔ d < maxNesting ∧ ∃ e', e = .neg e' ∧ Gives (parseUnary size (d + 1) s) e' r := by
  rw [parseUnary, if_pos rfl]
  constructor
  · intro h
    split at h
    · exact absurd h not_gives_faultAt
    split at h
    · exact absurd h not_gives_faultAt
    rename_i hd
    split at h
    · exact absurd h not_gives_error
    · rename_i e' t ht
      obtain ⟨rfl, rfl⟩ := gives_ok_iff.mp h
      exact ⟨Nat.lt_of_not_le hd, e', rfl, gives_of_eq ht⟩
  · rintro ⟨hd, e', rfl, h⟩
    have hs := opens_of_gives_parseUnary h
    obtain ⟨c, s, rfl, hspace, -⟩ := hs.cases
    obtain ⟨hr, h⟩ := h
    rw [if_neg (by simp [hs.endsOperands_eq, hspace]), if_neg (Nat.not_le_of_lt hd), h]
    exact gives_ok_iff.mpr ⟨rfl, rfl⟩

/-! ## The operands of a conjunction -/

theorem gives_parseFactors_nil_iff :
    Gives (parseFactors size d s) [] r ↔ r = (skipSpace s).1 ∧ endsOperands r = true := by
  rw [parseFactors]
  dsimp only
  constructor
  · intro h
    split at h
    · rename_i hends
      obtain ⟨-, rfl⟩ := gives_ok_iff.mp h
      exact ⟨rfl, hends⟩
    · split at h
      · exact absurd h not_gives_error
      · split at h
        · exact absurd h not_gives_error
        · cases (gives_ok_iff.mp h).1
  · rintro ⟨rfl, hends⟩
    rw [if_pos hends]
    exact gives_ok_iff.mpr ⟨rfl, rfl⟩

theorem gives_parseFactors_cons_iff :
    Gives (parseFactors size d s) (e :: es) r
      ↔ ∃ t, Gives (parseUnary size d (skipSpace s).1) e t ∧ Gives (parseFactors size d t) es r := by
  rw [parseFactors]
  dsimp only
  constructor
  · intro h
    split at h
    · cases (gives_ok_iff.mp h).1
    · split at h
      · exact absurd h not_gives_error
      · rename_i e' t ht
        split at h
        · exact absurd h not_gives_error
        · rename_i es' u hu
          obtain ⟨heq, rfl⟩ := gives_ok_iff.mp h
          cases heq
          exact ⟨t.1, gives_of_eq ht, gives_of_eq hu⟩
  · rintro ⟨t, h, hs⟩
    have hends := (opens_of_gives_parseUnary h).endsOperands_eq
    obtain ⟨ht, h⟩ := h
    obtain ⟨hr, hs⟩ := hs
    rw [if_neg (by simp [hends]), h]
    dsimp only
    rw [hs]
    exact gives_ok_iff.mpr ⟨rfl, rfl⟩

/-- A conjunction is one operand or more, read in the same way as the further ones. -/
theorem gives_parseAll_iff_factors :
    Gives (parseAll size d s) e r
      ↔ ∃ e' es, e = joined .all (e' :: es) ∧ Gives (parseFactors size d s) (e' :: es) r := by
  have hjoined : ∀ (e : Expr) (es : List Expr),
      (if es.isEmpty then e else .all (e :: es)) = joined .all (e :: es) := by
    rintro e (_ | ⟨e', es⟩) <;> rfl
  simp only [gives_parseFactors_cons_iff]
  rw [parseAll]
  dsimp only
  constructor
  · intro h
    split at h
    · exact absurd h not_gives_faultAt
    · split at h
      · exact absurd h not_gives_error
      · rename_i e' t ht
        split at h
        · exact absurd h not_gives_error
        · rename_i es u hu
          obtain ⟨rfl, rfl⟩ := gives_ok_iff.mp h
          exact ⟨e', es, hjoined e' es, t.1, gives_of_eq ht, gives_of_eq hu⟩
  · rintro ⟨e', es, rfl, t, h, hs⟩
    have hends := (opens_of_gives_parseUnary h).endsOperands_eq
    obtain ⟨ht, h⟩ := h
    obtain ⟨hr, hs⟩ := hs
    rw [if_neg (by simp [hends]), h]
    dsimp only
    rw [hs]
    exact gives_ok_iff.mpr ⟨(hjoined e' es).symm, rfl⟩

theorem opens_of_gives_parseAll (h : Gives (parseAll size d s) e r) : Opens (skipSpace s).1 := by
  obtain ⟨e', es, -, hs⟩ := gives_parseAll_iff_factors.mp h
  obtain ⟨t, h, -⟩ := gives_parseFactors_cons_iff.mp hs
  exact opens_of_gives_parseUnary h

/-! ## The operands of a disjunction -/

theorem gives_parseAlternatives_nil_iff :
    Gives (parseAlternatives size d s) [] r
      ↔ r = (skipSpace s).1 ∧ ∀ t, r ≠ '+' :: t := by
  rw [parseAlternatives]
  dsimp only
  constructor
  · intro h
    split at h
    · split at h
      · exact absurd h not_gives_faultAt
      · split at h
        · exact absurd h not_gives_error
        · split at h
          · exact absurd h not_gives_error
          · cases (gives_ok_iff.mp h).1
    · rename_i hplus
      obtain ⟨-, rfl⟩ := gives_ok_iff.mp h
      exact ⟨rfl, hplus⟩
  · rintro ⟨rfl, hplus⟩
    split
    · rename_i t ht
      exact absurd ht (hplus t)
    · exact gives_ok_iff.mpr ⟨rfl, rfl⟩

theorem gives_parseAlternatives_cons_iff :
    Gives (parseAlternatives size d s) (e :: es) r
      ↔ ∃ t u, (skipSpace s).1 = '+' :: t ∧ Gives (parseAll size d (skipSpace t).1) e u
          ∧ Gives (parseAlternatives size d u) es r := by
  rw [parseAlternatives]
  dsimp only
  constructor
  · intro h
    split at h
    · rename_i t ht
      split at h
      · exact absurd h not_gives_faultAt
      · split at h
        · exact absurd h not_gives_error
        · rename_i e' u hu
          split at h
          · exact absurd h not_gives_error
          · rename_i es' v hv
            obtain ⟨heq, rfl⟩ := gives_ok_iff.mp h
            cases heq
            exact ⟨t, u.1, ht, gives_of_eq hu, gives_of_eq hv⟩
    · cases (gives_ok_iff.mp h).1
  · rintro ⟨t, u, ht, h, hs⟩
    have hends := (opens_of_gives_parseAll h).endsOperands_eq
    rw [skipSpace_skipSpace] at hends
    obtain ⟨hu, h⟩ := h
    obtain ⟨hr, hs⟩ := hs
    split
    · rename_i t' ht'
      obtain rfl : t' = t := (List.cons.inj (ht'.symm.trans ht)).2
      rw [if_neg (by simp [hends]), h]
      dsimp only
      rw [hs]
      exact gives_ok_iff.mpr ⟨rfl, rfl⟩
    · rename_i hplus
      exact absurd ht (hplus t)

theorem gives_parseAny_iff_alternatives :
    Gives (parseAny size d s) e r
      ↔ ∃ e' es t, e = joined .any (e' :: es) ∧ Gives (parseAll size d s) e' t
          ∧ Gives (parseAlternatives size d t) es r := by
  have hjoined : ∀ (e : Expr) (es : List Expr),
      (if es.isEmpty then e else .any (e :: es)) = joined .any (e :: es) := by
    rintro e (_ | ⟨e', es⟩) <;> rfl
  rw [parseAny]
  constructor
  · intro h
    split at h
    · exact absurd h not_gives_error
    · rename_i e' t ht
      split at h
      · exact absurd h not_gives_error
      · rename_i es u hu
        obtain ⟨rfl, rfl⟩ := gives_ok_iff.mp h
        exact ⟨e', es, t.1, hjoined e' es, gives_of_eq ht, gives_of_eq hu⟩
  · rintro ⟨e', es, t, rfl, ⟨ht, h⟩, ⟨hr, hs⟩⟩
    rw [h]
    dsimp only
    rw [hs]
    exact gives_ok_iff.mpr ⟨(hjoined e' es).symm, rfl⟩

theorem opens_of_gives_parseAny (h : Gives (parseAny size d s) e r) : Opens (skipSpace s).1 := by
  obtain ⟨e', es, t, -, h, -⟩ := gives_parseAny_iff_alternatives.mp h
  exact opens_of_gives_parseAll h

/-! ## Groups -/

/-- A group is not empty where a disjunction can be read. -/
theorem gives_parseUnary_open_iff :
    Gives (parseUnary size d ('(' :: s)) e r
      ↔ d < maxNesting ∧ ∃ u, Gives (parseAny size (d + 1) (skipSpace s).1) e u
          ∧ (skipSpace u).1 = ')' :: r := by
  have hgroup : Gives (parseUnary size d ('(' :: s)) e r ↔ Gives (parseGroup size d s) e r := by
    rw [parseUnary, if_neg (by decide), if_pos rfl]
    constructor
    · intro h
      split at h
      · exact absurd h not_gives_error
      · rename_i e' t ht
        obtain ⟨rfl, rfl⟩ := gives_ok_iff.mp h
        exact gives_of_eq ht
    · rintro ⟨hr, h⟩
      rw [h]
      exact gives_ok_iff.mpr ⟨rfl, rfl⟩
  rw [hgroup, parseGroup]
  constructor
  · intro h
    split at h
    · exact absurd h not_gives_faultAt
    split at h
    · exact absurd h not_gives_faultAt
    split at h
    · exact absurd h not_gives_faultAt
    rename_i hd
    split at h
    · exact absurd h not_gives_error
    · rename_i e' u hu
      split at h
      · rename_i t ht
        obtain ⟨rfl, rfl⟩ := gives_ok_iff.mp h
        exact ⟨Nat.lt_of_not_le hd, u.1, gives_of_eq hu, ht⟩
      · exact absurd h not_gives_faultAt
  · rintro ⟨hd, u, h, hclose⟩
    have hs := opens_of_gives_parseAny h
    rw [skipSpace_skipSpace] at hs
    obtain ⟨c, t, ht, -, -, hc, -⟩ := hs.cases
    obtain ⟨hu, h⟩ := h
    rw [if_neg (by simp [ht]), if_neg (by simp [ht, hc]), if_neg (Nat.not_le_of_lt hd), h]
    dsimp only
    split
    · rename_i r' hr'
      obtain rfl : r' = r := (List.cons.inj (hr'.symm.trans hclose)).2
      exact gives_ok_iff.mpr ⟨rfl, rfl⟩
    · rename_i hnone
      exact absurd hclose (hnone r)

/-! ## The parser and the grammar -/

section

variable (hoperand : ∀ s e r, Gives (parseUnary size d s) e r ↔ Operand n e s r)

include hoperand

theorem gives_parseFactors_iff :
    Gives (parseFactors size d s) (e :: es) r
      ↔ ∃ t, Chain (Operand n) Spaces (e :: es) (skipSpace s).1 t
          ∧ r = (skipSpace t).1 ∧ endsOperands r = true := by
  -- By the list of operands: what is left after one is where the next begins.
  induction es generalizing e s with
  | nil => simp only [gives_parseFactors_cons_iff, gives_parseFactors_nil_iff, hoperand,
      chain_one_iff]
  | cons e' es ih =>
    rw [gives_parseFactors_cons_iff]
    simp only [ih, hoperand, chain_cons_iff]
    constructor
    · rintro ⟨t, h, v, hs, hr⟩
      exact ⟨v, ⟨t, _, h, spaces_skipSpace t, hs⟩, hr⟩
    · rintro ⟨v, ⟨t, u, h, hgap, hs⟩, hr⟩
      obtain rfl := hgap.eq_skipSpace (hs.opens Operand.opens).skipSpace_eq
      exact ⟨t, h, v, hs, hr⟩

theorem gives_parseAll_iff :
    Gives (parseAll size d s) e r
      ↔ ∃ t, Conjunction (Operand n) e (skipSpace s).1 t
          ∧ r = (skipSpace t).1 ∧ endsOperands r = true := by
  simp only [gives_parseAll_iff_factors, gives_parseFactors_iff hoperand]
  constructor
  · rintro ⟨e', es, he, t, hs, hr⟩
    exact ⟨t, ⟨_, he, hs⟩, hr⟩
  · rintro ⟨t, ⟨es, he, hs⟩, hr⟩
    obtain ⟨e', es, rfl⟩ := List.exists_cons_of_ne_nil hs.ne_nil
    exact ⟨e', es, he, t, hs, hr⟩

/-- The first conjunction together with the further ones. -/
theorem gives_parseAlternatives_iff :
    (∃ t, Gives (parseAll size d s) e t ∧ Gives (parseAlternatives size d t) es r)
      ↔ ∃ t, Chain (Conjunction (Operand n)) Plus (e :: es) (skipSpace s).1 t
          ∧ r = (skipSpace t).1 ∧ endsOperands r = true ∧ ∀ u, r ≠ '+' :: u := by
  induction es generalizing e s with
  | nil =>
    simp only [gives_parseAll_iff hoperand, gives_parseAlternatives_nil_iff, chain_one_iff]
    constructor
    · rintro ⟨u, ⟨t, h, rfl, hends⟩, rfl, hplus⟩
      rw [skipSpace_skipSpace] at hplus ⊢
      exact ⟨t, h, rfl, hends, hplus⟩
    · rintro ⟨t, h, rfl, hends, hplus⟩
      exact ⟨_, ⟨t, h, rfl, hends⟩, (skipSpace_skipSpace t).symm, hplus⟩
  | cons e' es ih =>
    simp only [gives_parseAlternatives_cons_iff, chain_cons_iff]
    constructor
    · rintro ⟨t, hall, v, w, hplus, hs⟩
      obtain ⟨t', h, rfl, -⟩ := (gives_parseAll_iff hoperand).mp hall
      obtain ⟨u, hs, hr⟩ := ih.mp ⟨w, hs⟩
      rw [skipSpace_skipSpace] at hplus hs
      exact ⟨u, ⟨t', _, h, ⟨v, hplus ▸ spaces_skipSpace t', spaces_skipSpace v⟩, hs⟩, hr⟩
    · rintro ⟨u, ⟨t', _, h, ⟨v, hplus, hgap⟩, hs⟩, hr⟩
      obtain rfl := hgap.eq_skipSpace (hs.opens Conjunction.opens).skipSpace_eq
      rw [spaces_cons_iff (by decide)] at hplus
      have hends : endsOperands (skipSpace t').1 = true := by rw [hplus]; rfl
      obtain ⟨w, hs⟩ := ih.mpr ⟨u, (skipSpace_skipSpace v).symm ▸ hs, hr⟩
      refine ⟨_, (gives_parseAll_iff hoperand).mpr ⟨t', h, rfl, hends⟩, v, w, ?_, hs⟩
      rw [skipSpace_skipSpace, hplus]

/-- A disjunction is read up to the end of the text or a closing parenthesis. -/
theorem gives_parseAny_iff :
    Gives (parseAny size d s) e r
      ↔ ∃ t, Disjunction (Operand n) e (skipSpace s).1 t
          ∧ r = (skipSpace t).1 ∧ endsOperands r = true ∧ ∀ u, r ≠ '+' :: u := by
  rw [gives_parseAny_iff_alternatives]
  constructor
  · rintro ⟨e', es, t, he, h⟩
    obtain ⟨u, hs, hr⟩ := (gives_parseAlternatives_iff hoperand).mp ⟨t, h⟩
    exact ⟨u, ⟨_, he, hs⟩, hr⟩
  · rintro ⟨u, ⟨es, he, hs⟩, hr⟩
    obtain ⟨e', es, rfl⟩ := List.exists_cons_of_ne_nil hs.ne_nil
    obtain ⟨t, h⟩ := (gives_parseAlternatives_iff hoperand).mpr ⟨u, hs, hr⟩
    exact ⟨e', es, t, he, h⟩

end

/-- **Operands are read as the grammar says**, if as many minus signs and parentheses are allowed in
them as may still be opened. -/
theorem gives_parseUnary_iff (hd : d + n = maxNesting) :
    Gives (parseUnary size d s) e r ↔ Operand n e s r := by
  induction n generalizing d e s r with
  | zero =>
    have hfull : ¬d < maxNesting := by omega
    cases s with
    | nil => exact iff_of_false not_gives_parseUnary_nil fun h => nomatch Word.opens h
    | cons c s =>
      by_cases hminus : c = '-'
      · subst hminus
        rw [gives_parseUnary_minus_iff]
        exact iff_of_false (fun h => hfull h.1) fun h => absurd (Word.head h) (by decide)
      by_cases hopen : c = '('
      · subst hopen
        rw [gives_parseUnary_open_iff]
        exact iff_of_false (fun h => hfull h.1) fun h => absurd (Word.head h) (by decide)
      · exact gives_parseUnary_other_iff hminus hopen
  | succ n ih =>
    have hlt : d < maxNesting := by omega
    have hinner := fun s e r => ih (d := d + 1) (s := s) (e := e) (r := r) (by omega)
    cases s with
    | nil => exact iff_of_false not_gives_parseUnary_nil fun h => nomatch Operand.opens h
    | cons c s =>
      by_cases hminus : c = '-'
      · subst hminus
        rw [gives_parseUnary_minus_iff, Operand, enclosing_minus_iff]
        simp only [hlt, true_and, hinner]
      by_cases hopen : c = '('
      · subst hopen
        rw [gives_parseUnary_open_iff, Operand, enclosing_open_iff]
        simp only [hlt, true_and, gives_parseAny_iff hinner, skipSpace_skipSpace]
        constructor
        · rintro ⟨u, ⟨t, h, rfl, -⟩, hclose⟩
          rw [skipSpace_skipSpace] at hclose
          exact ⟨_, t, spaces_skipSpace s, h, hclose ▸ spaces_skipSpace t⟩
        · rintro ⟨t', t, hspaces, h, hclose⟩
          obtain rfl := hspaces.eq_skipSpace h.opens.skipSpace_eq
          rw [spaces_cons_iff (by decide)] at hclose
          refine ⟨_, ⟨t, h, rfl, ?_⟩, (skipSpace_skipSpace t).trans hclose⟩
          rw [hclose]
          exact ⟨rfl, fun u hu => absurd (List.cons.inj hu).1 (by decide)⟩
      · rw [gives_parseUnary_other_iff hminus hopen, Operand, enclosing_other_iff hminus hopen]

/-- **The query of a text** is what the grammar derives. -/
theorem parse_eq_ok_iff {text : String} {e : Expr} :
    parse text = .ok e ↔ Written maxNesting e text.toList := by
  have hany : ∀ s r, Gives (parseAny text.toList.length 0 s) e r
      ↔ ∃ t, Disjunction (Operand maxNesting) e (skipSpace s).1 t
          ∧ r = (skipSpace t).1 ∧ endsOperands r = true ∧ ∀ u, r ≠ '+' :: u := fun s r =>
    gives_parseAny_iff fun s e r => gives_parseUnary_iff (Nat.zero_add maxNesting)
  unfold parse
  dsimp only
  constructor
  · intro h
    split at h
    · cases h
    split at h
    · cases h
    · rename_i e' r hr
      split at h
      · rename_i hend
        cases h
        obtain ⟨t, h, hrt, -⟩ := (hany _ _).mp (gives_of_eq hr)
        rw [skipSpace_skipSpace] at h
        rw [hrt, skipSpace_skipSpace] at hend
        exact ⟨_, t, spaces_skipSpace _, h, hend ▸ spaces_skipSpace t⟩
      · cases h
      · cases h
  · rintro ⟨s, t, hspaces, h, hend⟩
    obtain rfl := hspaces.eq_skipSpace h.opens.skipSpace_eq
    rw [spaces_nil_iff] at hend
    obtain ⟨c, u, hcu, -⟩ := h.opens
    rw [if_neg (by simp [hcu])]
    have hplus : ∀ u : List Char, [] ≠ '+' :: u := fun u hu => List.cons_ne_nil _ _ hu.symm
    obtain ⟨hle, hr⟩ := (hany (skipSpace text.toList).1 []).mpr
      ⟨t, (skipSpace_skipSpace text.toList).symm ▸ h, hend.symm, rfl, hplus⟩
    rw [hr]
    rfl

/-! ## Groups in a row -/

/-- A query in parentheses is an operand, whatever stands behind it. -/
theorem Written.group (h : Written n e s) (r : List Char) :
    Operand (n + 1) e (Expr.parenthesize s ++ r) r := by
  obtain ⟨t, u, hopen, h, hend⟩ := h
  have hx : Closes (')' :: r) := ⟨r, rfl⟩
  rw [Expr.parenthesize, List.append_assoc]
  exact .group (hopen.append _) (h.append fun h => h.append hx) (hend.append _)

/-- Groups in a row are the operands of one conjunction. -/
theorem chain_groups {groups : List (Expr × List Char)} (hne : groups ≠ [])
    (h : ∀ g ∈ groups, Written n g.1 g.2) :
    Chain (Operand (n + 1)) Spaces (groups.map (·.1))
      (groups.flatMap fun g => Expr.parenthesize g.2) [] := by
  induction groups with
  | nil => exact absurd rfl hne
  | cons g groups ih =>
    obtain ⟨hg, hs⟩ := List.forall_mem_cons.mp h
    rw [List.flatMap_cons, List.map_cons]
    cases groups with
    | nil => exact .one (hg.group [])
    | cons g' groups => exact .cons (hg.group _) (.refl _) (ih (List.cons_ne_nil _ _) hs)

/-- **The parser reads exactly the grammar**, and returns the tree that the grammar derives.  What is
open in one group is not counted in the next, so any number of groups may stand in a row. -/
theorem parse_grammar :
    (∀ text e, parse text = .ok e ↔ Written maxNesting e text.toList)
      ∧ ∀ groups : List (Expr × List Char), groups ≠ [] →
          (∀ g ∈ groups, Written (maxNesting - 1) g.1 g.2) →
          parse (String.ofList (groups.flatMap fun g => Expr.parenthesize g.2))
            = .ok (joined .all (groups.map (·.1))) := by
  refine ⟨fun text e => parse_eq_ok_iff, fun groups hne h => ?_⟩
  rw [parse_eq_ok_iff, String.toList_ofList]
  exact ⟨_, [], .refl _, ⟨_, rfl, .one ⟨_, rfl, chain_groups hne h⟩⟩, .refl []⟩

/-- Two hundred groups in a row, each with one tag. -/
theorem parse_grammar_row :
    parse (String.ofList ((List.replicate 200 (Expr.tag "a", ['a'])).flatMap
        fun g => Expr.parenthesize g.2))
      = .ok (.all (List.replicate 200 (.tag "a"))) := by
  have ha : Written (maxNesting - 1) (.tag "a") ['a'] := by
    have hrun : Run isWord ['a'] ['a'] [] := run_iff.mpr (by decide)
    have hword : Word (.tag "a") ['a'] [] := .tag hrun fun ⟨t, ht⟩ => by
      rw [spaces_cons_iff (by decide)] at ht
      cases ht
    exact ⟨_, [], .refl _, ⟨_, rfl, .one ⟨_, rfl, .one (hword.operand _)⟩⟩, .refl []⟩
  refine (parse_grammar.2 _ (by decide) fun g hg => ?_).trans ?_
  · obtain rfl := List.eq_of_mem_replicate hg
    exact ha
  · rw [List.map_replicate]
    rfl

end Gallery.Query
