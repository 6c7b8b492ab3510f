import Gallery.Query.Parser

/-!
# `Gallery.Proofs.Query.Grammar` — the grammar of queries

The grammar is stated over characters and knows nothing of a parser: each of its parts is a relation
between a query, a text that begins with that query, and what is left of the text.  Where the grammar
says how far a word or a bare value goes, it looks at what is left.

Minus signs and parentheses nest.  `Operand n` are the operands in which at most `n` of them are open
at once, so the grammar is a recursion on `n` and nothing in it is mutual.

## Contents
- `Spaces`, `Run`, `Delimited` and `Value`, the pieces without operands.
- `Phrase`, what a part of the grammar is; `Word`, `Chain`, `Conjunction`, `Disjunction`, `Operand`;
  `Written`, the texts of a query.
- `Opens`, how operands begin; `Operand.mono`, and `Disjunction.append` for what may follow.
-/

namespace Gallery.Query

open Gallery.Text

/-! ## Pieces -/

/-- White space at the front of `s`, maybe none, leaves `r`. -/
def Spaces (s r : List Char) : Prop := ∃ ws, s = ws ++ r ∧ ∀ c ∈ ws, isWhitespace c = true

/-- The longest run of characters with `p` at the front of `s` is `w`, which is not empty, and leaves
`r`. -/
structure Run (p : Char → Bool) (w s r : List Char) : Prop where
  eq_append : s = w ++ r
  ne_nil : w ≠ []
  all : ∀ c ∈ w, p c = true
  longest : ∀ c ∈ r.head?, p c = false

/-- The text `source` stands at the front of `s` up to a closing delimiter, which leaves `r`.  A
backslash protects the character after it. -/
inductive Delimited (close : Char) : List Char → List Char → List Char → Prop
  | closed (r : List Char) : Delimited close [] (close :: r) r
  | escaped (c : Char) {source s r : List Char} (h : Delimited close source s r) :
      Delimited close ('\\' :: c :: source) ('\\' :: c :: s) r
  | char {c : Char} {source s r : List Char} (hclose : c ≠ close) (hescape : c ≠ '\\')
      (h : Delimited close source s r) : Delimited close (c :: source) (c :: s) r

/-- The value of a metatag: a glob in quotes, a regular expression between slashes, or a glob
without delimiters. -/
inductive Value : PatternKind → List Char → List Char → List Char → Prop
  | quoted {source s r : List Char} (h : Delimited '"' source s r) :
      Value .glob source ('"' :: s) r
  | slashed {source s r : List Char} (h : Delimited '/' source s r) :
      Value .regex source ('/' :: s) r
  | bare {source s r : List Char} (h : Run isValueChar source s r) : Value .glob source s r

/-! ## Phrases -/

/-- What a part of the grammar is: which queries can be read off the front of a text, and what is
left of it then. -/
abbrev Phrase := Expr → List Char → List Char → Prop

/-- A tag or a metatag.  A word is a tag unless a colon follows. -/
inductive Word : Phrase
  | tag {w s r : List Char} (h : Run isWord w s r) (hcolon : ¬∃ t, Spaces r (':' :: t)) :
      Word (.tag (String.ofList w)) s r
  | metatag {w source s t u v r : List Char} {key : Key} {kind : PatternKind} {p : Pattern}
      (h : Run isWord w s t) (hkey : Key.ofKeyword? (String.ofList w) = some key)
      (hcolon : Spaces t (':' :: u)) (hspaces : Spaces u v) (hvalue : Value kind source v r)
      (hp : Pattern.make kind (String.ofList source) key.ignoresCase = .ok p) :
      Word (.metatag ⟨key, p⟩) s r

/-- One or more items with a gap between any two of them. -/
inductive Chain (item : Phrase) (gap : List Char → List Char → Prop) :
    List Expr → List Char → List Char → Prop
  | one {e : Expr} {s r : List Char} (h : item e s r) : Chain item gap [e] s r
  | cons {e : Expr} {es : List Expr} {s t u r : List Char} (h : item e s t) (hgap : gap t u)
      (hs : Chain item gap es u r) : Chain item gap (e :: es) s r

/-- A plus sign with white space on both sides, maybe none. -/
def Plus (s r : List Char) : Prop := ∃ t, Spaces s ('+' :: t) ∧ Spaces t r

/-- Operands in a row. -/
def Conjunction (operand : Phrase) : Phrase := fun e s r =>
  ∃ es, e = joined .all es ∧ Chain operand Spaces es s r

/-- Conjunctions with plus signs between them. -/
def Disjunction (operand : Phrase) : Phrase := fun e s r =>
  ∃ es, e = joined .any es ∧ Chain (Conjunction operand) Plus es s r

/-- A word, or a negation or a group with the given operands inside. -/
inductive Enclosing (inner : Phrase) : Phrase
  | word {e : Expr} {s r : List Char} (h : Word e s r) : Enclosing inner e s r
  /-- A minus sign stands directly in front of what it negates. -/
  | neg {e : Expr} {s r : List Char} (h : inner e s r) : Enclosing inner (.neg e) ('-' :: s) r
  | group {e : Expr} {s t u r : List Char} (hopen : Spaces s t) (h : Disjunction inner e t u)
      (hclose : Spaces u (')' :: r)) : Enclosing inner e ('(' :: s) r

/-- An operand in which at most `n` minus signs and parentheses are open at once. -/
def Operand : Nat → Phrase
  | 0 => Word
  | n + 1 => Enclosing (Operand n)

/-- The text `s` is the query `e`, with at most `n` minus signs and parentheses open at once. -/
def Written (n : Nat) (e : Expr) (s : List Char) : Prop :=
  ∃ t u, Spaces s t ∧ Disjunction (Operand n) e t u ∧ Spaces u []

/-! ## White space -/

/-- No character is both white space and part of a word. -/
theorem isWord_of_isWhitespace {c : Char} (h : isWhitespace c = true) : isWord c = false := by
  have hnone : ∀ run ∈ whitespace, ∀ i < run.last + 1 - run.first,
      isWord (Char.ofNat (run.first + i)) = false := by decide +kernel
  obtain ⟨run, hrun, hc⟩ := List.any_eq_true.mp h
  simp only [CodeRun.contains, Bool.and_eq_true, decide_eq_true_eq] at hc
  have hthis := hnone run hrun (c.toNat - run.first) (by omega)
  rwa [Nat.add_sub_cancel' hc.1.1, Char.ofNat_toNat] at hthis

variable {s t r : List Char}

theorem Spaces.refl (s : List Char) : Spaces s s := ⟨[], rfl, fun _ h => nomatch h⟩

theorem Spaces.cons {c : Char} (hc : isWhitespace c = true) (h : Spaces s r) :
    Spaces (c :: s) r := by
  obtain ⟨ws, rfl, hws⟩ := h
  exact ⟨c :: ws, rfl, List.forall_mem_cons.mpr ⟨hc, hws⟩⟩

theorem spaces_skipSpace (s : List Char) : Spaces s (skipSpace s).1 :=
  ⟨s.takeWhile isWhitespace, List.takeWhile_append_dropWhile.symm,
    List.all_eq_true.mp List.all_takeWhile⟩

/-- What is left after some white space has the same characters behind all white space. -/
theorem Spaces.skipSpace_eq (h : Spaces s r) : (skipSpace s).1 = (skipSpace r).1 := by
  obtain ⟨ws, rfl, hws⟩ := h
  exact List.dropWhile_append_of_pos hws

/-- White space that cannot go on is all white space. -/
theorem Spaces.eq_skipSpace (h : Spaces s r) (hr : (skipSpace r).1 = r) : (skipSpace s).1 = r :=
  h.skipSpace_eq.trans hr

theorem skipSpace_cons {c : Char} (hc : isWhitespace c = false) (s : List Char) :
    (skipSpace (c :: s)).1 = c :: s := by
  show (c :: s).dropWhile isWhitespace = c :: s
  rw [List.dropWhile_cons, hc]
  rfl

theorem skipSpace_skipSpace (s : List Char) : (skipSpace (skipSpace s).1).1 = (skipSpace s).1 :=
  (spaces_skipSpace s).skipSpace_eq.symm

/-- Before a character that is no white space, white space leaves that character and what follows. -/
theorem spaces_cons_iff {c : Char} (hc : isWhitespace c = false) :
    Spaces s (c :: r) ↔ (skipSpace s).1 = c :: r :=
  ⟨fun h => h.eq_skipSpace (skipSpace_cons hc r), fun h => h ▸ spaces_skipSpace s⟩

theorem spaces_nil_iff : Spaces s [] ↔ (skipSpace s).1 = [] :=
  ⟨fun h => h.eq_skipSpace rfl, fun h => h ▸ spaces_skipSpace s⟩

/-! ## Runs -/

/-- A text begins with exactly one longest run. -/
theorem run_iff {p : Char → Bool} {w : List Char} :
    Run p w s r ↔ w = s.takeWhile p ∧ r = s.dropWhile p ∧ w ≠ [] := by
  constructor
  · rintro ⟨rfl, hne, hall, hlongest⟩
    have hr : r.takeWhile p = [] ∧ r.dropWhile p = r := by
      cases r with
      | nil => exact ⟨rfl, rfl⟩
      | cons c r =>
        have hc : p c = false := hlongest c rfl
        simp [hc]
    rw [List.takeWhile_append_of_pos hall, List.dropWhile_append_of_pos hall, hr.1, hr.2,
      List.append_nil]
    exact ⟨rfl, rfl, hne⟩
  · rintro ⟨rfl, rfl, hne⟩
    refine ⟨List.takeWhile_append_dropWhile.symm, hne,
      List.all_eq_true.mp List.all_takeWhile, ?_⟩
    intro c hc
    have hnot := List.head?_dropWhile_not p s
    rw [Option.mem_def.mp hc] at hnot
    simpa using hnot

/-- No value without delimiters begins with white space. -/
theorem isValueChar_of_isWhitespace {c : Char} (h : isWhitespace c = true) :
    isValueChar c = false := by
  have hsigns : ['.', '*', '?', '-'].all (!isWhitespace ·) = true := by decide
  have hne : ∀ d ∈ ['.', '*', '?', '-'], c ≠ d := by
    rintro d hd rfl
    have hthis := List.all_eq_true.mp hsigns c hd
    rw [h] at hthis
    cases hthis
  simp only [List.forall_mem_cons] at hne
  simp [isValueChar, isWord_of_isWhitespace h, hne]

theorem Value.skipSpace_eq {kind : PatternKind} {source : List Char} (h : Value kind source s r) :
    (skipSpace s).1 = s := by
  cases h with
  | quoted => exact skipSpace_cons (by decide) _
  | slashed => exact skipSpace_cons (by decide) _
  | bare h =>
    obtain ⟨rfl, hne, hall, -⟩ := h
    obtain ⟨c, w, rfl⟩ := List.exists_cons_of_ne_nil hne
    refine skipSpace_cons ?_ _
    cases hc : isWhitespace c with
    | false => rfl
    | true =>
      have hvalue : isValueChar c = true := hall c List.mem_cons_self
      rw [isValueChar_of_isWhitespace hc] at hvalue
      cases hvalue

/-! ## How operands begin -/

/-- A text begins with a character with which operands begin. -/
def Opens (s : List Char) : Prop := ∃ c t, s = c :: t ∧ (isWord c = true ∨ c = '-' ∨ c = '(')

/-- Such a character is no white space and no sign that ends operands or makes a word a key. -/
theorem Opens.cases (h : Opens s) : ∃ c t, s = c :: t ∧ isWhitespace c = false
    ∧ c ≠ '+' ∧ c ≠ ')' ∧ c ≠ ':' := by
  obtain ⟨c, t, rfl, hc | rfl | rfl⟩ := h
  · refine ⟨c, t, rfl, ?_, ?_, ?_, ?_⟩
    · cases hspace : isWhitespace c with
      | false => rfl
      | true => exact absurd ((isWord_of_isWhitespace hspace).symm.trans hc) Bool.false_ne_true
    all_goals
      rintro rfl
      revert hc
      decide
  all_goals exact ⟨_, t, rfl, by decide⟩

theorem Opens.skipSpace_eq (h : Opens s) : (skipSpace s).1 = s := by
  obtain ⟨c, t, rfl, hc, -⟩ := h.cases
  exact skipSpace_cons hc t

theorem Opens.endsOperands_eq (h : Opens s) : endsOperands s = false := by
  obtain ⟨c, t, rfl, -, hplus, hclose, -⟩ := h.cases
  simp [endsOperands, hplus, hclose]

theorem Run.head {p : Char → Bool} {w : List Char} {c : Char} (h : Run p w (c :: s) r) :
    p c = true := by
  obtain ⟨heq, hne, hall, -⟩ := h
  obtain ⟨c', w, rfl⟩ := List.exists_cons_of_ne_nil hne
  obtain rfl := (List.cons.inj heq).1
  exact hall c List.mem_cons_self

theorem Word.head {e : Expr} {c : Char} (h : Word e (c :: s) r) : isWord c = true := by
  cases h with
  | tag h => exact h.head
  | metatag h => exact h.head

theorem Word.opens {e : Expr} (h : Word e s r) : Opens s := by
  cases s with
  | nil =>
    have hrun : ∀ {w r : List Char}, ¬Run isWord w [] r := by
      intro w r h
      exact h.ne_nil (List.append_eq_nil_iff.mp h.eq_append.symm).1
    cases h with
    | tag h => exact absurd h hrun
    | metatag h => exact absurd h hrun
  | cons c s => exact ⟨c, s, rfl, .inl h.head⟩

theorem Operand.opens {n : Nat} {e : Expr} (h : Operand n e s r) : Opens s := by
  cases n with
  | zero => exact Word.opens h
  | succ n =>
    cases h with
    | word h => exact h.opens
    | neg h => exact ⟨'-', _, rfl, .inr (.inl rfl)⟩
    | group => exact ⟨'(', _, rfl, .inr (.inr rfl)⟩

theorem Chain.opens {item : Phrase} {gap : List Char → List Char → Prop} {es : List Expr}
    (hitem : ∀ {e s r}, item e s r → Opens s) (h : Chain item gap es s r) : Opens s := by
  cases h with
  | one h => exact hitem h
  | cons h => exact hitem h

theorem Conjunction.opens {n : Nat} {e : Expr} (h : Conjunction (Operand n) e s r) : Opens s := by
  obtain ⟨es, -, hes⟩ := h
  exact hes.opens Operand.opens

theorem Disjunction.opens {n : Nat} {e : Expr} (h : Disjunction (Operand n) e s r) : Opens s := by
  obtain ⟨es, -, hes⟩ := h
  exact hes.opens Conjunction.opens

/-! ## Chains -/

section

variable {item : Phrase} {gap : List Char → List Char → Prop} {e : Expr} {es : List Expr}

theorem Chain.ne_nil (h : Chain item gap es s r) : es ≠ [] := by
  cases h <;> exact List.cons_ne_nil _ _

theorem chain_one_iff : Chain item gap [e] s r ↔ item e s r := by
  constructor
  · rintro (h | ⟨-, -, h⟩)
    · exact h
    · exact absurd rfl h.ne_nil
  · exact .one

theorem chain_cons_iff {e' : Expr} : Chain item gap (e :: e' :: es) s r
    ↔ ∃ t u, item e s t ∧ gap t u ∧ Chain item gap (e' :: es) u r := by
  constructor
  · rintro (_ | ⟨h, hgap, hs⟩)
    exact ⟨_, _, h, hgap, hs⟩
  · rintro ⟨t, u, h, hgap, hs⟩
    exact .cons h hgap hs

theorem Chain.mono {item' : Phrase} (h : Chain item gap es s r)
    (hitem : ∀ {e s r}, item e s r → item' e s r) : Chain item' gap es s r := by
  induction h with
  | one h => exact .one (hitem h)
  | cons h hgap _ ih => exact .cons (hitem h) hgap ih

end

/-! ## Nesting -/

section

variable {inner : Phrase} {e : Expr}

theorem enclosing_minus_iff :
    Enclosing inner e ('-' :: s) r ↔ ∃ e', e = .neg e' ∧ inner e' s r := by
  constructor
  · rintro (h | h)
    · exact absurd h.head (by decide)
    · exact ⟨_, rfl, h⟩
  · rintro ⟨e', rfl, h⟩
    exact .neg h

theorem enclosing_open_iff :
    Enclosing inner e ('(' :: s) r
      ↔ ∃ t u, Spaces s t ∧ Disjunction inner e t u ∧ Spaces u (')' :: r) := by
  constructor
  · rintro (h | _ | ⟨hopen, h, hclose⟩)
    · exact absurd h.head (by decide)
    · exact ⟨_, _, hopen, h, hclose⟩
  · rintro ⟨t, u, hopen, h, hclose⟩
    exact .group hopen h hclose

/-- What begins like a word is one. -/
theorem enclosing_other_iff {c : Char} (hminus : c ≠ '-') (hopen : c ≠ '(') :
    Enclosing inner e (c :: s) r ↔ Word e (c :: s) r := by
  constructor
  · rintro (h | _ | _)
    · exact h
    · exact absurd rfl hminus
    · exact absurd rfl hopen
  · exact .word

end

theorem Word.operand {e : Expr} (h : Word e s r) (n : Nat) : Operand n e s r := by
  cases n with
  | zero => exact h
  | succ n => exact .word h

/-- More minus signs and parentheses than needed may be allowed. -/
theorem Operand.mono {n m : Nat} {e : Expr} (h : Operand n e s r) (hnm : n ≤ m) :
    Operand m e s r := by
  induction n generalizing m e s r with
  | zero => exact Word.operand h m
  | succ n ih =>
    obtain ⟨m, rfl⟩ := Nat.exists_eq_add_of_lt hnm
    have hle : n ≤ n + m := Nat.le_add_right n m
    cases h with
    | word h => exact .word h
    | neg h => exact .neg (ih h hle)
    | group hopen h hclose =>
      obtain ⟨cs, rfl, hcs⟩ := h
      refine .group hopen ⟨cs, rfl, hcs.mono ?_⟩ hclose
      rintro c s r ⟨es, rfl, hes⟩
      exact ⟨es, rfl, hes.mono fun h => ih h hle⟩

/-! ## What follows -/

/-- A text that cannot lengthen a word or a value and does not make a word a key. -/
def Closes (x : List Char) : Prop := ∃ y, x = ')' :: y

variable {x : List Char}

theorem Spaces.append (h : Spaces s r) (x : List Char) : Spaces (s ++ x) (r ++ x) := by
  obtain ⟨ws, rfl, hws⟩ := h
  exact ⟨ws, List.append_assoc _ _ _, hws⟩

theorem Delimited.append {close : Char} {source : List Char} (h : Delimited close source s r)
    (x : List Char) : Delimited close source (s ++ x) (r ++ x) := by
  induction h with
  | closed r => exact .closed _
  | escaped c _ ih => exact .escaped c ih
  | char hclose hescape _ ih => exact .char hclose hescape ih

theorem Run.append {p : Char → Bool} {w : List Char} (h : Run p w s r) (hx : Closes x)
    (hp : p ')' = false) : Run p w (s ++ x) (r ++ x) := by
  obtain ⟨rfl, hne, hall, hlongest⟩ := h
  refine ⟨List.append_assoc _ _ _, hne, hall, ?_⟩
  cases r with
  | nil =>
    obtain ⟨y, rfl⟩ := hx
    rintro c ⟨⟩
    exact hp
  | cons c r => exact hlongest

theorem Value.append {kind : PatternKind} {source : List Char} (h : Value kind source s r)
    (hx : Closes x) : Value kind source (s ++ x) (r ++ x) := by
  cases h with
  | quoted h => exact .quoted (h.append x)
  | slashed h => exact .slashed (h.append x)
  | bare h => exact .bare (h.append hx (by decide))

/-- A colon after white space is not gained. -/
theorem spaces_colon_of_append (hx : Closes x) (h : Spaces (r ++ x) (':' :: t)) :
    ∃ t, Spaces r (':' :: t) := by
  rw [spaces_cons_iff (by decide)] at h
  obtain ⟨y, rfl⟩ := hx
  have hr := spaces_skipSpace r
  cases hskip : (skipSpace r).1 with
  | nil =>
    rw [hskip] at hr
    have hclose := (hr.append (')' :: y)).skipSpace_eq
    rw [h, List.nil_append, skipSpace_cons (by decide)] at hclose
    cases hclose
  | cons c r' =>
    have hc : isWhitespace c = false := by
      have hnot := List.head?_dropWhile_not isWhitespace r
      rw [show r.dropWhile isWhitespace = c :: r' from hskip] at hnot
      simpa using hnot
    rw [hskip] at hr
    have hsame := (hr.append (')' :: y)).skipSpace_eq
    rw [h, List.cons_append, skipSpace_cons hc] at hsame
    obtain rfl := (List.cons.inj hsame).1
    exact ⟨r', hr⟩

theorem Word.append {e : Expr} (h : Word e s r) (hx : Closes x) : Word e (s ++ x) (r ++ x) := by
  cases h with
  | tag h hcolon =>
    refine .tag (h.append hx (by decide)) ?_
    rintro ⟨t, ht⟩
    exact hcolon (spaces_colon_of_append hx ht)
  | metatag h hkey hcolon hspaces hvalue hp =>
    exact .metatag (h.append hx (by decide)) hkey (hcolon.append x) (hspaces.append x)
      (hvalue.append hx) hp

theorem Plus.append (h : Plus s r) (x : List Char) : Plus (s ++ x) (r ++ x) := by
  obtain ⟨t, hs, ht⟩ := h
  exact ⟨t ++ x, hs.append x, ht.append x⟩

section

variable {operand : Phrase} {e : Expr}

theorem Chain.append {gap : List Char → List Char → Prop} {es : List Expr}
    (hitem : ∀ {e s r}, operand e s r → operand e (s ++ x) (r ++ x))
    (hgap : ∀ {s r}, gap s r → gap (s ++ x) (r ++ x)) (h : Chain operand gap es s r) :
    Chain operand gap es (s ++ x) (r ++ x) := by
  induction h with
  | one h => exact .one (hitem h)
  | cons h hg _ ih => exact .cons (hitem h) (hgap hg) ih

theorem Disjunction.append
    (hitem : ∀ {e s r}, operand e s r → operand e (s ++ x) (r ++ x))
    (h : Disjunction operand e s r) : Disjunction operand e (s ++ x) (r ++ x) := by
  obtain ⟨cs, rfl, hcs⟩ := h
  refine ⟨cs, rfl, hcs.append ?_ (·.append x)⟩
  rintro c s r ⟨es, rfl, hes⟩
  exact ⟨es, rfl, hes.append hitem (·.append x)⟩

end

/-- What is written in front of a closing parenthesis does not depend on what comes after. -/
theorem Operand.append {n : Nat} {e : Expr} (h : Operand n e s r) (hx : Closes x) :
    Operand n e (s ++ x) (r ++ x) := by
  induction n generalizing e s r with
  | zero => exact Word.append h hx
  | succ n ih =>
    cases h with
    | word h => exact .word (h.append hx)
    | neg h => exact .neg (ih h)
    | group hopen h hclose =>
      exact .group (hopen.append x) (h.append ih) (hclose.append x)

end Gallery.Query
