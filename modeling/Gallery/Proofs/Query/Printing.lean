import Gallery.Tag
import Gallery.Proofs.Query.Flat
import Gallery.Proofs.Query.Parsing

/-!
# `Gallery.Proofs.Query.Printing` — reading a printed query

Parentheses are printed only where a weaker operator stands under a stronger one, so the text of a
query does not say that a conjunction stood in parentheses in another one.  Read again, it gives the
query with such operands spliced into their parents, and apart from that the same query.

## Contents
- `nesting`, how many minus signs and parentheses are open at once in the text of a query.
- `Readable`, the queries that have a text which the grammar can read; `Written.readable`, all
  parsed queries are such.
- `Readable.written`, their text is that of the flat query, and `Readable.render_flat`.
- `parse_toString`, printing and reading again.
-/

namespace Gallery.Query

open Gallery.Text

namespace Expr

/-! ## Nesting -/

variable {e : Expr} {es : List Expr}

/-- Whether a query is a connective with operands, which a minus sign puts in parentheses. -/
def isConnective (e : Expr) : Bool := e.isAll || e.isAny

mutual

/-- How many minus signs and parentheses are open at once in the text of a query. -/
def nesting : Expr → Nat
  | neg e => if e.isConnective then e.nesting + 2 else e.nesting + 1
  | all es => nestingAll es
  | any es => nestingAny es
  | _ => 0

/-- How many are open at once in the texts of the operands of a conjunction. -/
def nestingAll : List Expr → Nat
  | [] => 0
  | e :: es => max (if e.isAny then e.nesting + 1 else e.nesting) (nestingAll es)

/-- How many are open at once in the texts of the operands of a disjunction. -/
def nestingAny : List Expr → Nat
  | [] => 0
  | e :: es => max e.nesting (nestingAny es)

end

/-- How many are open at once in the text of an operand of a conjunction. -/
def nestingFactor (e : Expr) : Nat := if e.isAny then e.nesting + 1 else e.nesting

/-- How many are open at once in the text behind a minus sign. -/
def nestingTight (e : Expr) : Nat := if e.isConnective then e.nesting + 1 else e.nesting

theorem nesting_neg (e : Expr) : (neg e).nesting = e.nestingTight + 1 := by
  rw [nesting, nestingTight]
  split <;> rfl

theorem nestingFactor_le_nestingTight (e : Expr) : e.nestingFactor ≤ e.nestingTight := by
  unfold nestingFactor nestingTight isConnective
  cases e.isAny with
  | true => simp
  | false =>
    simp only [Bool.or_false, Bool.false_eq_true, if_false]
    split <;> omega

theorem nesting_le_nestingFactor (e : Expr) : e.nesting ≤ e.nestingFactor := by
  unfold nestingFactor
  split <;> omega

theorem nestingTight_le (e : Expr) : e.nestingTight ≤ e.nesting + 1 := by
  unfold nestingTight
  split <;> omega

theorem nestingAll_le_iff {n : Nat} : nestingAll es ≤ n ↔ ∀ e ∈ es, e.nestingFactor ≤ n := by
  induction es with
  | nil => simp [nestingAll]
  | cons e es ih => rw [nestingAll, Nat.max_le, ih, List.forall_mem_cons, nestingFactor]

theorem nestingAny_le_iff {n : Nat} : nestingAny es ≤ n ↔ ∀ e ∈ es, e.nesting ≤ n := by
  induction es with
  | nil => simp [nestingAny]
  | cons e es ih => rw [nestingAny, Nat.max_le, ih, List.forall_mem_cons]

/-! ## Texts of operands -/

theorem render_neg (e : Expr) : (neg e).render
    = '-' :: if e.isConnective then parenthesize e.render else e.render := by
  cases e <;> simp [render, isConnective, isAll, isAny]

theorem renderFactor_eq (e : Expr) :
    e.renderFactor = if e.isAny then parenthesize e.render else e.render := by
  cases e <;> simp [render, renderFactor, isAny]

end Expr

/-! ## Values -/

/-- The delimiter on both sides of a pattern. -/
def PatternKind.delimiter : PatternKind → Char
  | .glob => '"'
  | .regex => '/'

theorem Pattern.render_eq (p : Pattern) :
    p.render = p.kind.delimiter :: p.source.toList ++ [p.kind.delimiter] := by
  rw [Pattern.render]
  cases p.kind <;> rfl

variable {n : Nat} {e : Expr} {es : List Expr} {s t r x source : List Char} {close : Char}

/-- What is read up to a delimiter can be written with any text behind the delimiter. -/
theorem Delimited.source_append (h : Delimited close source s r) (x : List Char) :
    Delimited close source (source ++ close :: x) x := by
  induction h with
  | closed r => exact .closed x
  | escaped c _ ih => exact .escaped c ih
  | char hclose hescape _ ih => exact .char hclose hescape ih

/-- Characters that are neither the delimiter nor a backslash need no protection. -/
theorem delimited_of_forall (h : ∀ c ∈ source, c ≠ close ∧ c ≠ '\\') (x : List Char) :
    Delimited close source (source ++ close :: x) x := by
  induction source with
  | nil => exact .closed x
  | cons c source ih =>
    obtain ⟨hc, hs⟩ := List.forall_mem_cons.mp h
    exact .char hc.1 hc.2 (ih hs)

/-- A value can be written between delimiters. -/
theorem Value.delimited {kind : PatternKind} (h : Value kind source s r) (x : List Char) :
    Delimited kind.delimiter source (source ++ kind.delimiter :: x) x := by
  cases h with
  | quoted h => exact h.source_append x
  | slashed h => exact h.source_append x
  | bare h =>
    refine delimited_of_forall (fun c hc => ?_) x
    have hvalue := h.all c hc
    constructor <;> (rintro rfl; revert hvalue; decide)

theorem value_of_delimited {kind : PatternKind} (h : Delimited kind.delimiter source s r) :
    Value kind source (kind.delimiter :: s) r := by
  cases kind with
  | glob => exact .quoted h
  | regex => exact .slashed h

/-! ## Readable queries -/

/-- A metatag as texts have them: the key decides about case, and the source of the pattern goes up
to the delimiter that is written behind it. -/
structure Metatag.Readable (m : Metatag) : Prop where
  ignoreCase : m.pattern.ignoreCase = m.key.ignoresCase
  delimited : ∀ x, Delimited m.pattern.kind.delimiter m.pattern.source.toList
    (m.pattern.source.toList ++ m.pattern.kind.delimiter :: x) x

namespace Expr

/-- A query without constants whose labels are words and whose connectives have two or more
operands. -/
inductive Readable : Expr → Prop
  | tag {l : String} (h : isValidLabel l = true) : Readable (tag l)
  | metatag {m : Metatag} (h : m.Readable) : Readable (metatag m)
  | neg {e : Expr} (h : Readable e) : Readable (neg e)
  | all {es : List Expr} (two : 2 ≤ es.length) (hs : ∀ e ∈ es, Readable e) : Readable (all es)
  | any {es : List Expr} (two : 2 ≤ es.length) (hs : ∀ e ∈ es, Readable e) : Readable (any es)

end Expr

/-- Labels are the texts that are one run of word characters. -/
theorem isValidLabel_iff {l : String} :
    isValidLabel l = true ↔ l.toList ≠ [] ∧ ∀ c ∈ l.toList, isWord c = true := by
  simp [isValidLabel]

/-- What holds of queries that are joined holds of the joint query. -/
theorem joined_induction {motive : Expr → Prop} {connective : List Expr → Expr} (hne : es ≠ [])
    (hs : ∀ e ∈ es, motive e) (hmany : 2 ≤ es.length → motive (connective es)) :
    motive (joined connective es) := by
  match es with
  | [] => exact absurd rfl hne
  | [e] => exact hs e List.mem_cons_self
  | _ :: _ :: _ => exact hmany (by simp)

theorem Chain.forall_mem {item : Phrase} {gap : List Char → List Char → Prop}
    (h : Chain item gap es s r) : ∀ e ∈ es, ∃ s r, item e s r := by
  induction h with
  | one h => simpa using ⟨_, _, h⟩
  | cons h _ _ ih => exact List.forall_mem_cons.mpr ⟨⟨_, _, h⟩, ih⟩

theorem Word.readable (h : Word e s r) : e.Readable := by
  cases h with
  | tag h =>
    refine .tag (isValidLabel_iff.mpr ?_)
    rw [String.toList_ofList]
    exact ⟨h.ne_nil, h.all⟩
  | metatag _ _ _ _ hvalue hp =>
    obtain ⟨rfl, hsource, hcase⟩ := Pattern.make_eq_ok_iff.mp hp
    refine .metatag ⟨hcase, fun x => ?_⟩
    rw [hsource, String.toList_ofList]
    exact hvalue.delimited x

theorem Disjunction.readable {operand : Phrase}
    (hoperand : ∀ {e s r}, operand e s r → e.Readable ∧ e.nestingTight ≤ n)
    (h : Disjunction operand e s r) : e.Readable ∧ e.nesting ≤ n := by
  have hfactor : ∀ e : Expr, e.nestingTight ≤ n → e.nestingFactor ≤ n := fun e =>
    Nat.le_trans e.nestingFactor_le_nestingTight
  have hconj : ∀ {e s r}, Conjunction operand e s r → e.Readable ∧ e.nesting ≤ n := by
    rintro e s r ⟨es, rfl, hes⟩
    have hall : ∀ e ∈ es, e.Readable ∧ e.nestingTight ≤ n := fun e he =>
      let ⟨_, _, h⟩ := hes.forall_mem e he
      hoperand h
    refine joined_induction (motive := fun e => e.Readable ∧ e.nesting ≤ n) hes.ne_nil
      (fun e he => ?_) fun two => ?_
    · exact ⟨(hall e he).1, Nat.le_trans e.nesting_le_nestingFactor (hfactor e (hall e he).2)⟩
    · exact ⟨.all two fun e he => (hall e he).1,
        Expr.nestingAll_le_iff.mpr fun e he => hfactor e (hall e he).2⟩
  obtain ⟨cs, rfl, hcs⟩ := h
  have hall : ∀ c ∈ cs, c.Readable ∧ c.nesting ≤ n := fun c hc =>
    let ⟨_, _, h⟩ := hcs.forall_mem c hc
    hconj h
  refine joined_induction hcs.ne_nil hall fun two => ?_
  exact ⟨.any two fun c hc => (hall c hc).1, Expr.nestingAny_le_iff.mpr fun c hc => (hall c hc).2⟩

/-- The text of an operand opens no more than the operand itself. -/
theorem Operand.readable (h : Operand n e s r) : e.Readable ∧ e.nestingTight ≤ n := by
  have hword : ∀ {n e s r}, Word e s r → e.Readable ∧ e.nestingTight ≤ n := by
    intro n e s r h
    refine ⟨h.readable, ?_⟩
    cases h <;> exact Nat.zero_le n
  induction n generalizing e s r with
  | zero => exact hword h
  | succ n ih =>
    cases h with
    | word h => exact hword h
    | neg h =>
      obtain ⟨hread, hle⟩ := ih h
      refine ⟨.neg hread, ?_⟩
      show (Expr.neg _).nesting ≤ n + 1
      rw [Expr.nesting_neg]
      exact Nat.succ_le_succ hle
    | group _ h =>
      obtain ⟨hread, hle⟩ := h.readable ih
      exact ⟨hread, Nat.le_trans e.nestingTight_le (Nat.succ_le_succ hle)⟩

/-- The queries that are read are readable, and printed they open no more than in the text that was
read. -/
theorem Written.readable (h : Written n e s) : e.Readable ∧ e.nesting ≤ n := by
  obtain ⟨t, u, -, h, -⟩ := h
  exact h.readable Operand.readable

/-! ## Flat queries are readable -/

namespace Expr

theorem Readable.conjuncts_ne_nil (h : e.Readable) : e.conjuncts ≠ [] := by
  cases h with
  | all two => exact List.ne_nil_of_length_pos (Nat.lt_of_lt_of_le Nat.two_pos two)
  | _ => exact List.cons_ne_nil _ _

theorem Readable.disjuncts_ne_nil (h : e.Readable) : e.disjuncts ≠ [] := by
  cases h with
  | any two => exact List.ne_nil_of_length_pos (Nat.lt_of_lt_of_le Nat.two_pos two)
  | _ => exact List.cons_ne_nil _ _

theorem Readable.of_mem_conjuncts {d : Expr} (h : e.Readable) (hd : d ∈ e.conjuncts) :
    d.Readable := by
  rcases conjuncts_cases hd with ⟨rfl, -⟩ | ⟨es, rfl, hd⟩
  · exact h
  · cases h with
    | all _ hs => exact hs d hd

theorem Readable.of_mem_disjuncts {d : Expr} (h : e.Readable) (hd : d ∈ e.disjuncts) :
    d.Readable := by
  rcases disjuncts_cases hd with ⟨rfl, -⟩ | ⟨es, rfl, hd⟩
  · exact h
  · cases h with
    | any _ hs => exact hs d hd

/-- A readable query is joined from its operands. -/
theorem Readable.joined_conjuncts (h : e.Readable) : joined .all e.conjuncts = e := by
  cases h with
  | @all es two =>
    match es, two with
    | _ :: _ :: _, _ => rfl
  | _ => rfl

theorem Readable.joined_disjuncts (h : e.Readable) : joined .any e.disjuncts = e := by
  cases h with
  | @any es two =>
    match es, two with
    | _ :: _ :: _, _ => rfl
  | _ => rfl

/-- Splicing leaves at least as many operands. -/
theorem length_le_length_flatMap {f : Expr → List Expr} (h : ∀ e ∈ es, f e ≠ []) :
    es.length ≤ (es.flatMap f).length := by
  induction es with
  | nil => exact Nat.le_refl 0
  | cons e es ih =>
    obtain ⟨he, hs⟩ := List.forall_mem_cons.mp h
    have hpos : 0 < (f e).length := List.length_pos_iff.mpr he
    have hle := ih hs
    rw [List.flatMap_cons, List.length_append, List.length_cons]
    omega

theorem flatMap_ne_nil {f : Expr → List Expr} (hne : es ≠ []) (h : ∀ e ∈ es, f e ≠ []) :
    es.flatMap f ≠ [] :=
  List.ne_nil_of_length_pos
    (Nat.lt_of_lt_of_le (List.length_pos_iff.mpr hne) (length_le_length_flatMap h))

theorem Readable.flat (h : e.Readable) : e.flat.Readable := by
  induction h with
  | tag h => exact .tag h
  | metatag h => exact .metatag h
  | neg _ ih => exact .neg ih
  | all two _ ih =>
    rw [Expr.flat, flatAll_eq_flatMap]
    refine .all (Nat.le_trans two (length_le_length_flatMap fun e he => ?_)) fun d hd => ?_
    · exact (ih e he).conjuncts_ne_nil
    · obtain ⟨e, he, hd⟩ := List.mem_flatMap.mp hd
      exact (ih e he).of_mem_conjuncts hd
  | any two _ ih =>
    rw [Expr.flat, flatAny_eq_flatMap]
    refine .any (Nat.le_trans two (length_le_length_flatMap fun e he => ?_)) fun d hd => ?_
    · exact (ih e he).disjuncts_ne_nil
    · obtain ⟨e, he, hd⟩ := List.mem_flatMap.mp hd
      exact (ih e he).of_mem_disjuncts hd

/-! ## The text of the flat query -/

/-- The texts of queries with a separator between any two of them. -/
def separated (sep : List Char) (text : Expr → List Char) : List Expr → List Char
  | [] => []
  | [e] => text e
  | e :: es => text e ++ (sep ++ separated sep text es)

section

variable {sep : List Char} {text : Expr → List Char}

theorem separated_cons (e : Expr) (hne : es ≠ []) :
    separated sep text (e :: es) = text e ++ (sep ++ separated sep text es) := by
  obtain ⟨d, ds, rfl⟩ := List.exists_cons_of_ne_nil hne
  rw [separated]
  exact List.cons_ne_nil d ds

theorem separated_append {ds : List Expr} (hd : ds ≠ []) (he : es ≠ []) :
    separated sep text (ds ++ es) = separated sep text ds ++ (sep ++ separated sep text es) := by
  induction ds with
  | nil => exact absurd rfl hd
  | cons d ds ih =>
    by_cases hds : ds = []
    · subst hds
      rw [List.singleton_append, separated_cons d he, separated]
    · rw [List.cons_append, separated_cons d (by simp [hds]), ih hds, separated_cons d hds]
      simp only [List.append_assoc]

/-- Splicing does not show if what replaces a query has the text of the query. -/
theorem separated_flatMap {f : Expr → List Expr} (hf : ∀ e ∈ es, f e ≠ [])
    (htext : ∀ e ∈ es, separated sep text (f e) = text e) :
    separated sep text (es.flatMap f) = separated sep text es := by
  induction es with
  | nil => rfl
  | cons e es ih =>
    obtain ⟨he, hf⟩ := List.forall_mem_cons.mp hf
    obtain ⟨hfirst, htext⟩ := List.forall_mem_cons.mp htext
    rw [List.flatMap_cons]
    by_cases hes : es = []
    · subst hes
      rw [List.flatMap_nil, List.append_nil, hfirst, separated]
    · rw [separated_append he (flatMap_ne_nil hes hf), hfirst, ih hf htext, separated_cons e hes]

end

theorem renderAll_eq (es : List Expr) : renderAll es = separated [' '] renderFactor es := by
  induction es with
  | nil => rw [renderAll, separated]
  | cons e es ih =>
    cases es with
    | nil => rw [renderAll, separated]
    | cons d ds =>
      rw [renderAll, ih, separated_cons e (List.cons_ne_nil d ds), List.singleton_append]
      exact List.cons_ne_nil d ds

theorem renderAny_eq (es : List Expr) : renderAny es = separated [' ', '+', ' '] render es := by
  have hplus : " + ".toList = [' ', '+', ' '] := rfl
  induction es with
  | nil => rw [renderAny, separated]
  | cons e es ih =>
    cases es with
    | nil => rw [renderAny, separated]
    | cons d ds =>
      rw [renderAny, ih, separated_cons e (List.cons_ne_nil d ds), hplus, List.append_assoc]
      exact List.cons_ne_nil d ds

/-- The operands of a conjunction are printed like the conjunction. -/
theorem renderAll_conjuncts (e : Expr) : renderAll e.conjuncts = e.renderFactor := by
  cases e <;> simp [conjuncts, renderAll, renderFactor, render]

theorem renderAny_disjuncts (e : Expr) : renderAny e.disjuncts = e.render := by
  cases e <;> simp [disjuncts, renderAny, render]

/-- Splicing does not show in the text. -/
theorem Readable.render_flat (h : e.Readable) : e.flat.render = e.render := by
  induction h with
  | tag h => rfl
  | metatag h => rfl
  | @neg e _ ih =>
    have hconn : e.flat.isConnective = e.isConnective := by simp [isConnective]
    rw [Expr.flat, render_neg, render_neg, ih, hconn]
  | @all es _ hs ih =>
    rw [Expr.flat, render, render, flatAll_eq_flatMap, renderAll_eq, renderAll_eq]
    refine separated_flatMap (fun e he => (hs e he).flat.conjuncts_ne_nil) fun e he => ?_
    rw [← renderAll_eq, renderAll_conjuncts, renderFactor_eq, renderFactor_eq, isAny_flat, ih e he]
  | @any es _ hs ih =>
    rw [Expr.flat, render, render, flatAny_eq_flatMap, renderAny_eq, renderAny_eq]
    refine separated_flatMap (fun e he => (hs e he).flat.disjuncts_ne_nil) fun e he => ?_
    rw [← renderAny_eq, renderAny_disjuncts, ih e he]

end Expr

/-! ## Printed queries are read -/

/-- A text behind an operand, which neither lengthens a word nor makes it a key. -/
structure Follows (x : List Char) : Prop where
  noWord : ∀ c ∈ x.head?, isWord c = false
  noColon : ¬∃ t, Spaces x (':' :: t)

theorem follows_nil : Follows [] := by
  constructor
  · intro c hc
    cases hc
  · rintro ⟨t, ht⟩
    rw [spaces_cons_iff (by decide)] at ht
    cases ht

/-- A blank ends a word, and no colon comes next. -/
theorem follows_blank {c : Char} (hspace : isWhitespace c = false) (hcolon : c ≠ ':')
    (x : List Char) : Follows (' ' :: c :: x) := by
  constructor
  · rintro c ⟨⟩
    decide
  · rintro ⟨t, ht⟩
    have hblank : Spaces (' ' :: c :: x) (c :: x) := (Spaces.refl _).cons (by decide)
    rw [spaces_cons_iff (by decide), hblank.skipSpace_eq, skipSpace_cons hspace] at ht
    exact hcolon (List.cons.inj ht).1

theorem Opens.follows (h : Opens s) : Follows (' ' :: s) := by
  obtain ⟨c, t, rfl, hspace, -, -, hcolon⟩ := h.cases
  exact follows_blank hspace hcolon t

theorem word_tag {l : String} (h : isValidLabel l = true) (hx : Follows x) :
    Word (.tag l) (l.toList ++ x) x := by
  obtain ⟨hne, hall⟩ := isValidLabel_iff.mp h
  have hword : Word (.tag (String.ofList l.toList)) (l.toList ++ x) x :=
    .tag ⟨rfl, hne, hall, hx.noWord⟩ hx.noColon
  rwa [String.ofList_toList] at hword

/-- A key is read as it is printed. -/
theorem Key.ofKeyword?_keyword (key : Key) :
    ofKeyword? (String.ofList key.keyword.toList) = some key := by
  rw [String.ofList_toList]
  cases key <;> rfl

theorem Key.isValidLabel_keyword (key : Key) : isValidLabel key.keyword = true := by
  cases key <;> decide

theorem word_metatag {m : Metatag} (h : m.Readable) (x : List Char) :
    Word (.metatag m) (m.render ++ x) x := by
  obtain ⟨hne, hall⟩ := isValidLabel_iff.mp m.key.isValidLabel_keyword
  have hpattern : Pattern.make m.pattern.kind (String.ofList m.pattern.source.toList)
      m.key.ignoresCase = .ok m.pattern := by
    rw [String.ofList_toList]
    exact Pattern.make_eq_ok_iff.mpr ⟨rfl, rfl, h.ignoreCase⟩
  have hvalue : Value m.pattern.kind m.pattern.source.toList (m.pattern.render ++ x) x := by
    rw [Pattern.render_eq, List.append_assoc]
    exact value_of_delimited (h.delimited x)
  rw [Metatag.render, List.append_assoc]
  refine .metatag ⟨rfl, hne, hall, ?_⟩ m.key.ofKeyword?_keyword (.refl _) (.refl _) hvalue hpattern
  rintro c ⟨⟩
  decide

/-- A chain goes on behind a gap. -/
theorem Chain.join {item : Phrase} {gap : List Char → List Char → Prop} {ds : List Expr}
    {u : List Char} (h : Chain item gap ds s t) (hgap : gap t u) (hs : Chain item gap es u r) :
    Chain item gap (ds ++ es) s r := by
  induction h with
  | one h => exact .cons h hgap hs
  | cons h hg _ ih => exact .cons h hg (ih hgap)

/-- The operands of the flat query are read off the text of a query, in front of any text that may
follow. -/
structure Reads (e : Expr) : Prop where
  conjuncts : ∀ {n x}, e.nestingFactor ≤ n → Follows x →
    Chain (Operand n) Spaces e.flat.conjuncts (e.renderFactor ++ x) x
  disjuncts : ∀ {n x}, e.nesting ≤ n → Follows x →
    Chain (Conjunction (Operand n)) Plus e.flat.disjuncts (e.render ++ x) x

theorem written_of_chain (hread : e.Readable)
    (h : Chain (Conjunction (Operand n)) Plus e.flat.disjuncts (e.render ++ []) []) :
    Written n e.flat e.render := by
  rw [List.append_nil] at h
  exact ⟨_, _, .refl _, ⟨_, hread.flat.joined_disjuncts.symm, h⟩, .refl []⟩

/-- A query that is no connective is a single operand. -/
theorem reads_of_operand (hconn : e.isConnective = false)
    (h : ∀ {n x}, e.nesting ≤ n → Follows x → Operand n e.flat (e.render ++ x) x) : Reads e := by
  obtain ⟨hall, hany⟩ := Bool.or_eq_false_iff.mp hconn
  constructor
  · intro n x hn hx
    rw [Expr.nestingFactor, hany] at hn
    rw [Expr.conjuncts_of_isAll (by simpa using hall), Expr.renderFactor_eq, hany]
    exact .one (h hn hx)
  · intro n x hn hx
    rw [Expr.disjuncts_of_isAny (by simpa using hany)]
    exact .one ⟨_, rfl, .one (h hn hx)⟩

/-- Behind a minus sign, a connective stands in parentheses. -/
theorem Reads.neg (h : Reads e) (hread : e.Readable) : Reads e.neg := by
  refine reads_of_operand rfl fun {n x} hn hx => ?_
  rw [Expr.nesting_neg] at hn
  obtain ⟨m, rfl⟩ : ∃ m, n = m + 1 := Nat.exists_eq_succ_of_ne_zero (by omega)
  have hle : e.nestingTight ≤ m := by omega
  rw [Expr.render_neg]
  refine .neg ?_
  unfold Expr.nestingTight at hle
  cases hconn : e.isConnective with
  | true =>
    simp only [hconn, if_true] at hle ⊢
    obtain ⟨k, rfl⟩ : ∃ k, m = k + 1 := Nat.exists_eq_succ_of_ne_zero (by omega)
    have hwritten := written_of_chain hread (h.disjuncts (n := k) (by omega) follows_nil)
    exact hwritten.group x
  | false =>
    simp only [hconn, Bool.false_eq_true, if_false] at hle ⊢
    obtain ⟨hall, hany⟩ := Bool.or_eq_false_iff.mp hconn
    have hone := h.conjuncts (n := m) (by simpa [Expr.nestingFactor, hany] using hle) hx
    rwa [Expr.conjuncts_of_isAll (by simpa using hall), Expr.renderFactor_eq, hany, chain_one_iff]
      at hone

/-- Operands are read one after the other if the separator is a gap in front of an operand. -/
theorem chain_separated {item : Phrase} {gap : List Char → List Char → Prop} {sep : List Char}
    {text : Expr → List Char} {f : Expr → List Expr} (hne : es ≠ [])
    (hread : ∀ e ∈ es, ∀ {x}, Follows x → Chain item gap (f e) (text e ++ x) x)
    (hopens : ∀ {e s r}, item e s r → Opens s)
    (hsep : ∀ {s}, Opens s → gap (sep ++ s) s ∧ Follows (sep ++ s)) (hx : Follows x) :
    Chain item gap (es.flatMap f) (Expr.separated sep text es ++ x) x := by
  induction es with
  | nil => exact absurd rfl hne
  | cons e es ih =>
    obtain ⟨he, hread⟩ := List.forall_mem_cons.mp hread
    rw [List.flatMap_cons]
    by_cases hes : es = []
    · subst hes
      rw [List.flatMap_nil, List.append_nil, Expr.separated]
      exact he hx
    · have hrest := ih hes hread
      obtain ⟨hgap, hfollows⟩ := hsep (hrest.opens hopens)
      rw [Expr.separated_cons e hes, List.append_assoc, List.append_assoc]
      exact (he hfollows).join hgap hrest

theorem chain_flatAll (hne : es ≠ []) (h : ∀ e ∈ es, Reads e)
    (hn : ∀ e ∈ es, e.nestingFactor ≤ n) (hx : Follows x) :
    Chain (Operand n) Spaces (Expr.flatAll es) (Expr.renderAll es ++ x) x := by
  rw [Expr.flatAll_eq_flatMap, Expr.renderAll_eq]
  refine chain_separated hne (fun e he _ => (h e he).conjuncts (hn e he)) Operand.opens ?_ hx
  intro s hs
  exact ⟨(Spaces.refl s).cons (by decide), hs.follows⟩

theorem chain_flatAny (hne : es ≠ []) (h : ∀ e ∈ es, Reads e) (hn : ∀ e ∈ es, e.nesting ≤ n)
    (hx : Follows x) :
    Chain (Conjunction (Operand n)) Plus (Expr.flatAny es) (Expr.renderAny es ++ x) x := by
  rw [Expr.flatAny_eq_flatMap, Expr.renderAny_eq]
  refine chain_separated hne (fun e he _ => (h e he).disjuncts (hn e he)) Conjunction.opens ?_ hx
  intro s _
  have hblank : ∀ s, Spaces (' ' :: s) s := fun s => (Spaces.refl s).cons (by decide)
  exact ⟨⟨_, hblank _, hblank s⟩, follows_blank (by decide) (by decide) _⟩

/-- **The text of a readable query is read**, whatever may follow it. -/
theorem Expr.Readable.reads (h : e.Readable) : Reads e := by
  induction h with
  | tag h =>
    refine reads_of_operand rfl fun _ hx => ?_
    rw [Expr.render]
    exact (word_tag h hx).operand _
  | metatag h =>
    refine reads_of_operand rfl fun _ _ => ?_
    rw [Expr.render]
    exact (word_metatag h _).operand _
  | neg hread ih => exact ih.neg hread
  | @all es two hs ih =>
    have hne : es ≠ [] := List.ne_nil_of_length_pos (Nat.lt_of_lt_of_le Nat.two_pos two)
    have hread := Expr.Readable.all two hs
    have hchain : ∀ {n x}, Expr.nestingAll es ≤ n → Follows x →
        Chain (Operand n) Spaces (Expr.flatAll es) ((Expr.all es).render ++ x) x := by
      intro n x hn hx
      rw [Expr.render]
      exact chain_flatAll hne ih (Expr.nestingAll_le_iff.mp hn) hx
    constructor
    · intro n x hn hx
      rw [Expr.renderFactor_eq]
      exact hchain hn hx
    · intro n x hn hx
      exact .one ⟨_, hread.flat.joined_conjuncts.symm, hchain hn hx⟩
  | @any es two hs ih =>
    have hne : es ≠ [] := List.ne_nil_of_length_pos (Nat.lt_of_lt_of_le Nat.two_pos two)
    have hread := Expr.Readable.any two hs
    have hchain : ∀ {n x}, Expr.nestingAny es ≤ n → Follows x →
        Chain (Conjunction (Operand n)) Plus (Expr.flatAny es) ((Expr.any es).render ++ x) x := by
      intro n x hn hx
      rw [Expr.render]
      exact chain_flatAny hne ih (Expr.nestingAny_le_iff.mp hn) hx
    constructor
    · intro n x hn _
      have hlt : Expr.nestingAny es < n := hn
      obtain ⟨m, rfl⟩ := Nat.exists_eq_add_one_of_ne_zero (Nat.ne_zero_of_lt hlt)
      have hwritten := written_of_chain hread (hchain (Nat.le_of_lt_succ hlt) follows_nil)
      rw [Expr.renderFactor_eq]
      exact .one (hwritten.group x)
    · exact hchain

/-- The text of a readable query is that of the flat query. -/
theorem Expr.Readable.written (h : e.Readable) (hn : e.nesting ≤ n) : Written n e.flat e.render :=
  written_of_chain h (h.reads.disjuncts hn follows_nil)

theorem toList_toString (e : Expr) : (toString e).toList = e.render := String.toList_ofList

/-- **Printing a query that was read and reading it again** gives the flat query, which is the query
itself exactly where no connective stands directly under one of its kind.  The printed text never
opens more minus signs and parentheses at once than the text that was read, and the flat query has
the same text. -/
theorem parse_toString {text : String} (h : parse text = .ok e) :
    parse (toString e) = .ok e.flat
      ∧ (parse (toString e) = .ok e ↔ e.IsFlat)
      ∧ (∀ n, Written n e text.toList → Written n e.flat (toString e).toList)
      ∧ toString e.flat = toString e := by
  have hread := (parse_eq_ok_iff.mp h).readable
  have hnest : ∀ n, Written n e text.toList → Written n e.flat (toString e).toList := by
    intro n hn
    rw [toList_toString]
    exact hn.readable.1.written hn.readable.2
  have hflat : parse (toString e) = .ok e.flat :=
    parse_eq_ok_iff.mpr (hnest maxNesting (parse_eq_ok_iff.mp h))
  refine ⟨hflat, ?_, hnest, ?_⟩
  · rw [hflat, Except.ok.injEq, Expr.flat_eq_self_iff]
  · exact congrArg String.ofList hread.1.render_flat

/-- A text with groups and white space that are not printed again, and with a value that is quoted
when it is. -/
theorem parse_toString_groups :
    ∃ m : Metatag, parse "(a ext : jpg)(b+(c + -(d e)))"
        = .ok (.all [.all [.tag "a", .metatag m],
            .any [.tag "b", .any [.tag "c", .neg (.all [.tag "d", .tag "e"])]]])
      ∧ parse "a type:\"jpg\" (b + c + -(d e))"
        = .ok (.all [.tag "a", .metatag m,
            .any [.tag "b", .tag "c", .neg (.all [.tag "d", .tag "e"])]]) := by
  let p : Pattern := ⟨.glob, "jpg", true, .lowered "jpg", by decide +kernel⟩
  have h : parse "(a ext : jpg)(b+(c + -(d e)))"
      = .ok (.all [.all [.tag "a", .metatag ⟨.type, p⟩],
          .any [.tag "b", .any [.tag "c", .neg (.all [.tag "d", .tag "e"])]]]) := by
    decide +kernel
  obtain ⟨hflat, -⟩ := parse_toString h
  refine ⟨⟨.type, p⟩, h, ?_⟩
  refine .trans (congrArg parse ?_) hflat
  refine congrArg String.ofList (?_ : _ = Expr.render _)
  simp [p, Expr.render, Expr.renderAll, Expr.renderFactor, Expr.renderAny, Expr.parenthesize,
    Metatag.render, Key.keyword, Pattern.render]

end Gallery.Query
