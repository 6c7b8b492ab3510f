import Gallery.Proofs.Query.Faults
import Gallery.Proofs.Query.GlobExpression
import Gallery.Proofs.Query.Printing
import Gallery.Proofs.Regex.Program

/-!
# `Gallery.Proofs.Query.Quoting` — every text can be asked for

A backslash is read twice, once to find the closing quote and once as part of the glob.  Both times
it takes the meaning from the character after it, so one backslash in front of each character with a
meaning writes any text.

## Contents
- `quoted`, a text with its backslashes, and how it is read: `delimited_quoted`, `parse_quoted`.
- `exists_literal`, its pattern; `Key.asking`, the query for a text.
- `parse_of_word_error`, `word_error` and `value_error`, where an error in the first word goes.
- `parse_asking`, what the query asks for, and that no source is read with an open escape;
  `not_parse_asking_long`, a text that is too long.
-/

namespace Gallery.Query

open Gallery.Text

variable {s r source : List Char}

/-- The characters between double quotes with a meaning of their own. -/
def isSpecial (c : Char) : Bool := c == '"' || c == '\\' || c == '*' || c == '?'

/-- The text with a backslash in front of every such character. -/
def quoted : List Char → List Char
  | [] => []
  | c :: s => if isSpecial c then '\\' :: c :: quoted s else c :: quoted s

/-- The query for the images whose value for the key is the given text. -/
def Key.asking (key : Key) (text : String) : String :=
  key.keyword ++ ":\"" ++ String.ofList (quoted text.toList) ++ "\""

theorem not_isSpecial_iff {c : Char} :
    isSpecial c = false ↔ c ≠ '"' ∧ c ≠ '\\' ∧ c ≠ '*' ∧ c ≠ '?' := by
  simp [isSpecial, and_assoc]

/-! ## Reading a quoted text -/

/-- No quote in a quoted text closes it. -/
theorem delimited_quoted (s x : List Char) :
    Delimited '"' (quoted s) (quoted s ++ '"' :: x) x := by
  induction s with
  | nil => exact .closed x
  | cons c s ih =>
    rw [quoted]
    cases hc : isSpecial c with
    | true => exact .escaped c ih
    | false =>
      obtain ⟨hquote, hescape, -⟩ := not_isSpecial_iff.mp hc
      exact .char hquote hescape ih

/-- As a glob, a quoted text has no wildcards. -/
theorem Glob.parse_quoted (s : List Char) : Glob.parse (quoted s) = some (s.map .char) := by
  induction s with
  | nil => rfl
  | cons c s ih =>
    rw [quoted]
    cases hc : isSpecial c with
    | true => exact congrArg (Option.map (GlobItem.char c :: ·)) ih
    | false =>
      obtain ⟨-, hescape, hstar, hquestion⟩ := not_isSpecial_iff.mp hc
      exact (parse_cons hstar hquestion hescape _).trans (congrArg _ ih)

theorem Glob.literal?_map_char (s : List Char) : Glob.literal? (s.map .char) = some s := by
  induction s with
  | nil => rfl
  | cons c s ih => exact congrArg (Option.map (c :: ·)) ih

/-- The expression that is compiled for a text. -/
def literalRegex (text : String) : Regex := Glob.toRegex false (text.toList.map .char)

theorem Glob.parse_quoted_text (text : String) :
    Glob.parse (String.ofList (quoted text.toList)).toList = some (text.toList.map .char) := by
  rw [String.toList_ofList, parse_quoted]

/-- The pattern of a quoted text compares with that text. -/
theorem exists_literal {text : String} (hfits : (literalRegex text).Fits) :
    ∃ p, Pattern.make .glob (String.ofList (quoted text.toList)) false = .ok p
      ∧ p.isLiteral = true ∧ ∀ t, p.isMatch t = true ↔ t = text := by
  obtain ⟨p, hp, hm⟩ := Pattern.exists_make (Glob.parse_quoted_text text) hfits
  have hexact : p.matcher = .exact text := by
    rw [hm, Matcher.ofGlob, Glob.literal?_map_char]
    simp
  refine ⟨p, hp, ?_, fun t => ?_⟩
  · rw [Pattern.isLiteral, hexact]
  · rw [Pattern.isMatch, hexact]
    exact beq_iff_eq

/-- A metatag alone is a query. -/
theorem Metatag.Readable.parse_render {m : Metatag} (h : m.Readable) :
    parse (String.ofList m.render) = .ok (.metatag m) := by
  have hword := word_metatag h []
  rw [List.append_nil] at hword
  rw [parse_eq_ok_iff, String.toList_ofList]
  exact ⟨_, [], .refl _, ⟨_, rfl, .one ⟨_, rfl, .one (hword.operand _)⟩⟩, .refl []⟩

/-! ## Values that do not compile -/

/-- An error in the first word of a text is the error of the text. -/
theorem parse_of_word_error {c : Char} {err : QueryError} (hword : isWord c = true)
    (h : word (c :: s).length c s = .error err) : parse (String.ofList (c :: s)) = .error err := by
  have hopens : Opens (c :: s) := ⟨c, s, rfl, .inl hword⟩
  have hskip := hopens.skipSpace_eq
  have hends : endsOperands (skipSpace (c :: s)).1 = false := by rw [hskip, hopens.endsOperands_eq]
  have hminus : c ≠ '-' := by
    rintro rfl
    revert hword
    decide
  have hgroup : c ≠ '(' := by
    rintro rfl
    revert hword
    decide
  -- What is left is passed on as what white space leaves of the text.
  have hunary : parseUnary (c :: s).length 0 (skipSpace (c :: s)).1 = .error err := by
    rw [hskip, parseUnary, if_neg hminus, if_neg hgroup, if_pos hword, h]
  have hall : parseAll (c :: s).length 0 (c :: s) = .error err := by
    rw [parseAll]
    simp only [hends, hunary, Bool.false_eq_true, if_false]
  have hany : parseAny (c :: s).length 0 (skipSpace (c :: s)).1 = .error err := by
    rw [hskip, parseAny, hall]
  have hne : (skipSpace (c :: s)).1.isEmpty = false := by
    rw [hskip]
    rfl
  rw [parse, String.toList_ofList]
  simp only [hne, hany, Bool.false_eq_true, if_false]

/-- A word in front of a colon is a key, and an error of its value is that of the word. -/
theorem word_error {size : Nat} {c : Char} {key : Key} {t : List Char} {err : QueryError}
    (hlabel : Key.ofKeyword? (String.ofList (c :: s.takeWhile isWord)) = some key)
    (hcolon : (skipSpace (s.dropWhile isWord)).1 = ':' :: t)
    (hvalue : value size key (skipSpace t).1 = .error err) : word size c s = .error err := by
  unfold word
  dsimp only
  split
  · rename_i u hu
    obtain rfl : u = t := (List.cons.inj (hu.symm.trans hcolon)).2
    simp only [hlabel, hvalue]
  · rename_i hne
    exact absurd hcolon (hne t)

theorem value_error {size : Nat} {key : Key} {e : PatternError} (h : Delimited '"' source s r)
    (hmake : Pattern.make .glob (String.ofList source) key.ignoresCase = .error e) :
    value size key ('"' :: s) = .error (.invalidPattern e) := by
  obtain ⟨hle, hdelimited⟩ := (gives_delimited_iff (by decide)).mpr h
  rw [value, if_pos rfl, hdelimited]
  simp only [metatagWith, metatag, hmake]

/-! ## Asking for a text -/

/-- Where the pattern does not compile, the query is refused for that reason. -/
theorem parse_asking_error (key : Key) {text : String} {e : PatternError}
    (hmake : Pattern.make .glob (String.ofList (quoted text.toList)) key.ignoresCase = .error e) :
    parse (key.asking text) = .error (.invalidPattern e) := by
  obtain ⟨hne, hall⟩ := isValidLabel_iff.mp key.isValidLabel_keyword
  obtain ⟨c, w, hkeyword⟩ := List.exists_cons_of_ne_nil hne
  have hkey := key.ofKeyword?_keyword
  rw [hkeyword] at hall hkey
  obtain ⟨hhead, hrun⟩ := List.forall_mem_cons.mp hall
  have htext : key.asking text
      = String.ofList (c :: (w ++ ':' :: '"' :: (quoted text.toList ++ ['"']))) := by
    rw [← String.toList_inj, String.toList_ofList]
    simp [Key.asking, hkeyword]
  have hvalue : ∀ size, value size key ('"' :: (quoted text.toList ++ ['"']))
      = .error (.invalidPattern e) := fun _ => value_error (delimited_quoted text.toList []) hmake
  rw [htext]
  have hcolon : isWord ':' = false := by decide +kernel
  refine parse_of_word_error hhead (word_error (t := '"' :: (quoted text.toList ++ ['"'])) ?_ ?_ (hvalue _))
  · rw [List.takeWhile_append_of_pos hrun, List.takeWhile_cons_of_neg (by rw [hcolon]; decide),
      List.append_nil, hkey]
  · rw [List.dropWhile_append_of_pos hrun, List.dropWhile_cons_of_neg (by rw [hcolon]; decide)]
    rfl

theorem exists_parse_asking {key : Key} (hkey : key.ignoresCase = false) {text : String}
    (hfits : (literalRegex text).Fits) : ∃ p, parse (key.asking text) = .ok (.metatag ⟨key, p⟩)
      ∧ p.isLiteral = true ∧ ∀ t, p.isMatch t = true ↔ t = text := by
  obtain ⟨p, hp, hliteral, hmatch⟩ := exists_literal hfits
  obtain ⟨hkind, hsource, hcase⟩ := Pattern.make_eq_ok_iff.mp hp
  have hread : Metatag.Readable ⟨key, p⟩ := by
    refine ⟨hcase.trans hkey.symm, fun x => ?_⟩
    rw [hkind, hsource, String.toList_ofList]
    exact delimited_quoted text.toList x
  refine ⟨p, ?_, hliteral, hmatch⟩
  rw [← hread.parse_render]
  refine congrArg parse (String.toList_inj.mp ?_)
  simp [Key.asking, Metatag.render, Pattern.render_eq, PatternKind.delimiter, hkind, hsource]

/-- **Every text can be asked for exactly** as long as the expression that is compiled for it stays
within the size limit; a longer text is refused for that reason.  No glob is read with an open
escape: not between quotes, not without them, and so never in a query. -/
theorem parse_asking :
    (∀ key ∈ [Key.name, .path, .similarTo], ∀ text : String,
        ((literalRegex text).Fits → ∃ p, parse (key.asking text) = .ok (.metatag ⟨key, p⟩)
            ∧ p.isLiteral = true ∧ ∀ t, p.isMatch t = true ↔ t = text)
          ∧ (¬(literalRegex text).Fits →
            parse (key.asking text) = .error (.invalidPattern (.regex .tooLarge))))
      ∧ (∀ s source r, delimited '"' s = some (source, r) → ¬Glob.Dangles source)
      ∧ (∀ s : List Char, ¬Glob.Dangles (s.takeWhile isValueChar))
      ∧ ∀ text source, parse text ≠ .error (.invalidPattern (.danglingEscape source)) := by
  refine ⟨fun key hkey text => ?_, fun s source r h => ?_, fun s => ?_, fun text source h => ?_⟩
  · have hcase : key.ignoresCase = false := by
      revert key
      decide
    refine ⟨exists_parse_asking hcase, fun hlarge => parse_asking_error key ?_⟩
    rw [hcase]
    exact Pattern.make_tooLarge (Glob.parse_quoted_text text) hlarge
  · have hsource : Delimited '"' source s r.1 := (gives_delimited_iff (by decide)).mp ⟨r.2, h⟩
    exact hsource.not_dangles
  · exact not_dangles_takeWhile s
  · cases parse_error h

/-- A path with every character that has a meaning, and a backslash at the end. -/
theorem parse_asking_path :
    (∃ p, parse "path:\"a\\\"b\\*\\?\\\\\"" = .ok (.metatag ⟨.path, p⟩)
        ∧ p.isLiteral = true ∧ ∀ t, p.isMatch t = true ↔ t = "a\"b*?\\")
      ∧ (literalRegex "a\"b*?\\").Fits
      ∧ ¬Glob.Dangles ['\\', '\\']
      ∧ parse "path:\"a\\" ≠ .error (.invalidPattern (.danglingEscape "a\\")) := by
  have hfits : (literalRegex "a\"b*?\\").Fits := by decide +kernel
  exact ⟨(parse_asking.1 .path (by decide) "a\"b*?\\").1 hfits, hfits,
    parse_asking.2.1 ['\\', '\\', '"'] _ ⟨[], by decide⟩ rfl, parse_asking.2.2.2 _ _⟩

theorem not_fits_of_lt {n : Nat} (hn : Regex.sizeLimit < (n + 6) * Regex.stateSize) :
    ¬(literalRegex (String.ofList (List.replicate n 'a'))).Fits := by
  have ha : ('a').utf8Size = 1 := rfl
  rw [literalRegex, Regex.fits_literal_iff, Regex.utf8ByteSize_eq_sum, String.toList_ofList,
    List.map_replicate, List.sum_replicate_nat, ha, Nat.mul_one]
  exact Nat.not_le_of_lt hn

/-- A text of 440000 characters cannot be asked for. -/
theorem not_parse_asking_long :
    ¬∀ key ∈ [Key.name, .path, .similarTo], ∀ text : String,
      ∃ p, parse (key.asking text) = .ok (.metatag ⟨key, p⟩)
        ∧ p.isLiteral = true ∧ ∀ t, p.isMatch t = true ↔ t = text := by
  intro h
  obtain ⟨text, hlarge⟩ : ∃ text, ¬(literalRegex text).Fits :=
    ⟨_, not_fits_of_lt (n := 440000) (by decide)⟩
  obtain ⟨p, hp, -⟩ := h .name (by decide) text
  have hmake := Pattern.make_tooLarge (Glob.parse_quoted_text text) hlarge
  cases hp.symm.trans (parse_asking_error .name hmake)

end Gallery.Query
