import Gallery.Fingerprint
import Mathlib.Data.String.Basic
import Mathlib.Tactic.Ring

/-!
# `Gallery.Proofs.Fingerprint.Numerals` — the written form of fingerprints

A fingerprint is written as a hexadecimal numeral of sixteen digits.  The reader counts the bytes
of the text and leaves the rest to a reader of numerals, so it takes the texts of sixteen bytes that
denote a number.  A numeral may have a plus sign in front: with it, fifteen digits fill the sixteen
bytes.

## Contents
- `Digit` and `Numeral`, digits and the number that they make by position.
- `readHex?_eq_some_iff` and `numeral_writeHex`, what is read and what is written.
- `Bare`, a text without its marks, and `Form`, the two forms that are read.
- `readings`, the answer to every text; `not_parse_digits_iff`, it is not "sixteen digits".
-/

namespace Gallery.Text

/-! ## Numerals -/

/-- The character is the digit of this value, in either case. -/
def Digit (c : Char) (d : Nat) : Prop :=
  "0123456789abcdef".toList[d]? = some c ∨ "0123456789ABCDEF".toList[d]? = some c

instance (c : Char) (d : Nat) : Decidable (Digit c d) := inferInstanceAs (Decidable (_ ∨ _))

theorem Digit.lt {c : Char} {d : Nat} (h : Digit c d) : d < 16 := by
  obtain h | h := h <;> exact (List.getElem?_eq_some_iff.1 h).1

/-- A character that has a value is one of the first 128. -/
theorem lt_of_hexValue? {c : Char} {d : Nat} (h : hexValue? c = some d) : c.toNat < 128 := by
  have hle : ∀ {a : Char}, c ≤ a → c.toNat ≤ a.toNat := fun h => UInt32.le_iff_toNat_le.1 h
  simp only [hexValue?, Bool.and_eq_true, decide_eq_true_eq] at h
  split at h
  case isTrue hc => exact Nat.lt_of_le_of_lt (hle hc.2) (by decide)
  split at h
  case isTrue hc => exact Nat.lt_of_le_of_lt (hle hc.2) (by decide)
  split at h
  case isTrue hc => exact Nat.lt_of_le_of_lt (hle hc.2) (by decide)
  cases h

theorem hexValue?_eq_some_iff {c : Char} {d : Nat} : hexValue? c = some d ↔ Digit c d := by
  constructor
  · intro h
    have hall : ∀ n : Fin 128, ∀ e ∈ hexValue? (Char.ofNat n), Digit (Char.ofNat n) e := by
      decide +kernel
    have hc := hall ⟨c.toNat, lt_of_hexValue? h⟩ d
    rw [Char.ofNat_toNat] at hc
    exact hc h
  · intro h
    have hall : ∀ e : Fin 16, hexValue? "0123456789abcdef".toList[e.val]! = some e.val ∧
        hexValue? "0123456789ABCDEF".toList[e.val]! = some e.val := by
      decide +kernel
    obtain ⟨hlower, hupper⟩ := hall ⟨d, h.lt⟩
    obtain h | h := h
    · rwa [List.getElem!_of_getElem? h] at hlower
    · rwa [List.getElem!_of_getElem? h] at hupper

theorem digit_hexDigit {d : Nat} (h : d < 16) : Digit (hexDigit d) d :=
  (by decide +kernel : ∀ e : Fin 16, Digit (hexDigit e) e) ⟨d, h⟩

/-- The characters are digits, and the number is theirs: each digit counts as often as its position
says. -/
inductive Numeral : List Char → Nat → Prop where
  | nil : Numeral [] 0
  | cons {c : Char} {d : Nat} {cs : List Char} {n : Nat} (hc : Digit c d) (h : Numeral cs n) :
      Numeral (c :: cs) (d * 16 ^ cs.length + n)

namespace Numeral

variable {cs : List Char} {n : Nat}

theorem lt (h : Numeral cs n) : n < 16 ^ cs.length := by
  induction h with
  | nil => exact Nat.one_pos
  | @cons c d cs n hc _ ih =>
    calc d * 16 ^ cs.length + n
        < (d + 1) * 16 ^ cs.length := by rw [Nat.succ_mul]; exact Nat.add_lt_add_left ih _
      _ ≤ 16 * 16 ^ cs.length := Nat.mul_le_mul_right _ hc.lt
      _ = 16 ^ (cs.length + 1) := by rw [Nat.pow_succ, Nat.mul_comm]

/-- One more digit at the end. -/
theorem snoc {c : Char} {d : Nat} (h : Numeral cs n) (hc : Digit c d) :
    Numeral (cs ++ [c]) (16 * n + d) := by
  induction h with
  | nil => simpa using Numeral.cons hc .nil
  | @cons c' d' cs n hc' _ ih =>
    have hvalue : 16 * (d' * 16 ^ cs.length + n) + d
        = d' * 16 ^ (cs ++ [c]).length + (16 * n + d) := by
      rw [List.length_append, List.length_singleton, Nat.pow_succ]
      ring
    rw [List.cons_append, hvalue]
    exact .cons hc' ih

/-- Digits take one byte each. -/
theorem utf8Len_eq (h : Numeral cs n) : String.utf8Len cs = cs.length := by
  induction h with
  | nil => rfl
  | cons hc _ ih =>
    have hsize := Char.utf8Size_eq_one_iff.2 (Nat.le_of_lt_succ
      (lt_of_hexValue? (hexValue?_eq_some_iff.2 hc)))
    rw [String.utf8Len_cons, List.length_cons, ih, hsize]

theorem isHexDigit_of_mem (h : Numeral cs n) : ∀ c ∈ cs, isHexDigit c = true := by
  induction h with
  | nil => exact fun c hc => absurd hc List.not_mem_nil
  | cons hc _ ih =>
    refine List.forall_mem_cons.2 ⟨?_, ih⟩
    rw [isHexDigit, hexValue?_eq_some_iff.2 hc, Option.isSome_some]

theorem not_plus (h : Numeral ('+' :: cs) n) : False :=
  absurd (h.isHexDigit_of_mem '+' List.mem_cons_self) (by decide)

end Numeral

/-- The reader has the digits up to here as `acc`, which the digits that follow shift. -/
theorem readHexFrom_eq_some_iff {acc : Nat} {cs : List Char} {n : Nat} :
    readHexFrom acc cs = some n ↔ ∃ m, Numeral cs m ∧ n = acc * 16 ^ cs.length + m := by
  induction cs generalizing acc with
  | nil =>
    constructor
    · intro h
      cases h
      exact ⟨0, .nil, by simp⟩
    · rintro ⟨m, h, rfl⟩
      cases h
      simp [readHexFrom]
  | cons c cs ih =>
    have hvalue : ∀ d m : Nat, (16 * acc + d) * 16 ^ cs.length + m
        = acc * 16 ^ (c :: cs).length + (d * 16 ^ cs.length + m) := by
      intro d m
      rw [List.length_cons, Nat.pow_succ]
      ring
    rw [readHexFrom]
    constructor
    · intro h
      cases hc : hexValue? c with
      | none => simp [hc] at h
      | some d =>
        simp only [hc] at h
        obtain ⟨m, hm, rfl⟩ := ih.1 h
        exact ⟨_, .cons (hexValue?_eq_some_iff.1 hc) hm, hvalue d m⟩
    · rintro ⟨_, h, rfl⟩
      cases h with
      | cons hc hm =>
        simp only [hexValue?_eq_some_iff.2 hc]
        exact ih.2 ⟨_, hm, (hvalue _ _).symm⟩

theorem readHex?_eq_some_iff {cs : List Char} {n : Nat} :
    readHex? cs = some n ↔ cs ≠ [] ∧ Numeral cs n := by
  cases cs with
  | nil => simp [readHex?]
  | cons c cs => simp [readHex?, readHexFrom_eq_some_iff]

/-- With a sign or without, a number is read from its digits alone. -/
theorem readSignedHex?_eq_some_iff {cs : List Char} {n : Nat} :
    readSignedHex? cs = some n ↔
      cs ≠ [] ∧ Numeral cs n ∨ ∃ digits, cs = '+' :: digits ∧ digits ≠ [] ∧ Numeral digits n := by
  unfold readSignedHex?
  split
  · rename_i digits
    simp only [readHex?_eq_some_iff, List.cons.injEq, true_and, exists_eq_left']
    constructor
    · exact Or.inr
    · rintro (⟨-, h⟩ | h)
      · exact h.not_plus.elim
      · exact h
  · rename_i hplus
    rw [readHex?_eq_some_iff]
    constructor
    · exact Or.inl
    · rintro (h | ⟨digits, rfl, -, -⟩)
      · exact h
      · exact absurd rfl (hplus digits)

theorem length_writeHex (width n : Nat) : (writeHex width n).length = width := by
  induction width generalizing n with
  | zero => rfl
  | succ width ih => rw [writeHex, List.length_append, ih, List.length_singleton]

/-- What is written is a numeral of what the width leaves of the number. -/
theorem numeral_writeHex (width n : Nat) : Numeral (writeHex width n) (n % 16 ^ width) := by
  induction width generalizing n with
  | zero => simpa [Nat.mod_one, writeHex] using Numeral.nil
  | succ width ih =>
    have hvalue : n % 16 ^ (width + 1) = 16 * (n / 16 % 16 ^ width) + n % 16 := by
      rw [Nat.pow_succ, Nat.mul_comm (16 ^ width), Nat.mod_mul, Nat.add_comm]
    rw [writeHex, hvalue]
    exact (ih (n / 16)).snoc (digit_hexDigit (Nat.mod_lt n (by decide)))

end Gallery.Text

namespace Gallery.Fingerprint

open Gallery.Text

/-! ## The texts of fingerprints -/

/-- What is left when all the marks `0x` in front are taken away. -/
inductive Bare : List Char → List Char → Prop where
  | mark {cs rest : List Char} (h : Bare cs rest) : Bare ('0' :: 'x' :: cs) rest
  | unmarked {cs : List Char} (h : ¬['0', 'x'] <+: cs) : Bare cs cs

theorem bare_iff {cs rest : List Char} : Bare cs rest ↔ rest = dropMarks cs := by
  constructor
  · intro h
    induction h with
    | mark _ ih => rwa [dropMarks]
    | unmarked h =>
      rw [dropMarks]
      rintro rest rfl
      exact h ⟨rest, rfl⟩
  · rintro rfl
    fun_induction dropMarks cs with
    | case1 rest ih => exact .mark ih
    | case2 cs hmark =>
      refine .unmarked ?_
      rintro ⟨rest, rfl⟩
      exact hmark rest rfl

/-- The two forms of a fingerprint: sixteen digits, or fifteen with a plus sign. -/
inductive Form : List Char → Nat → Prop where
  | digits {cs : List Char} {n : Nat} (h : Numeral cs n) (hlength : cs.length = 16) : Form cs n
  | signed {cs : List Char} {n : Nat} (h : Numeral cs n) (hlength : cs.length = 15) :
      Form ('+' :: cs) n

/-- Sixteen bytes of which a number is read are in one of the forms. -/
theorem form_iff {cs : List Char} {n : Nat} :
    Form cs n ↔ String.utf8Len cs = 16 ∧ readSignedHex? cs = some n := by
  rw [readSignedHex?_eq_some_iff]
  constructor
  · intro h
    cases h with
    | digits h hlength =>
      exact ⟨h.utf8Len_eq.trans hlength, .inl ⟨List.ne_nil_of_length_eq_add_one hlength, h⟩⟩
    | @signed cs n h hlength =>
      have hsize : String.utf8Len ('+' :: cs) = cs.length + 1 := by
        rw [String.utf8Len_cons, h.utf8Len_eq]
        rfl
      exact ⟨by omega, .inr ⟨cs, rfl, List.ne_nil_of_length_eq_add_one hlength, h⟩⟩
  · rintro ⟨hsize, ⟨-, h⟩ | ⟨digits, rfl, -, h⟩⟩
    · exact .digits h (h.utf8Len_eq ▸ hsize)
    · refine .signed h ?_
      rw [String.utf8Len_cons, h.utf8Len_eq] at hsize
      exact Nat.succ.inj hsize

/-- The number fits into the word. -/
theorem Form.lt {cs : List Char} {n : Nat} (h : Form cs n) : n < 2 ^ 64 := by
  cases h with
  | digits h hlength =>
    have hlt := h.lt
    rwa [hlength] at hlt
  | signed h hlength =>
    have hlt := h.lt
    rw [hlength] at hlt
    exact hlt.trans (by decide)

/-- Where there is no sign, the forms are the sixteen digits. -/
theorem form_iff_digits {cs : List Char} :
    (∀ f : Fingerprint, Form cs f.toNat ↔ cs.length = 16 ∧ Numeral cs f.toNat) ↔
      ¬∃ digits n, '+' :: digits = cs ∧ digits.length = 15 ∧ Numeral digits n := by
  constructor
  · rintro h ⟨digits, n, rfl, hlength, hn⟩
    have hform : Form ('+' :: digits) n := .signed hn hlength
    have hvalue : (UInt64.ofNat n).toNat = n := by
      rw [UInt64.toNat_ofNat', Nat.mod_eq_of_lt hform.lt]
    rw [← hvalue] at hform
    exact ((h _).1 hform).2.not_plus
  · intro hsign f
    refine ⟨fun h => ?_, fun ⟨hlength, hn⟩ => .digits hn hlength⟩
    cases h with
    | digits hn hlength => exact ⟨hlength, hn⟩
    | signed hn hlength => exact (hsign ⟨_, _, rfl, hlength, hn⟩).elim

/-- The error of a text that is in neither form: its length is looked at first. -/
def misread (rest : List Char) : FingerprintError :=
  if (String.ofList rest).utf8ByteSize = 16 then .invalidDigit
  else .wrongLength (String.ofList rest)

theorem parse_of_form {text : String} {n : Nat} (h : Form (dropMarks text.toList) n) :
    parse text = .ok (UInt64.ofNat n) := by
  obtain ⟨hsize, hread⟩ := form_iff.1 h
  rw [← String.utf8ByteSize_ofList] at hsize
  simp only [parse, hsize, hread, ne_eq, not_true_eq_false, if_false]

theorem parse_of_not_form {text : String} (h : ∀ n, ¬Form (dropMarks text.toList) n) :
    parse text = .error (misread (dropMarks text.toList)) := by
  by_cases hsize : (String.ofList (dropMarks text.toList)).utf8ByteSize = 16
  · have hread : readSignedHex? (dropMarks text.toList) = none := by
      rw [String.utf8ByteSize_ofList] at hsize
      exact Option.eq_none_iff_forall_not_mem.2 fun n hn => h n (form_iff.2 ⟨hsize, hn⟩)
    simp only [parse, misread, hsize, hread, ne_eq, not_true_eq_false, if_false, if_true]
  · simp only [parse, misread, hsize, ne_eq, not_false_eq_true, if_true, if_false]

theorem parse_eq_ok_iff {text : String} {f : Fingerprint} :
    parse text = .ok f ↔ Form (dropMarks text.toList) f.toNat := by
  constructor
  · intro h
    by_cases hform : ∃ n, Form (dropMarks text.toList) n
    · obtain ⟨n, hn⟩ := hform
      rw [parse_of_form hn] at h
      cases h
      rwa [UInt64.toNat_ofNat', Nat.mod_eq_of_lt hn.lt]
    · rw [parse_of_not_form (not_exists.1 hform)] at h
      cases h
  · intro h
    rw [parse_of_form h, UInt64.ofNat_toNat]

theorem parse_eq_error_iff {text : String} {e : FingerprintError} :
    parse text = .error e ↔
      (∀ n, ¬Form (dropMarks text.toList) n) ∧ e = misread (dropMarks text.toList) := by
  constructor
  · intro h
    have hform : ∀ n, ¬Form (dropMarks text.toList) n := by
      intro n hn
      rw [parse_of_form hn] at h
      cases h
    rw [parse_of_not_form hform] at h
    cases h
    exact ⟨hform, rfl⟩
  · rintro ⟨hform, rfl⟩
    exact parse_of_not_form hform

/-- What is written has no marks, as `x` is no digit, so that its digits are those of the word. -/
theorem form_render (f : Fingerprint) : Form (dropMarks f.render.toList) f.toNat := by
  have hlt : f.toNat < 16 ^ 16 := f.toNat_lt
  have hdigits := numeral_writeHex 16 f.toNat
  rw [Nat.mod_eq_of_lt hlt] at hdigits
  have hbare : Bare (writeHex 16 f.toNat) (writeHex 16 f.toNat) := by
    refine .unmarked fun hmark => ?_
    have hx : 'x' ∈ writeHex 16 f.toNat := hmark.subset (by simp)
    exact absurd (hdigits.isHexDigit_of_mem 'x' hx) (by decide)
  rw [render, String.toList_ofList, ← bare_iff.1 hbare]
  exact .digits hdigits (length_writeHex 16 _)

/-- **Which texts are fingerprints.**  Behind the marks stand sixteen digits, or a plus sign and
fifteen digits, and the value is theirs; every other text has an error, which quotes what stands
behind the marks unless that has sixteen bytes.  So only a plus sign makes a text without sixteen
digits a fingerprint.  What is written of a fingerprint is read back. -/
theorem readings (text : String) (f : Fingerprint) :
    (parse text = .ok f ↔ ∃ rest, Bare text.toList rest ∧ Form rest f.toNat) ∧
    (∀ e, parse text = .error e ↔
      ∃ rest, Bare text.toList rest ∧ (∀ n, ¬Form rest n) ∧ e = misread rest) ∧
    ((∀ g, parse text = .ok g ↔
        ∃ rest, Bare text.toList rest ∧ rest.length = 16 ∧ Numeral rest g.toNat) ↔
      ¬∃ digits n, Bare text.toList ('+' :: digits) ∧ digits.length = 15 ∧ Numeral digits n) ∧
    parse f.render = .ok f := by
  simp only [bare_iff, exists_eq_left, parse_eq_ok_iff, true_and]
  exact ⟨fun e => parse_eq_error_iff, form_iff_digits, form_render f⟩

/-- Fingerprints are not the texts of sixteen digits: a plus sign may stand for the first. -/
theorem not_parse_digits_iff :
    ¬∀ text : String, (∃ f, parse text = .ok f) ↔
      ∃ rest n, Bare text.toList rest ∧ rest.length = 16 ∧ Numeral rest n := by
  intro h
  have hparse : parse "+123456789abcdef" = .ok 0x0123456789abcdef := by decide +kernel
  obtain ⟨rest, n, hbare, -, hdigits⟩ := (h "+123456789abcdef").1 ⟨_, hparse⟩
  have hrest : rest = "+123456789abcdef".toList := (bare_iff.1 hbare).trans (by decide +kernel)
  rw [hrest] at hdigits
  exact hdigits.not_plus

end Gallery.Fingerprint
