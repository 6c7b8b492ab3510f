import Gallery.Fingerprint
import Mathlib.Algebra.Group.Nat.Defs
import Mathlib.Data.List.Induction

/-!
# `Gallery.Proofs.Fingerprint` — the stored form of fingerprints

The digits of a number to base 256 tell the number up to the number of digits, and eight of them are
enough for 64 bits.

## Contents
- `ofDigits_append`, `ofDigits_digits` and `digits_ofDigits`, digits and numbers.
- `ofBytes?_toBytes`, a fingerprint is read back as it was.
- `Decodes`, what stored bytes stand for, which is what is read of them (`decodes_iff`).
-/

namespace Gallery.Fingerprint

theorem ofDigits_append (bytes : List UInt8) (b : UInt8) :
    ofDigits (bytes ++ [b]) = 256 * ofDigits bytes + b.toNat := by
  rw [ofDigits, List.foldl_append]
  rfl

theorem length_digits (count n : Nat) : (digits count n).length = count := by
  induction count generalizing n with
  | zero => rfl
  | succ count ih => rw [digits, List.length_append, ih, List.length_singleton]

/-- The last digits of a number make what is left of it by their range. -/
theorem ofDigits_digits (count n : Nat) : ofDigits (digits count n) = n % 256 ^ count := by
  induction count generalizing n with
  | zero => exact (Nat.mod_one n).symm
  | succ count ih =>
    have hbyte : (UInt8.ofNat (n % 256)).toNat = n % 256 := by
      rw [UInt8.toNat_ofNat']
      omega
    rw [digits, ofDigits_append, ih, hbyte, Nat.pow_succ, Nat.mul_comm (256 ^ count) 256,
      Nat.mod_mul, Nat.add_comm]

/-- **A fingerprint is read back from its bytes.** -/
theorem ofBytes?_toBytes (f : Fingerprint) : ofBytes? f.toBytes = some f := by
  have hlt : f.toNat < 256 ^ 8 := f.toNat_lt
  rw [ofBytes?, toBytes, if_pos (length_digits 8 _), ofDigits_digits, Nat.mod_eq_of_lt hlt,
    UInt64.ofNat_toNat]

/-! ## What bytes stand for -/

theorem ofDigits_lt (bytes : List UInt8) : ofDigits bytes < 256 ^ bytes.length := by
  induction bytes using List.reverseRecOn with
  | nil => exact Nat.one_pos
  | append_singleton bytes b ih =>
    have hb : b.toNat < 256 := b.toNat_lt
    rw [ofDigits_append, List.length_append, List.length_singleton, Nat.pow_succ]
    omega

/-- Bytes are the digits of the number that they make. -/
theorem digits_ofDigits (bytes : List UInt8) : digits bytes.length (ofDigits bytes) = bytes := by
  induction bytes using List.reverseRecOn with
  | nil => rfl
  | append_singleton bytes b ih =>
    have hb : b.toNat < 256 := b.toNat_lt
    have hdiv : (256 * ofDigits bytes + b.toNat) / 256 = ofDigits bytes := by omega
    have hmod : (256 * ofDigits bytes + b.toNat) % 256 = b.toNat := by omega
    rw [ofDigits_append, List.length_append, List.length_singleton, digits, hdiv, hmod, ih,
      UInt8.ofNat_toNat]

/-- Eight bytes are those of the fingerprint that is read from them. -/
theorem toBytes_of_ofBytes? {bytes : List UInt8} {f : Fingerprint} (h : ofBytes? bytes = some f) :
    f.toBytes = bytes := by
  unfold ofBytes? at h
  split at h
  · rename_i hlength
    cases h
    have hlt : ofDigits bytes < 2 ^ 64 := by
      have hlt := ofDigits_lt bytes
      rwa [hlength] at hlt
    rw [toBytes, UInt64.toNat_ofNat', Nat.mod_eq_of_lt hlt, ← hlength, digits_ofDigits]
  · cases h

/-- What stored bytes stand for: the fingerprint that is written as these eight bytes, and nothing if
there are more or fewer. -/
inductive Decodes : Option (List UInt8) → Option Fingerprint → Prop where
  | missing : Decodes none none
  | word (f : Fingerprint) : Decodes (some f.toBytes) (some f)
  | illSized (bytes : List UInt8) (h : bytes.length ≠ 8) : Decodes (some bytes) none

/-- All stored bytes stand for one thing, and that is read from them. -/
theorem decodes_iff {bytes : Option (List UInt8)} {f : Option Fingerprint} :
    Decodes bytes f ↔ f = bytes.bind ofBytes? := by
  constructor
  · intro h
    cases h with
    | missing => rfl
    | word f => rw [Option.bind_some, ofBytes?_toBytes]
    | illSized bytes hlength => rw [Option.bind_some, ofBytes?, if_neg hlength]
  · rintro rfl
    cases bytes with
    | none => exact .missing
    | some bytes =>
      rw [Option.bind_some]
      cases hf : ofBytes? bytes with
      | none =>
        refine .illSized bytes fun hlength => ?_
        rw [ofBytes?, if_pos hlength] at hf
        cases hf
      | some f =>
        rw [← toBytes_of_ofBytes? hf]
        exact .word f

example : toBytes 0x0102030405060708 = [1, 2, 3, 4, 5, 6, 7, 8] := by decide

end Gallery.Fingerprint
