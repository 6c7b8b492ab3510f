import Gallery.Text.Numeral

/-!
# `Gallery.Fingerprint` — fingerprints of images

A fingerprint is a word of 64 bits computed from an image.  It is stored as eight bytes, most
significant first, and written as sixteen hexadecimal digits.

## Contents
- `Fingerprint`, `hammingDistance`.
- `Fingerprint.ofBytes?` and `Fingerprint.toBytes`, the stored form.
- `Fingerprint.parse` with `FingerprintError`, and `Fingerprint.render`, the written form.
-/

namespace Gallery

/-- The fingerprint of an image. -/
abbrev Fingerprint := UInt64

/-- The number of bits in which two fingerprints differ. -/
def hammingDistance (a b : Fingerprint) : UInt32 :=
  UInt32.ofNat ((List.range 64).countP (a ^^^ b).toNat.testBit)

namespace Fingerprint

open Gallery.Text

/-- The number whose base-256 digits are the bytes. -/
def ofDigits (bytes : List UInt8) : Nat := bytes.foldl (fun n b => 256 * n + b.toNat) 0

/-- The last `count` bytes of a number, most significant first. -/
def digits : (count : Nat) → Nat → List UInt8
  | 0, _ => []
  | count + 1, n => digits count (n / 256) ++ [UInt8.ofNat (n % 256)]

/-- The fingerprint stored in exactly eight bytes. -/
def ofBytes? (bytes : List UInt8) : Option Fingerprint :=
  if bytes.length = 8 then some (UInt64.ofNat (ofDigits bytes)) else none

/-- The eight bytes of a fingerprint. -/
def toBytes (f : Fingerprint) : List UInt8 := digits 8 f.toNat

/-- Why a text is not a fingerprint. -/
inductive FingerprintError where
  /-- The text, without the marks in front of the digits, does not have the right length. -/
  | wrongLength (text : String)
  | invalidDigit
  deriving DecidableEq, Repr

/-- The description of an error. -/
def FingerprintError.message : FingerprintError → String
  | wrongLength text => s!"指纹必须是 16 位十六进制数: {text}"
  | invalidDigit => "invalid digit found in string"

/-- What follows the `0x` marks at the front. -/
def dropMarks : List Char → List Char
  | '0' :: 'x' :: rest => dropMarks rest
  | cs => cs

/-- Reads a fingerprint: marks, then text of sixteen bytes that is a hexadecimal numeral. -/
def parse (text : String) : Except FingerprintError Fingerprint :=
  let cs := dropMarks text.toList
  let rest := String.ofList cs
  if rest.utf8ByteSize ≠ 16 then .error (.wrongLength rest)
  else
    match readSignedHex? cs with
    | some n => .ok (UInt64.ofNat n)
    | none => .error .invalidDigit

/-- The sixteen hexadecimal digits of a fingerprint. -/
def render (f : Fingerprint) : String := String.ofList (writeHex 16 f.toNat)

end Fingerprint

end Gallery
