/-!
# `Gallery.Text.Numeral` — decimal and hexadecimal numerals

## Contents
- `readNat?` and `readSignedNat?`, numbers without and with a plus sign in front; `readInt?`, numbers
  with an optional sign.
- `writePlaces`, a number of smallest units with a point in front of the last digits.
- `hexValue?` and `hexDigit`, between hexadecimal digits and their values.
- `readHex?` and `writeHex`, between digit strings and numbers; `readSignedHex?` allows a plus sign.
-/

namespace Gallery.Text

/-! ## Decimal numerals -/

/-- The number that follows `acc` after reading more digits. -/
def readDigitsFrom (acc : Nat) : List Char → Option Nat
  | [] => some acc
  | c :: rest => if c.isDigit then readDigitsFrom (10 * acc + (c.toNat - '0'.toNat)) rest else none

/-- The number that a non-empty list of digits denotes. -/
def readNat? : List Char → Option Nat
  | [] => none
  | cs => readDigitsFrom 0 cs

/-- The same where a plus sign may come first. -/
def readSignedNat? : List Char → Option Nat
  | '+' :: cs => readNat? cs
  | cs => readNat? cs

/-- The same where a sign may come first. -/
def readInt? : List Char → Option Int
  | '-' :: cs => (readNat? cs).map fun n => -(n : Int)
  | cs => (readSignedNat? cs).map fun n => (n : Int)

/-- The decimal digits of a number, at least `width` of them. -/
def writeDigits (width n : Nat) : List Char :=
  let digits := Nat.toDigits 10 n
  List.replicate (width - digits.length) '0' ++ digits

/-- `n` units of `10 ^ -places`, with a point if there are places. -/
def writePlaces (places n : Nat) : List Char :=
  match places with
  | 0 => writeDigits 1 n
  | places =>
    let unit := Nat.pow 10 places
    writeDigits 1 (n / unit) ++ '.' :: writeDigits places (n % unit)

/-! ## Hexadecimal numerals -/

/-- The value of a hexadecimal digit of either case. -/
def hexValue? (c : Char) : Option Nat :=
  if '0' ≤ c && c ≤ '9' then some (c.toNat - '0'.toNat)
  else if 'a' ≤ c && c ≤ 'f' then some (c.toNat - 'a'.toNat + 10)
  else if 'A' ≤ c && c ≤ 'F' then some (c.toNat - 'A'.toNat + 10)
  else none

/-- Whether the character is a hexadecimal digit. -/
def isHexDigit (c : Char) : Bool := (hexValue? c).isSome

/-- The number that follows `acc` after reading more digits. -/
def readHexFrom (acc : Nat) : List Char → Option Nat
  | [] => some acc
  | c :: rest =>
    match hexValue? c with
    | some d => readHexFrom (16 * acc + d) rest
    | none => none

/-- The number that a non-empty list of digits denotes. -/
def readHex? : List Char → Option Nat
  | [] => none
  | cs => readHexFrom 0 cs

/-- The same where a plus sign may come first. -/
def readSignedHex? : List Char → Option Nat
  | '+' :: cs => readHex? cs
  | cs => readHex? cs

/-- The digit of a value below 16, in lower case. -/
def hexDigit (n : Nat) : Char := (Nat.digitChar n)

/-- The last `width` hexadecimal digits of a number. -/
def writeHex : (width : Nat) → Nat → List Char
  | 0, _ => []
  | width + 1, n => writeHex width (n / 16) ++ [hexDigit (n % 16)]

end Gallery.Text
