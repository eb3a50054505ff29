import Mathlib.Data.Nat.Digits.Defs
import RidFirmware.Lib.Ieee
import RidFirmware.Lib.Wire

/-! Numbers in text, as the C library reads them. A reader returns what it has read together with the
rest of the text. -/

namespace RidFirmware.Lib.Numeral
open Ieee

/-- `isspace` of the C locale. -/
def isSpace (byte : UInt8) : Bool := byte == 0x20 || (decide (0x09 ≤ byte) && decide (byte ≤ 0x0d))

def toLower (byte : UInt8) : UInt8 :=
  if 0x41 ≤ byte ∧ byte ≤ 0x5a then byte + 0x20 else byte

/-- The value of a digit; letters count from ten. -/
def digitValue (base : Nat) (byte : UInt8) : Option Nat :=
  let lower := toLower byte
  let value := if 0x30 ≤ lower ∧ lower ≤ 0x39 then lower.toNat - 0x30
    else if 0x61 ≤ lower ∧ lower ≤ 0x7a then lower.toNat - 0x57 else base
  if value < base then some value else none

def readDigits (base : Nat) : Bytes → List Nat × Bytes
  | [] => ([], [])
  | byte :: rest =>
      match digitValue base byte with
      | none => ([], byte :: rest)
      | some value => (value :: (readDigits base rest).1, (readDigits base rest).2)

/-- The number written with the given digits, the most significant first. -/
def ofDigits (base : Nat) (digits : List Nat) : Nat := Nat.ofDigits base digits.reverse

/-- `std::from_chars` for an `unsigned`: digits only, and no more than 32 bits. -/
def fromChars (text : Bytes) : Option (Nat × Bytes) :=
  let (digits, rest) := readDigits 10 text
  if digits = [] then none
  else if 2 ^ 32 ≤ ofDigits 10 digits then none else some (ofDigits 10 digits, rest)

def readSign : Bytes → Bool × Bytes
  | [] => (false, [])
  | byte :: rest => if byte = 0x2d then (true, rest) else if byte = 0x2b then (false, rest)
      else (false, byte :: rest)

/-- Digits with at most one point among them, and how many of them follow the point. -/
def readSignificand (base : Nat) (text : Bytes) : Option (Nat × Nat × Bytes) :=
  let (whole, rest) := readDigits base text
  let (fraction, rest) := match rest with
    | 0x2e :: rest => readDigits base rest
    | rest => ([], rest)
  if whole = [] ∧ fraction = [] then none
  else some (ofDigits base (whole ++ fraction), fraction.length, rest)

/-- An exponent after its marker. Without digits the marker is not part of the number. -/
def readExponent (marker : UInt8) (text : Bytes) : Int × Bytes :=
  match text with
  | [] => (0, [])
  | byte :: rest =>
      if toLower byte ≠ marker then (0, byte :: rest)
      else
        let (negative, rest) := readSign rest
        let (digits, rest) := readDigits 10 rest
        if digits = [] then (0, text)
        else (if negative then -ofDigits 10 digits else ofDigits 10 digits, rest)

/-- The number `significand * base ^ exponent`. -/
def power (base significand : Nat) (exponent : Int) : ℚ :=
  mkRat (significand * base ^ exponent.toNat) (base ^ (-exponent).toNat)

/-- `strtoull` with base zero, of letters and digits: a prefix tells the base, and what is too large becomes the
largest value. -/
def readUnsigned (text : Bytes) : Nat × Bytes :=
  let (base, text) :=
    if (ascii "0x").isPrefixOf (text.map toLower) ∧ (readDigits 16 (text.drop 2)).1 ≠ [] then (16, text.drop 2)
    else if (ascii "0").isPrefixOf text then (8, text)
    else (10, text)
  let (digits, rest) := readDigits base text
  (min (ofDigits base digits) (2 ^ 64 - 1), rest)

/-- What may follow `nan`: letters, digits and underscores in parentheses. Their meaning is up to the library;
here they are the payload, as far as it fits, if all of them are a number. -/
def readPayload (text : Bytes) : Nat × Bytes :=
  match text with
  | 0x28 :: rest =>
      let inside := fun byte => (digitValue 36 byte).isSome || byte == 0x5f
      match rest.dropWhile inside with
      | 0x29 :: later =>
          let (payload, left) := readUnsigned (rest.takeWhile inside)
          (if left = [] then payload % 2 ^ 51 else 0, later)
      | _ => (0, text)
  | _ => (0, text)

/-- `strtod`: the double nearest to the longest number at the start of a text, or nothing when the text
starts with no number. -/
def strtod (text : Bytes) : Option (Nat × Bytes) :=
  let (negative, body) := readSign (text.dropWhile isSpace)
  let lower := body.map toLower
  if (ascii "infinity").isPrefixOf lower then some (binary64.infinityBits negative, body.drop 8)
  else if (ascii "inf").isPrefixOf lower then some (binary64.infinityBits negative, body.drop 3)
  else if (ascii "nan").isPrefixOf lower then
    let (payload, rest) := readPayload (body.drop 3)
    some (binary64.nanBits negative + payload, rest)
  else
    let hexadecimal := if (ascii "0x").isPrefixOf lower then readSignificand 16 (body.drop 2) else none
    match hexadecimal with
    | some (significand, places, rest) =>
        let (exponent, rest) := readExponent 0x70 rest
        some (binary64.nearest negative (power 2 significand (exponent - 4 * places)), rest)
    | none =>
        match readSignificand 10 body with
        | none => none
        | some (significand, places, rest) =>
            let (exponent, rest) := readExponent 0x65 rest
            some (binary64.nearest negative (power 10 significand (exponent - places)), rest)

example : strtod (ascii "-121.4737") = some (0xc05e5e5119ce075f, []) ∧
    strtod (ascii "1e-1x") = some (0x3fb999999999999a, ascii "x") ∧
    strtod (ascii "0x1.8p+1") = some (0x4008000000000000, []) ∧ strtod (ascii "+.e1") = none ∧
    strtod (ascii "nan(5)") = some (0x7ff8000000000005, []) := by
  decide +kernel

end RidFirmware.Lib.Numeral
