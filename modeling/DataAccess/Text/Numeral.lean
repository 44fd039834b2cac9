/-!
# Numeral: words and bytes as digits

`readUInt32?` reads a word of 32 bits from decimal digits. `hexByte` and `hexBytes` write bytes as
pairs of hexadecimal digits.
-/

namespace DataAccess.Text

/-- The number that a list of decimal digits stands for, `none` if a character is not a digit. -/
def readDigits? (acc : Nat) : List Char → Option Nat
  | [] => some acc
  | c :: rest => if c.isDigit then readDigits? (acc * 10 + (c.toNat - '0'.toNat)) rest else none

/-- Reads a word of 32 bits: one or more decimal digits after an optional plus sign. Larger numbers
are refused. -/
def readUInt32? (cs : List Char) : Option UInt32 :=
  let digits := match cs with
    | '+' :: rest => rest
    | _ => cs
  if digits.isEmpty then none
  else match readDigits? 0 digits with
    | some n => if n < UInt32.size then some (UInt32.ofNat n) else none
    | none => none

/-- The two hexadecimal digits of a byte, with the digits above nine taken from the letter `ten`
on. -/
def hexByte (ten : Char) (b : UInt8) : List Char :=
  [digit (b.toNat / 16), digit (b.toNat % 16)]
where
  /-- The digit of a number below sixteen. -/
  digit (n : Nat) : Char :=
    if n < 10 then Char.ofNat ('0'.toNat + n) else Char.ofNat (ten.toNat + (n - 10))

/-- Bytes as pairs of hexadecimal digits. -/
def hexBytes (ten : Char) (bytes : List UInt8) : String :=
  String.ofList (bytes.flatMap (hexByte ten))

end DataAccess.Text
