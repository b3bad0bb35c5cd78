/-!
Hexadecimal text of numbers and bytes. It is written with lower-case digits and read with either.
-/
namespace SdBridge.Text

/-- The hexadecimal digits of a number, without leading zeros; zero has one digit. -/
def hexDigits (n : Nat) : List Char := Nat.toDigits 16 n

def hex (n : Nat) : String := "0x" ++ String.ofList (hexDigits n)

def paddedDigits (digits n : Nat) : List Char :=
  let shown := hexDigits n
  List.replicate (digits - shown.length) '0' ++ shown

def hexPadded (digits n : Nat) : String := "0x" ++ String.ofList (paddedDigits digits n)

def hexByte (byte : UInt8) : List Char :=
  [Nat.digitChar (byte.toNat / 16), Nat.digitChar (byte.toNat % 16)]

def hexOfBytes (bytes : List UInt8) : String := String.ofList (bytes.flatMap hexByte)

def hexDigit? (c : Char) : Option Nat :=
  if '0' ≤ c ∧ c ≤ '9' then some (c.toNat - '0'.toNat)
  else if 'a' ≤ c ∧ c ≤ 'f' then some (c.toNat - 'a'.toNat + 10)
  else if 'A' ≤ c ∧ c ≤ 'F' then some (c.toNat - 'A'.toNat + 10)
  else none

/-- The bytes that pairs of digits show, up to the first pair that is none. -/
def bytesOfHex : List Char → List UInt8
  | high :: low :: rest =>
    match hexDigit? high, hexDigit? low with
    | some high, some low => (16 * high + low).toUInt8 :: bytesOfHex rest
    | _, _ => []
  | _ => []

end SdBridge.Text
