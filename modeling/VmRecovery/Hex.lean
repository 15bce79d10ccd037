/-!
# Hexadecimal text

Every address and constant that this library prints is written as `0x` followed by its
lower-case hexadecimal digits, without leading zeros. Bytes are read from two digits each, of
either case.
-/

namespace VmRecovery

/-- The lower-case hexadecimal digits of a number, `0` for zero. -/
def hexDigits (number : Nat) : String :=
  String.ofList (Nat.toDigits 16 number)

/-- A machine word as it is printed: `0x` and its digits. -/
def hex (word : UInt64) : String :=
  "0x" ++ hexDigits word.toNat

/-- The value of a hexadecimal digit of either case. -/
def hexValue? (c : Char) : Option Nat :=
  if c.isDigit then some (c.toNat - '0'.toNat)
  else if 'a' ≤ c && c ≤ 'f' then some (c.toNat - 'a'.toNat + 10)
  else if 'A' ≤ c && c ≤ 'F' then some (c.toNat - 'A'.toNat + 10)
  else none

/-- The bytes that pairs of digits denote. -/
def bytesOfDigits? : List Char → Option (List UInt8)
  | [] => some []
  | high :: low :: rest => do
      let value := (← hexValue? high) * 16 + (← hexValue? low)
      return value.toUInt8 :: (← bytesOfDigits? rest)
  | [_] => none

/-- The text between two values of a list. -/
def separated (separator : String) (texts : List String) : String :=
  separator.intercalate texts

end VmRecovery
