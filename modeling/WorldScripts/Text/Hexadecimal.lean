/-!
Hexadecimal text. It is written with lower-case digits and read with digits of either case.
-/

namespace WorldScripts

def hexText (n : Nat) : String :=
  "0x" ++ String.ofList (Nat.toDigits 16 n)

def byteHexText (byte : UInt8) : String :=
  "0x" ++ String.ofList ((Nat.toDigits 16 byte.toNat).leftpad 2 '0')

def hexDigit? (c : Char) : Option Nat :=
  if '0' ≤ c ∧ c ≤ '9' then some (c.toNat - '0'.toNat)
  else if 'a' ≤ c ∧ c ≤ 'f' then some (c.toNat - 'a'.toNat + 10)
  else if 'A' ≤ c ∧ c ≤ 'F' then some (c.toNat - 'A'.toNat + 10)
  else none

def isHexDigit (c : Char) : Bool :=
  (hexDigit? c).isSome

/-- The number that digits in a base stand for, none if one of them is not a digit of the base. -/
def digitsIn? (base : Nat) (digits : List Char) : Option Nat :=
  digits.foldl (fun value c => do
    let digit ← hexDigit? c
    if digit < base then some (base * (← value) + digit) else none) (some 0)

end WorldScripts
