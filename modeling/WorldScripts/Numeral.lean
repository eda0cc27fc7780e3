import WorldScripts.Binary32

/-!
Decimal numerals: digits with an optional point and an optional power of ten. A numeral is kept as
the exact number it stands for, with its sign even if it is zero.
-/

namespace WorldScripts

/-- The number `digits * 10 ^ exponent`, or its negative. -/
structure Numeral where
  negative : Bool := false
  digits : Nat
  exponent : Int := 0
  deriving DecidableEq, Repr

namespace Numeral

def ofInt (n : Int) : Numeral :=
  ⟨n < 0, n.natAbs, 0⟩

def digitsValue (digits : List Char) : Nat :=
  digits.foldl (fun n c => 10 * n + (c.toNat - '0'.toNat)) 0

def readSign : List Char → Bool × List Char
  | '-' :: rest => (true, rest)
  | '+' :: rest => (false, rest)
  | cs => (false, cs)

def readExponent (cs : List Char) : Int × List Char :=
  match cs with
  | c :: rest =>
      if c = 'e' ∨ c = 'E' then
        let (negative, rest) := readSign rest
        let digits := rest.takeWhile Char.isDigit
        if digits.isEmpty then (0, cs)
        else
          let size : Int := digitsValue digits
          (if negative then -size else size, rest.dropWhile Char.isDigit)
      else (0, cs)
  | [] => (0, [])

/-- Reads a numeral from the front of a text. There is at least one digit before or behind the
point. -/
def read? (cs : List Char) : Option (Numeral × List Char) :=
  let (negative, cs) := readSign cs
  let whole := cs.takeWhile Char.isDigit
  let cs := cs.dropWhile Char.isDigit
  let (fraction, cs) := match cs with
    | '.' :: rest => (rest.takeWhile Char.isDigit, rest.dropWhile Char.isDigit)
    | _ => ([], cs)
  if whole.isEmpty && fraction.isEmpty then none
  else
    let (exponent, cs) := readExponent cs
    some (⟨negative, digitsValue (whole ++ fraction), exponent - fraction.length⟩, cs)

def ofChars? (cs : List Char) : Option Numeral :=
  match read? cs with
  | some (numeral, []) => some numeral
  | _ => none

def toInt (numeral : Numeral) : Int :=
  let size :=
    numeral.digits * Nat.pow 10 numeral.exponent.toNat / Nat.pow 10 (-numeral.exponent).toNat
  if numeral.negative then -(size : Int) else size

def toFloat32 (numeral : Numeral) : Float32 :=
  Binary32.ofDecimal numeral.negative numeral.digits numeral.exponent

/-- The nearest binary64 number. Powers of ten that no such number comes near are settled without
computing them. -/
def toFloat64 (numeral : Numeral) : Float :=
  let size : Int := (Nat.toDigits 10 numeral.digits).length + numeral.exponent
  let magnitude : Float :=
    if numeral.digits = 0 || size < -400 then 0
    else if size > 400 then 1 / 0
    else Float.ofScientific numeral.digits (numeral.exponent < 0) numeral.exponent.natAbs
  if numeral.negative then -magnitude else magnitude

end Numeral

end WorldScripts
