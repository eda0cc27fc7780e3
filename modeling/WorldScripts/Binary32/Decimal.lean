import WorldScripts.Binary32

/-!
Decimal text of binary32 numbers. The digits are the fewest that read back to the same number and,
among those, the nearest to it; everything is decided on exact integers.
-/

namespace WorldScripts.Binary32

/-- A positive decimal `digits * 10 ^ exponent`. -/
structure Decimal where
  digits : Nat
  exponent : Int
  deriving DecidableEq, Repr

structure Fraction where
  numerator : Nat
  denominator : Nat

def Fraction.ofPowerOfTwo (n : Nat) (exponent : Int) : Fraction :=
  ⟨n <<< exponent.toNat, 1 <<< (-exponent).toNat⟩

def Fraction.inUnits (x : Fraction) (place : Int) : Fraction :=
  ⟨x.numerator * Nat.pow 10 (-place).toNat, x.denominator * Nat.pow 10 place.toNat⟩

/-- The place of the leading digit: zero for numbers from one to below ten. -/
def Fraction.leadingPlace (x : Fraction) : Int :=
  if x.denominator ≤ x.numerator then
    (Nat.toDigits 10 (x.numerator / x.denominator)).length - 1
  else
    match (List.range 60).find? fun n => x.denominator ≤ x.numerator * Nat.pow 10 (n + 1) with
    | some n => -(n + 1)
    | none => -60

/-- The reals that round to `significand * 2 ^ exponent`, in quarters of the last place. The gap
below a power of two is half as wide as the one above, and the ends round to an even significand. -/
structure Interval where
  low : Fraction
  high : Fraction
  closed : Bool

def Interval.of (significand : Nat) (exponent : Int) : Interval where
  low :=
    let below := if significand = 0x800000 && exponent > -149 then 1 else 2
    .ofPowerOfTwo (4 * significand - below) (exponent - 2)
  high := .ofPowerOfTwo (4 * significand + 2) (exponent - 2)
  closed := significand % 2 = 0

def Interval.holds (interval : Interval) (place : Int) (digits : Nat) : Bool :=
  let low := interval.low.inUnits place
  let high := interval.high.inUnits place
  if interval.closed then
    low.numerator ≤ digits * low.denominator && digits * high.denominator ≤ high.numerator
  else
    low.numerator < digits * low.denominator && digits * high.denominator < high.numerator

/-- The decimal on the grid `10 ^ place` that reads back to the number, if one does: the nearer of
its two neighbours there, the upper one when they are equally near. -/
def Interval.nearest? (interval : Interval) (value : Fraction) (place : Int) : Option Decimal :=
  let scaled := value.inUnits place
  let below := scaled.numerator / scaled.denominator
  let rest := scaled.numerator % scaled.denominator
  let up := scaled.denominator ≤ 2 * rest
  let first := if up then below + 1 else below
  let second := if up then below else below + 1
  if interval.holds place first then some ⟨first, place⟩
  else if interval.holds place second then some ⟨second, place⟩
  else none

/-- Moves a last zero into the exponent. Only a single digit rounded up to ten ends in one. -/
def Decimal.trim (d : Decimal) : Decimal :=
  if d.digits % 10 = 0 then ⟨d.digits / 10, d.exponent + 1⟩ else d

/-- The shortest decimal that reads back to `significand * 2 ^ exponent`; nine digits always do. -/
def shortest (significand : Nat) (exponent : Int) : Decimal :=
  let value := Fraction.ofPowerOfTwo significand exponent
  let interval := Interval.of significand exponent
  let leading := value.leadingPlace
  let found := (List.range 9).findSome? fun (n : Nat) => interval.nearest? value (leading - n)
  (found.getD ⟨0, 0⟩).trim

def zeros (count : Nat) : String :=
  String.ofList (List.replicate count '0')

/-- Positional text, with a fraction only where there are digits for one. -/
def Decimal.positional (d : Decimal) : String :=
  let text := Nat.toDigits 10 d.digits
  if 0 ≤ d.exponent then String.ofList text ++ zeros d.exponent.toNat
  else
    let places := (-d.exponent).toNat
    if places < text.length then
      String.ofList (text.take (text.length - places)) ++ "." ++
        String.ofList (text.drop (text.length - places))
    else "0." ++ zeros (places - text.length) ++ String.ofList text

def Decimal.scientific (d : Decimal) : String :=
  let text := Nat.toDigits 10 d.digits
  let power := d.exponent + text.length - 1
  let fraction := if text.length ≤ 1 then "" else "." ++ String.ofList (text.drop 1)
  String.ofList (text.take 1) ++ fraction ++ "e" ++ toString power

def signText (negative : Bool) : String :=
  if negative then "-" else ""

def infinityText (negative : Bool) : String :=
  signText negative ++ "inf"

/-- The shortest digits in positional notation, however many zeros that takes. -/
def plainText (x : Float32) : String :=
  match ofFloat x with
  | .nan => "NaN"
  | .infinite negative => infinityText negative
  | .finite negative significand exponent =>
      if significand = 0 then signText negative ++ "0"
      else signText negative ++ (shortest significand exponent).positional

/-- The shortest digits with a fraction always shown; numbers other than zero that are below
`1e-4` or from `1e16` on in size are written with a power of ten. -/
def literalText (x : Float32) : String :=
  match ofFloat x with
  | .nan => "NaN"
  | .infinite negative => infinityText negative
  | .finite negative significand exponent =>
      if significand = 0 then signText negative ++ "0.0"
      else
        let d := shortest significand exponent
        let size := x.abs
        if size < 1e-4 || 1e16 ≤ size then signText negative ++ d.scientific
        else
          let fraction := if 0 ≤ d.exponent then ".0" else ""
          signText negative ++ d.positional ++ fraction

/-- A quotient rounded to the nearest integer, a half to the even one. -/
def roundDiv (numerator denominator : Nat) : Nat :=
  let below := numerator / denominator
  let rest := numerator % denominator
  if 2 * rest < denominator then below
  else if denominator < 2 * rest then below + 1
  else if below % 2 = 0 then below
  else below + 1

/-- One digit behind the point, the exact value rounded half to even. -/
def tenthsText (x : Float32) : String :=
  match ofFloat x with
  | .nan => "NaN"
  | .infinite negative => infinityText negative
  | .finite negative significand exponent =>
      let value := (Fraction.ofPowerOfTwo significand exponent).inUnits (-1)
      let tenths := roundDiv value.numerator value.denominator
      signText negative ++ toString (tenths / 10) ++ "." ++ toString (tenths % 10)

end WorldScripts.Binary32
