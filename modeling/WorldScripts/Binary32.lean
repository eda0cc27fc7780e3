/-!
The parts of a binary32 number, and the binary32 number nearest to an exact value. Arithmetic is
that of `Float32`, one rounding for each operation.
-/

namespace WorldScripts

/-- A binary32 number as an exact value: `significand * 2 ^ exponent` when it is finite. -/
inductive Binary32 where
  | nan
  | infinite (negative : Bool)
  | finite (negative : Bool) (significand : Nat) (exponent : Int)
  deriving DecidableEq, Repr

namespace Binary32

open Float.Model (UnpackedFloat)

def isNegative : UnpackedFloat.Sign → Bool
  | .negative => true
  | .positive => false

def sign : Bool → UnpackedFloat.Sign
  | true => .negative
  | false => .positive

/-- The significand has 24 bits unless the number is below the normal range. -/
def ofFloat (x : Float32) : Binary32 :=
  match x.toModel.unpack with
  | .notANumber => .nan
  | .infinity s => .infinite (isNegative s)
  | .zero s => .finite (isNegative s) 0 (-149)
  | .finite s m e _ => .finite (isNegative s) m e

/-- The number nearest to `significand * 2 ^ exponent`, ties to even. -/
def round (negative : Bool) (significand : Nat) (exponent : Int) : Float32 :=
  if significand = 0 then if negative then -0.0 else 0.0
  else .ofModel (.pack (UnpackedFloat.round .binary32 (sign negative) significand exponent))

def infinity (negative : Bool) : Float32 :=
  .ofModel (.pack (.infinity (sign negative)))

def notANumber : Float32 :=
  .ofModel (.pack .notANumber)

/-- The number nearest to `digits * 10 ^ exponent`, ties to even. Powers of ten that no binary32
number comes near are settled without computing them. -/
def ofDecimal (negative : Bool) (digits : Nat) (exponent : Int) : Float32 :=
  let size : Int := (Nat.toDigits 10 digits).length + exponent
  if digits = 0 || size < -60 then if negative then -0.0 else 0.0
  else if size > 60 then infinity negative
  else
    let magnitude : Float32 := .ofModel (.ofScientific digits exponent)
    if negative then -magnitude else magnitude

def ofFloat64 (x : Float) : Float32 :=
  match x.toModel.unpack with
  | .notANumber => notANumber
  | .infinity s => infinity (isNegative s)
  | .zero s => if isNegative s then -0.0 else 0.0
  | .finite s m e _ => round (isNegative s) m e

end Binary32

end WorldScripts
