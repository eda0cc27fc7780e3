import WorldScripts.Binary32

/-!
Cosine and sine of binary32 angles. The angle is reduced to a quarter turn exactly, the Taylor sums
run on fixed-point numbers of 160 bits behind the point, and the result is rounded once.
-/

namespace WorldScripts.Binary32

/-- A quarter turn in units of `2 ^ -320`, rounded down. -/
def quarterTurn : Nat :=
  3355200590106084457577920487110001620402097044713574475363553212175856609335902690049750194457019

/-- The number of whole quarter turns in an angle, and the rest in units of `2 ^ -160`. -/
structure Reduced where
  quarters : Nat
  rest : Nat

/-- Reduces `significand * 2 ^ exponent`; binary32 exponents never go below `-149`. -/
def reduce (significand : Nat) (exponent : Int) : Reduced :=
  let angle := significand <<< (exponent + 320).toNat
  ⟨angle / quarterTurn, (angle % quarterTurn) >>> 160⟩

/-- The alternating sum whose terms each follow from the one before by two more factors of the
angle, the `n`-th over `n + 1` and `n + 2`. -/
def taylor (square : Nat) : (terms : Nat) → (n : Nat) → (term : Nat) → Int
  | 0, _, _ => 0
  | terms + 1, n, term =>
      term - taylor square terms (n + 2) ((term * square) >>> 320 / ((n + 1) * (n + 2)))

def restCos (rest : Nat) : Int :=
  taylor (rest * rest) 40 0 (1 <<< 160)

def restSin (rest : Nat) : Int :=
  taylor (rest * rest) 40 1 rest

def ofFixed (value : Int) : Float32 :=
  round (value < 0) value.natAbs (-160)

def cos (x : Float32) : Float32 :=
  match ofFloat x with
  | .nan | .infinite _ => notANumber
  | .finite _ significand exponent =>
      let angle := reduce significand exponent
      ofFixed <| match angle.quarters % 4 with
        | 0 => restCos angle.rest
        | 1 => -restSin angle.rest
        | 2 => -restCos angle.rest
        | _ => restSin angle.rest

/-- Below `2 ^ -12` the sine rounds to the angle itself. -/
def sin (x : Float32) : Float32 :=
  match ofFloat x with
  | .nan | .infinite _ => notANumber
  | .finite negative significand exponent =>
      if x.abs < 0.000244140625 then x
      else
        let angle := reduce significand exponent
        let value := match angle.quarters % 4 with
          | 0 => restSin angle.rest
          | 1 => restCos angle.rest
          | 2 => -restSin angle.rest
          | _ => -restCos angle.rest
        ofFixed (if negative then -value else value)

end WorldScripts.Binary32
