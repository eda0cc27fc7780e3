import WorldScripts.Numeral
import WorldScripts.Text.Hexadecimal
import WorldScripts.Toml

/-!
Numbers and moments in a TOML text.
-/

namespace WorldScripts.Toml

/-- Reads digits, between any two of which one underscore may stand. Answers the digits alone. -/
def readDigits (isDigit : Char → Bool) : List Char → List Char × List Char
  | [] => ([], [])
  | '_' :: c :: rest =>
      if isDigit c then
        let (digits, rest) := readDigits isDigit rest
        (c :: digits, rest)
      else ([], '_' :: c :: rest)
  | c :: rest =>
      if isDigit c then
        let (digits, rest) := readDigits isDigit rest
        (c :: digits, rest)
      else ([], c :: rest)

def readSomeDigits (isDigit : Char → Bool) (cs : List Char) : Option (List Char × List Char) :=
  if cs.head?.any isDigit then some (readDigits isDigit cs) else none

/-- Reads decimal digits of a whole part: a zero stands alone. -/
def readWhole : List Char → Option (List Char × List Char)
  | '0' :: rest => some (['0'], rest)
  | cs => readSomeDigits Char.isDigit cs

def inRange (n : Int) : Bool :=
  Int64.minValue.toInt ≤ n && n ≤ Int64.maxValue.toInt

def readBased (base : Nat) (isDigit : Char → Bool) (cs : List Char) : Option (Toml × List Char) := do
  let (digits, rest) ← readSomeDigits isDigit cs
  let n : Int := ← digitsIn? base digits
  if inRange n then some (.integer n, rest) else none

def readInteger : List Char → Option (Toml × List Char)
  | '0' :: 'x' :: rest => readBased 16 isHexDigit rest
  | '0' :: 'o' :: rest => readBased 8 (fun c => '0' ≤ c && c ≤ '7') rest
  | '0' :: 'b' :: rest => readBased 2 (fun c => c = '0' || c = '1') rest
  | cs => do
      let (negative, cs) := Numeral.readSign cs
      let (digits, rest) ← readWhole cs
      let size : Int := Numeral.digitsValue digits
      let n := if negative then -size else size
      if inRange n then some (.integer n, rest) else none

def readPower : List Char → Option (Int × List Char)
  | c :: rest =>
      if c = 'e' || c = 'E' then do
        let (negative, rest) := Numeral.readSign rest
        let (digits, rest) ← readSomeDigits Char.isDigit rest
        let size : Int := Numeral.digitsValue digits
        some (if negative then -size else size, rest)
      else none
  | [] => none

def readFraction : List Char → Option (List Char × List Char)
  | '.' :: rest => readSomeDigits Char.isDigit rest
  | _ => none

def readNamedNumber (cs : List Char) : Option (Toml × List Char) :=
  let (negative, cs) := Numeral.readSign cs
  match cs with
  | 'i' :: 'n' :: 'f' :: rest => some (.float (if negative then -1 / 0 else 1 / 0), rest)
  | 'n' :: 'a' :: 'n' :: rest => some (.float (0 / 0), rest)
  | _ => none

/-- Reads a float, which has a fraction or a power of ten. One that is too large to be anything but
infinite is refused, unless it is negative. -/
def readFloat (cs : List Char) : Option (Toml × List Char) :=
  match readNamedNumber cs with
  | some read => some read
  | none => do
      let (negative, cs) := Numeral.readSign cs
      let (whole, rest) ← readWhole cs
      let (fraction, power, rest) ← match readFraction rest with
        | some (fraction, rest) =>
            match readPower rest with
            | some (power, rest) => some (fraction, power, rest)
            | none => some (fraction, 0, rest)
        | none => (readPower rest).map fun (power, rest) => ([], power, rest)
      let numeral : Numeral :=
        ⟨negative, Numeral.digitsValue (whole ++ fraction), power - fraction.length⟩
      let value := numeral.toFloat64
      if value == 1 / 0 then none else some (.float value, rest)

def readFixed (count low high : Nat) (cs : List Char) : Option (Nat × List Char) :=
  let digits := cs.take count
  let value := Numeral.digitsValue digits
  if digits.length = count && digits.all Char.isDigit && low ≤ value && value ≤ high then
    some (value, cs.drop count)
  else none

def drop? (c : Char) : List Char → Option (List Char)
  | [] => none
  | d :: rest => if d = c then some rest else none

def daysIn (year month : Nat) : Nat :=
  if month = 2 then
    if year % 4 = 0 && (year % 100 != 0 || year % 400 = 0) then 29 else 28
  else if month = 4 || month = 6 || month = 9 || month = 11 then 30
  else 31

def skipDate? (cs : List Char) : Option (List Char) := do
  let (year, rest) ← readFixed 4 0 9999 cs
  let (month, rest) ← readFixed 2 1 12 (← drop? '-' rest)
  let (_, rest) ← readFixed 2 1 (daysIn year month) (← drop? '-' rest)
  some rest

def skipHours? (cs : List Char) : Option (List Char) := do
  let (_, rest) ← readFixed 2 0 23 cs
  let (_, rest) ← readFixed 2 0 59 (← drop? ':' rest)
  some rest

/-- Skips a time of day. A point without digits behind it does not belong to it. -/
def skipTime? (cs : List Char) : Option (List Char) := do
  let (_, rest) ← readFixed 2 0 60 (← drop? ':' (← skipHours? cs))
  match rest with
  | '.' :: more =>
      if more.head?.any Char.isDigit then some (more.dropWhile Char.isDigit) else some rest
  | _ => some rest

def skipOffset : List Char → List Char
  | [] => []
  | c :: rest =>
      if c = 'Z' || c = 'z' then rest
      else if c = '+' || c = '-' then (skipHours? rest).getD (c :: rest)
      else c :: rest

def skipTimeOfDay : List Char → List Char
  | [] => []
  | c :: rest =>
      if c = 'T' || c = 't' || c = ' ' then
        match skipTime? rest with
        | some rest => skipOffset rest
        | none => c :: rest
      else c :: rest

def readMoment (cs : List Char) : Option (Toml × List Char) := do
  let rest ← ((skipDate? cs).map skipTimeOfDay).or (skipTime? cs)
  some (.moment (String.ofList (cs.take (cs.length - rest.length))), rest)

def readNumber (cs : List Char) : Option (Toml × List Char) :=
  ((readMoment cs).or (readFloat cs)).or (readInteger cs)

end WorldScripts.Toml
