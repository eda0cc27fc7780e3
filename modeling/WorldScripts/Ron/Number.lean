import WorldScripts.Ron
import WorldScripts.Ron.Name
import WorldScripts.Ron.Quoted

/-!
Numbers in a RON text: integers in four bases and floats, with underscores between the digits and a
suffix for the type.
-/

namespace WorldScripts.Ron

def isIntegerChar (c : Char) : Bool :=
  isHexDigit c || c = '_'

def isFloatChar (c : Char) : Bool :=
  c.isDigit || c = 'e' || c = 'E' || c = '.' || c = '+' || c = '-' || c = '_'

def readBase : List Char → Nat × List Char
  | '0' :: 'x' :: rest => (16, rest)
  | '0' :: 'o' :: rest => (8, rest)
  | '0' :: 'b' :: rest => (2, rest)
  | cs => (10, cs)

def readSuffix {κ : Type} (name : κ → String) (kinds : List κ) (cs : List Char) :
    Option κ × List Char :=
  match kinds.findSome? fun kind => (keyword? (name kind) cs).map fun rest => (kind, rest) with
  | some (kind, rest) => (some kind, rest)
  | none => (none, cs)

/-- The type of an integer can be named behind its digits in two bases. In the others, the letter in
the mark of the base ends the run of digits behind which a type is looked for. -/
def takesSuffix (base : Nat) : Bool :=
  base = 2 || base = 10

def readByte (cs : List Char) : Option (RonInteger × List Char) := do
  let (c, rest) ← match cs with
    | '\\' :: 'u' :: _ => none
    | '\\' :: rest => readEscape .byte rest
    | c :: rest => if c.toNat < 128 then some (c, rest) else none
    | [] => none
  match rest with
  | '\'' :: rest => some (⟨false, c.toNat, false, some .u8⟩, rest)
  | _ => none

def readInteger (cs : List Char) : Option (RonInteger × List Char) :=
  match cs with
  | 'b' :: '\'' :: rest => readByte rest
  | _ => do
      let (negative, cs) := Numeral.readSign cs
      let (base, cs) := readBase cs
      let digits := cs.takeWhile isIntegerChar
      if digits.isEmpty || digits.head? = some '_' then none
      else
        let size ← digitsIn? base (digits.filter (· != '_'))
        let rest := cs.dropWhile isIntegerChar
        let (kind, rest) :=
          if takesSuffix base then readSuffix WordKind.name WordKind.all rest else (none, rest)
        let n : RonInteger := ⟨negative, size, base = 10 && kind.isNone, kind⟩
        if n.fits then some (n, rest) else none

/-- Each underscore comes behind a digit or the mark of the exponent, with nothing but underscores
and signs between them. -/
def underscoresFit (allowed : Bool) : List Char → Bool
  | [] => true
  | '_' :: rest => allowed && underscoresFit allowed rest
  | '.' :: rest => underscoresFit false rest
  | c :: rest => underscoresFit (allowed || c.isDigit || c = 'e' || c = 'E') rest

def namedNumbers : List (String × RonNumber) :=
  [("inf", .infinite false), ("+inf", .infinite false), ("-inf", .infinite true),
    ("NaN", .nan), ("+NaN", .nan), ("-NaN", .nan)]

def readNamedNumber (cs : List Char) : Option (Ron × List Char) :=
  namedNumbers.findSome? fun (name, value) =>
    [("", none), ("f32", some FloatKind.f32), ("f64", some .f64)].findSome? fun (suffix, kind) =>
      (keyword? (name ++ suffix) cs).map fun rest => (.float value kind, rest)

def readFloat (cs : List Char) : Option (Ron × List Char) :=
  match readNamedNumber cs with
  | some read => some read
  | none => do
      let digits := cs.takeWhile isFloatChar
      if digits.isEmpty || !underscoresFit false digits then none
      else
        let value ← Numeral.ofChars? (digits.filter (· != '_'))
        let (kind, rest) := readSuffix FloatKind.name [.f32, .f64] (cs.dropWhile isFloatChar)
        some (.float (.numeral value) kind, rest)

def looksLikeFloat (cs : List Char) : Bool :=
  let (_, cs) := Numeral.readSign cs
  (cs.takeWhile isIntegerChar).length < (cs.takeWhile isFloatChar).length

def readNumber (cs : List Char) : Option (Ron × List Char) :=
  if looksLikeFloat cs then readFloat cs
  else
    match readInteger cs with
    | some (n, rest) => some (.integer n, rest)
    | none => readFloat cs

end WorldScripts.Ron
