import WorldScripts.Text.Hexadecimal

/-!
Strings, bytes and characters in a RON text, and the escapes in them.
-/

namespace WorldScripts.Ron

/-- What an escape may stand for: any character, one written by a single byte at most, or a byte. -/
inductive EscapeUse where
  | text
  | char
  | byte
  deriving DecidableEq, Repr

def plainEscape? : Char → Option Char
  | '\'' => some '\''
  | '"' => some '"'
  | '\\' => some '\\'
  | 'n' => some '\n'
  | 'r' => some '\r'
  | 't' => some '\t'
  | '0' => some '\x00'
  | _ => none

def charOfBytes? (encoded : List UInt8) : Option Char :=
  (String.fromUTF8? ⟨encoded.toArray⟩).bind fun text => text.toList.head?

def byteOf? (high low : Char) : Option UInt8 := do
  some (.ofNat (16 * (← hexDigit? high) + (← hexDigit? low)))

def readBytes : List UInt8 → Nat → List Char → Option (Char × List Char)
  | sofar, more + 1, '\\' :: 'x' :: high :: low :: rest => do
      let sofar := sofar ++ [← byteOf? high low]
      match charOfBytes? sofar with
      | some c => some (c, rest)
      | none => readBytes sofar more rest
  | _, _, _ => none

def charOfNumber? (n : Nat) : Option Char :=
  if n.isValidChar then some (Char.ofNat n) else none

def readEscape (use : EscapeUse) : List Char → Option (Char × List Char)
  | 'x' :: high :: low :: rest => do
      let byte ← byteOf? high low
      if byte < 128 || use = .byte then some (Char.ofNat byte.toNat, rest)
      else if use = .char then none
      else readBytes [byte] 3 rest
  | 'u' :: '\x7b' :: rest =>
      let digits := rest.takeWhile isHexDigit
      match rest.dropWhile isHexDigit with
      | '\x7d' :: rest =>
          if digits.isEmpty || 6 < digits.length then none
          else do some (← charOfNumber? (← digitsIn? 16 digits), rest)
      | _ => none
  | c :: rest => (plainEscape? c).map fun c => (c, rest)
  | [] => none

/-- Reads what stands before a closing quote, and that quote. No text has more characters than the
number says. -/
def readQuoted (use : EscapeUse) : Nat → List Char → Option (List Char × List Char)
  | 0, _ => none
  | _ + 1, [] => none
  | _ + 1, '"' :: rest => some ([], rest)
  | count + 1, '\\' :: rest => do
      let (c, rest) ← readEscape use rest
      let (text, rest) ← readQuoted use count rest
      some (c :: text, rest)
  | count + 1, c :: rest => do
      let (text, rest) ← readQuoted use count rest
      some (c :: text, rest)

def readRaw (hashes : Nat) : List Char → Option (List Char × List Char)
  | [] => none
  | c :: rest =>
      if c = '"' && (rest.take hashes).length = hashes && (rest.take hashes).all (· == '#') then
        some ([], rest.drop hashes)
      else (readRaw hashes rest).map fun (text, rest) => (c :: text, rest)

def readRawQuoted (cs : List Char) : Option (List Char × List Char) :=
  match cs.dropWhile (· == '#') with
  | '"' :: rest => readRaw (cs.takeWhile (· == '#')).length rest
  | _ => none

def readChar (cs : List Char) : Option (Char × List Char) := do
  let (c, rest) ← match cs with
    | '\\' :: rest => readEscape .char rest
    | c :: rest => some (c, rest)
    | [] => none
  match rest with
  | '\'' :: rest => some (c, rest)
  | _ => none

end WorldScripts.Ron
