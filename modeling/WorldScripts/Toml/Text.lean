import WorldScripts.Text.Hexadecimal

/-!
Blanks, comments, strings and keys in a TOML text.
-/

namespace WorldScripts.Toml

def isSpace (c : Char) : Bool :=
  c = ' ' || c = '\t'

def isPrinted (c : Char) : Bool :=
  c = '\t' || (' ' ≤ c && c ≤ '~') || 128 ≤ c.toNat

def skipSpace (cs : List Char) : List Char :=
  cs.dropWhile isSpace

def dropNewline? : List Char → Option (List Char)
  | '\n' :: rest => some rest
  | '\r' :: '\n' :: rest => some rest
  | _ => none

def skipComment : List Char → List Char
  | '#' :: rest => rest.dropWhile isPrinted
  | cs => cs

def endLine? (cs : List Char) : Option (List Char) :=
  match skipComment (skipSpace cs) with
  | [] => some []
  | cs => dropNewline? cs

def skipFrom : Bool → List Char → Option (List Char)
  | _, '\n' :: rest => skipFrom false rest
  | _, '\r' :: '\n' :: rest => skipFrom false rest
  | true, c :: rest => if isPrinted c then skipFrom true rest else none
  | true, [] => none
  | false, '\r' :: _ => none
  | false, '#' :: rest => skipFrom true rest
  | false, c :: rest => if isSpace c then skipFrom false rest else some (c :: rest)
  | false, [] => some []

/-- Skips blanks, newlines and comments. Each comment has to end with a newline. -/
def skipLines (cs : List Char) : Option (List Char) :=
  skipFrom false cs

def charOfHex? (digits : List Char) : Option Char := do
  let n ← digitsIn? 16 digits
  if n.isValidChar then some (Char.ofNat n) else none

def readEscape : List Char → Option (Char × List Char)
  | 'b' :: rest => some ('\x08', rest)
  | 't' :: rest => some ('\t', rest)
  | 'n' :: rest => some ('\n', rest)
  | 'f' :: rest => some ('\x0c', rest)
  | 'r' :: rest => some ('\r', rest)
  | '"' :: rest => some ('"', rest)
  | '\\' :: rest => some ('\\', rest)
  | 'u' :: rest =>
      if rest.length < 4 then none
      else (charOfHex? (rest.take 4)).map fun c => (c, rest.drop 4)
  | 'U' :: rest =>
      if rest.length < 8 then none
      else (charOfHex? (rest.take 8)).map fun c => (c, rest.drop 8)
  | _ => none

def readBasic : Nat → List Char → Option (List Char × List Char)
  | _ + 1, '"' :: rest => some ([], rest)
  | count + 1, '\\' :: rest => do
      let (c, rest) ← readEscape rest
      let (text, rest) ← readBasic count rest
      some (c :: text, rest)
  | count + 1, c :: rest =>
      if isPrinted c then (readBasic count rest).map fun (text, rest) => (c :: text, rest) else none
  | _, _ => none

def readLiteral : List Char → Option (List Char × List Char)
  | '\'' :: rest => some ([], rest)
  | c :: rest =>
      if isPrinted c then (readLiteral rest).map fun (text, rest) => (c :: text, rest) else none
  | [] => none

/-- Closes a text of several lines, if it is closed here by three marks. Up to two more in front of
those belong to the text. -/
def closing? (mark : Char) (cs : List Char) : Option (List Char × List Char) :=
  let run := (cs.takeWhile (· == mark)).length
  if run < 3 then none
  else
    let own := min (run - 3) 2
    some (List.replicate own mark, cs.drop (own + 3))

def endsLine (cs : List Char) : Bool :=
  (dropNewline? (skipSpace cs)).isSome

/-- Reads a text of several lines in which there are escapes. A backslash at the end of a line hides
all blanks and newlines up to the next character; those are being skipped if `trimming` is set. -/
def readLongBasic : Nat → Bool → List Char → Option (List Char × List Char)
  | 0, _, _ => none
  | _ + 1, _, [] => none
  | count + 1, trimming, c :: rest =>
      match dropNewline? (c :: rest) with
      | some rest =>
          (readLongBasic count trimming rest).map fun (text, rest) =>
            (if trimming then text else '\n' :: text, rest)
      | none =>
          if trimming && isSpace c then readLongBasic count true rest
          else
            match closing? '"' (c :: rest) with
            | some closed => some closed
            | none =>
                if c = '\\' then
                  if endsLine rest then readLongBasic count true rest
                  else do
                    let (c, rest) ← readEscape rest
                    let (text, rest) ← readLongBasic count false rest
                    some (c :: text, rest)
                else if isPrinted c then
                  (readLongBasic count false rest).map fun (text, rest) => (c :: text, rest)
                else none

def readLongLiteral : Nat → List Char → Option (List Char × List Char)
  | 0, _ => none
  | _ + 1, [] => none
  | count + 1, c :: rest =>
      match dropNewline? (c :: rest) with
      | some rest => (readLongLiteral count rest).map fun (text, rest) => ('\n' :: text, rest)
      | none =>
          match closing? '\'' (c :: rest) with
          | some closed => some closed
          | none =>
              if isPrinted c then
                (readLongLiteral count rest).map fun (text, rest) => (c :: text, rest)
              else none

/-- Reads a string of any kind. A newline right behind the opening marks does not count. -/
def readString (cs : List Char) : Option (String × List Char) :=
  let read := match cs with
    | '"' :: '"' :: '"' :: rest =>
        readLongBasic (rest.length + 1) false ((dropNewline? rest).getD rest)
    | '"' :: rest => readBasic (rest.length + 1) rest
    | '\'' :: '\'' :: '\'' :: rest =>
        readLongLiteral (rest.length + 1) ((dropNewline? rest).getD rest)
    | '\'' :: rest => readLiteral rest
    | _ => none
  read.map fun (text, rest) => (String.ofList text, rest)

def isBareKeyChar (c : Char) : Bool :=
  c.isAlphanum || c = '-' || c = '_'

def readKeyPart (cs : List Char) : Option (String × List Char) :=
  let read := match cs with
    | '"' :: rest => readBasic (rest.length + 1) rest
    | '\'' :: rest => readLiteral rest
    | _ =>
        let name := cs.takeWhile isBareKeyChar
        if name.isEmpty then none else some (name, cs.dropWhile isBareKeyChar)
  read.map fun (text, rest) => (String.ofList text, rest)

def readKeyParts : Nat → List Char → Option (List String × List Char)
  | 0, _ => none
  | count + 1, cs => do
      let (part, rest) ← readKeyPart (skipSpace cs)
      match skipSpace rest with
      | '.' :: rest =>
          let (parts, rest) ← readKeyParts count rest
          some (part :: parts, rest)
      | rest => some ([part], rest)

def depthLimit : Nat := 80

def readKey (cs : List Char) : Option ((List String × String) × List Char) := do
  let (parts, rest) ← readKeyParts (depthLimit - 1) cs
  some ((parts.dropLast, ← parts.getLast?), rest)

end WorldScripts.Toml
