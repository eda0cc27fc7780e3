import WorldScripts.Toml.Number
import WorldScripts.Toml.Text

/-!
Reading TOML text.
-/

namespace WorldScripts.Toml

def readItems (readOne : List Char → Option (Toml × List Char)) :
    Nat → List Char → Option (List Toml × List Char)
  | 0, _ => none
  | count + 1, cs => do
      match ← skipLines cs with
      | ']' :: rest => some ([], rest)
      | cs =>
          let (item, rest) ← readOne cs
          match ← skipLines rest with
          | ']' :: rest => some ([item], rest)
          | ',' :: rest =>
              let (items, rest) ← readItems readOne count rest
              some (item :: items, rest)
          | _ => none

def readPair (readOne : List Char → Option (Toml × List Char)) (cs : List Char) :
    Option ((List String × String × Toml) × List Char) := do
  let ((path, key), rest) ← readKey cs
  match rest with
  | '=' :: rest =>
      let (value, rest) ← readOne (skipSpace rest)
      some ((path, key, value), rest)
  | _ => none

def readEntries (readOne : List Char → Option (Toml × List Char)) :
    Nat → Entries → List Char → Option (Entries × List Char)
  | 0, _, _ => none
  | count + 1, entries, cs => do
      let ((path, key, value), rest) ← readPair readOne cs
      let (_, entries) ← addDotted path key value .inlined entries
      match skipSpace rest with
      | '\x7d' :: rest => some (entries, rest)
      | ',' :: rest => readEntries readOne count entries rest
      | _ => none

def readWith (readOne : Option (List Char → Option (Toml × List Char))) (cs : List Char) :
    Option (Toml × List Char) :=
  match cs with
  | '"' :: _ | '\'' :: _ => (readString cs).map fun (text, rest) => (.string text, rest)
  | '[' :: rest => do
      let (items, rest) ← readItems (← readOne) (rest.length + 1) rest
      some (.array items, rest)
  | '\x7b' :: rest => do
      match skipSpace rest with
      | '\x7d' :: rest => if readOne.isSome then some (.table .inlined [], rest) else none
      | rest =>
          let (entries, rest) ← readEntries (← readOne) (rest.length + 1) [] rest
          some (.table .inlined entries, rest)
  | 't' :: 'r' :: 'u' :: 'e' :: rest => some (.bool true, rest)
  | 'f' :: 'a' :: 'l' :: 's' :: 'e' :: rest => some (.bool false, rest)
  | _ => readNumber cs

def readValue : Nat → List Char → Option (Toml × List Char)
  | 0 => readWith none
  | depth + 1 => readWith (some (readValue depth))

structure Document where
  entries : Entries := []
  sectionPath : List String := []

def readHeader (document : Document) : List Char → Option (Document × List Char)
  | '[' :: '[' :: rest => do
      let ((path, key), rest) ← readKey rest
      match rest with
      | ']' :: ']' :: rest =>
          some (⟨← openNext path key document.entries, path ++ [key]⟩, ← endLine? rest)
      | _ => none
  | '[' :: rest => do
      let ((path, key), rest) ← readKey rest
      match rest with
      | ']' :: rest =>
          some (⟨← openTable path key document.entries, path ++ [key]⟩, ← endLine? rest)
      | _ => none
  | _ => none

def readLine (document : Document) (cs : List Char) : Option (Document × List Char) :=
  match cs with
  | '#' :: _ | '\n' :: _ | '\r' :: _ => (endLine? cs).map fun rest => (document, rest)
  | '[' :: _ => readHeader document cs
  | _ => do
      let ((path, key, value), rest) ← readPair (readValue (depthLimit - 1)) cs
      let entries ← addInSection document.sectionPath path key value document.entries
      some ({ document with entries }, ← endLine? rest)

def readLines : Nat → Document → List Char → Option Document
  | 0, _, _ => none
  | count + 1, document, cs =>
      match skipSpace cs with
      | [] => some document
      | cs => do
          let (document, rest) ← readLine document cs
          readLines count document rest

def parse? (text : String) : Option Entries :=
  let cs := text.toList
  let cs := if cs.head? = some '\ufeff' then cs.drop 1 else cs
  (readLines (cs.length + 1) {} cs).map (·.entries)

end WorldScripts.Toml
