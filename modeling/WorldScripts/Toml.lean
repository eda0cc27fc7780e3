/-!
Values in TOML, the notation of the configuration, and the rules by which keys and headers make up
tables. How a table came about decides what may be added to it later on.
-/

namespace WorldScripts

inductive TableOrigin where
  | inlined
  /-- Opened by a header. Dotted keys do not reach into it. -/
  | header
  /-- On the way to a table that was opened by a header. It may get a header of its own. -/
  | implied
  /-- On the way to a dotted key. It gets no header. -/
  | dotted
  deriving DecidableEq, Repr

inductive Toml where
  | string (value : String)
  | integer (value : Int)
  | float (value : Float)
  | bool (value : Bool)
  | moment (text : String)
  | array (items : List Toml)
  | table (origin : TableOrigin) (entries : List (String × Toml))
  | tables (items : List (List (String × Toml)))
  deriving Inhabited

namespace Toml

abbrev Entries := List (String × Toml)

def find? (key : String) (entries : Entries) : Option Toml :=
  (entries.find? fun entry => entry.1 == key).map (·.2)

/-- Puts a value in the place of the one under the key, or behind all others. -/
def put (key : String) (value : Toml) : Entries → Entries
  | [] => [(key, value)]
  | (k, v) :: rest => if k = key then (key, value) :: rest else (k, v) :: put key value rest

/-- Changes the table that a path leads to. Tables that are missing on the way are made. From
repeated tables the way goes on in the last one. On the way to a dotted key it must not lead
through a table with a header. -/
def modifyAt (dotted : Bool) (change : TableOrigin → Entries → Option (TableOrigin × Entries)) :
    List String → TableOrigin → Entries → Option (TableOrigin × Entries)
  | [], origin, entries => change origin entries
  | key :: path, origin, entries =>
      match find? key entries with
      | none => do
          let made := if dotted then TableOrigin.dotted else TableOrigin.implied
          let (inner, below) ← modifyAt dotted change path made []
          some (origin, put key (.table inner below) entries)
      | some (.table inner below) =>
          if inner = .inlined || (dotted && inner = .header) then none
          else do
            let (inner, below) ← modifyAt dotted change path inner below
            some (origin, put key (.table inner below) entries)
      | some (.tables items) => do
          let (_, below) ← modifyAt dotted change path .header (items.getLast?.getD [])
          some (origin, put key (.tables (items.dropLast ++ [below])) entries)
      | some _ => none

def addNew (key : String) (value : Toml) (entries : Entries) : Option Entries :=
  if (find? key entries).isSome then none else some (entries ++ [(key, value)])

/-- Adds a value under a dotted key. What the last step leads to was made by dotted keys, too. -/
def addDotted (path : List String) (key : String) (value : Toml) (origin : TableOrigin)
    (entries : Entries) : Option (TableOrigin × Entries) :=
  modifyAt true (fun origin entries =>
    if path.isEmpty || origin = .dotted then
      (addNew key value entries).map fun entries => (origin, entries)
    else none) path origin entries

def addInSection (sectionPath path : List String) (key : String) (value : Toml)
    (entries : Entries) : Option Entries :=
  (modifyAt false (addDotted path key value) sectionPath .header entries).map (·.2)

def openTable (path : List String) (key : String) (entries : Entries) : Option Entries :=
  (modifyAt false (fun origin entries =>
    match find? key entries with
    | none => some (origin, put key (.table .header []) entries)
    | some (.table .implied below) => some (origin, put key (.table .header below) entries)
    | some _ => none) path .header entries).map (·.2)

def openNext (path : List String) (key : String) (entries : Entries) : Option Entries :=
  (modifyAt false (fun origin entries =>
    match find? key entries with
    | none => some (origin, put key (.tables [[]]) entries)
    | some (.tables items) => some (origin, put key (.tables (items ++ [[]])) entries)
    | some _ => none) path .header entries).map (·.2)

end Toml

end WorldScripts
