/-!
Paths as text. Nothing is simplified when paths are put together, so that a path in a message is
spelled as it was given.
-/

namespace WorldScripts.Path

def isAbsolute (path : String) : Bool :=
  path.toList.head? = some '/'

/-- Puts a path behind a base. An absolute path stands for itself. -/
def join (base path : String) : String :=
  if isAbsolute path then path
  else
    match base.toList.getLast? with
    | none | some '/' => base ++ path
    | some _ => base ++ "/" ++ path

def segments : List Char → List (List Char)
  | [] => [[]]
  | c :: rest =>
      if c = '/' then [] :: segments rest
      else
        match segments rest with
        | [] => [[c]]
        | segment :: others => (c :: segment) :: others

def unsplit : List (List Char) → List Char
  | [] => []
  | [segment] => segment
  | segment :: others => segment ++ '/' :: unsplit others

def isIdle (segment : List Char) : Bool :=
  segment = [] || segment = ['.']

/-- The front of a path that is not a step down: the root, or a dot in the first place. -/
def splitFront : List Char → List Char × List Char
  | '/' :: rest => (['/'], rest)
  | ['.'] => (['.'], [])
  | '.' :: '/' :: rest => (['.'], '/' :: rest)
  | path => ([], path)

/-- The path without its last step, and without idle segments around that. There is none when there
is no step to take off. -/
def parent? (path : String) : Option String :=
  let (front, body) := splitFront path.toList
  match (segments body).reverse.dropWhile isIdle with
  | [] => if front = ['.'] then some "" else none
  | _ :: above => some (String.ofList (front ++ unsplit (above.dropWhile isIdle).reverse))

def parent (path : String) : String :=
  (parent? path).getD ""

end WorldScripts.Path
