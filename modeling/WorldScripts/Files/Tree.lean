import WorldScripts.Files.Path
import WorldScripts.Files.State

/-!
A tree of directories and files held in memory, and what is found under the paths that lead into
it.
-/

namespace WorldScripts

/-- A file has a text, unless its bytes are none. -/
inductive Node where
  | directory
  | file (text : Option String)
  deriving DecidableEq, Repr

/-- Nodes by the names that lead to them from the top, which is a directory itself and has none
above it. -/
structure Tree where
  nodes : List (List String × Node) := []

namespace Tree

instance : Inhabited Tree := ⟨{}⟩

def node? (tree : Tree) (place : List String) : Option Node :=
  if place.isEmpty then some .directory
  else (tree.nodes.find? fun entry => entry.1 == place).map (·.2)

def put (tree : Tree) (place : List String) (node : Node) : Tree :=
  ⟨(place, node) :: tree.nodes.filter fun entry => entry.1 != place⟩

def remove (tree : Tree) (place : List String) : Tree :=
  ⟨tree.nodes.filter fun entry => entry.1 != place⟩

def nameLimit : Nat := 255

def pathLimit : Nat := 4095

/-- Follows the steps of a path from a place. Each step has to start in a directory. The step up
from the top leads to the top. -/
def walk (tree : Tree) : List String → List String → Except ReadFault (List String)
  | place, [] => .ok place
  | place, step :: rest =>
      match tree.node? place with
      | none => .error .noSuchFile
      | some (.file _) => .error .notADirectory
      | some .directory =>
          if step = "" ∨ step = "." then tree.walk place rest
          else if step = ".." then tree.walk place.dropLast rest
          else if nameLimit < step.utf8ByteSize then .error .nameTooLong
          else tree.walk (place ++ [step]) rest

def placeOf (path : String) : List String :=
  ((Path.segments path.toList).filter fun segment => !Path.isIdle segment).map String.ofList

def stepsOf (path : List Char) : List String :=
  (Path.segments path).map String.ofList

def readAt (tree : Tree) (place : List String) (path : List Char) : Except ReadFault String :=
  if path.contains '\x00' then .error .zeroInName
  else if pathLimit < (String.ofList path).utf8ByteSize then .error .nameTooLong
  else
    match tree.walk place (stepsOf path) with
    | .error fault => .error fault
    | .ok place =>
        match tree.node? place with
        | none => .error .noSuchFile
        | some .directory => .error .isADirectory
        | some (.file none) => .error .notText
        | some (.file (some text)) => .ok text

/-- Every prefix of a place but the top and the place itself. -/
def above : List String → List (List String)
  | [] => []
  | [_] => []
  | step :: rest => [step] :: (above rest).map (step :: ·)

/-- Puts a node at a path, with the directories that lead there. -/
def write (tree : Tree) (path : String) (node : Node) : Tree :=
  let place := placeOf path
  let tree := (above place).foldl (fun tree place =>
    if (tree.node? place).isSome then tree else tree.put place .directory) tree
  tree.put place node

def delete (tree : Tree) (path : String) : Bool × Tree :=
  match tree.node? (placeOf path) with
  | some (.file _) => (true, tree.remove (placeOf path))
  | _ => (false, tree)

end Tree

end WorldScripts
