import WorldScripts.Files.Path
import WorldScripts.Files.State

/-!
Where the configuration is looked for when no path to it is given.
-/

namespace WorldScripts.DataRoot

def usual : String := "dbscript_engine/data"

/-- Beside a program, and in the two directories above the one it is in. -/
def aroundProgram (program : String) : List String :=
  match Path.parent? program with
  | none => []
  | some dir =>
      let first := Path.parent? dir
      let above := first.toList ++ (first.bind Path.parent?).toList
      Path.join dir "data" :: above.map fun dir => Path.join dir usual

def places (program : Option String) : List String :=
  [usual, "data"] ++ (program.map aroundProgram).getD []

def choose (files : Files) (program : Option String) : String :=
  let isDirectory (place : String) : Bool :=
    match files place with
    | .error .isADirectory => true
    | _ => false
  ((places program).find? isDirectory).getD usual

/-- The path of the configuration: the first argument, or a file of the usual name. -/
def configPath (files : Files) (program : Option String) (args : List String) : String :=
  args.head?.getD (Path.join (choose files program) "dbscripts.toml")

end WorldScripts.DataRoot
