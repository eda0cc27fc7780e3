import WorldScripts.DataRoot
import WorldScripts.Summary

/-!
The command line: loads all scripts and tells what was accepted.
-/

namespace WorldScripts

/-- Why the system did not let a file be read. Some parts of the system give codes below zero. -/
def faultOf : IO.Error → ReadFault
  | .noFileOrDirectory .. => .noSuchFile
  | .inappropriateType _ code _ =>
      if code = 21 ∨ code = 0 - 21 then .isADirectory else .notADirectory
  | error@(.invalidArgument _ code _) =>
      if code = 36 ∨ code = 0 - 36 then .nameTooLong else .refused (toString error)
  | error => .refused (toString error)

def readPath (path : String) : IO (Except ReadFault String) := do
  match ← (IO.FS.readBinFile path).toBaseIO with
  | .error error => return .error (faultOf error)
  | .ok bytes =>
      match String.fromUTF8? bytes with
      | some text => return .ok text
      | none => return .error .notText

def takeFiles (paths : List String) : IO Files := do
  let states ← paths.mapM fun path => return (path, ← readPath path)
  return fun path =>
    match states.find? fun state => state.1 == path with
    | some (_, state) => state
    | none => .error .noSuchFile

def loadAndTell (args : List String) : IO UInt32 := do
  let program ← (IO.appPath).toBaseIO
  let program := program.toOption.map toString
  let path := DataRoot.configPath (← takeFiles (DataRoot.places program)) program args
  let config := (Config.load (← takeFiles [path]) path).value
  let summary := summarize (← takeFiles (path :: config.paths)) path
  for line in summary.log do
    if line.level = .error then IO.eprintln line.render
  match summary.value with
  | .ok lines =>
      for line in lines do IO.println line
      return 0
  | .error error =>
      IO.eprintln ("Error: while loading script tables: " ++ error.message)
      return 1

end WorldScripts

def main (args : List String) : IO UInt32 :=
  WorldScripts.loadAndTell args
