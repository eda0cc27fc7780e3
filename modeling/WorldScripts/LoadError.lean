import WorldScripts.Binary32.Decimal
import WorldScripts.Files.State
import WorldScripts.ScriptTable

/-!
Why data could not be loaded. A message tells what was being done, from the outside to the inside,
and last what went wrong.
-/

namespace WorldScripts

inductive FileUse where
  | settings
  | rows
  | texts
  | scriptNames
  | waypoints
  deriving DecidableEq, Repr

namespace FileUse

def subject : FileUse → String
  | settings => "engine configuration"
  | rows => "script rows"
  | texts => "script texts"
  | scriptNames => "script names"
  | waypoints => "script waypoints"

/-- The subject and the notation it is written in, unless that goes without saying. -/
def notated : FileUse → String
  | settings => settings.subject
  | use => use.subject ++ " RON"

/-- What stands for the findings of a reader that takes no text but that of its notation. -/
def readerMark : FileUse → String
  | settings => "<toml>"
  | rows | texts | scriptNames | waypoints => "<ron>"

end FileUse

inductive LoadError where
  | unreadable (use : FileUse) (path : String) (fault : ReadFault)
  | malformed (use : FileUse) (path : String)
  | badRadius (path : String) (radius : Float32)
  | unknownTables (path : String) (names : List String)
  | badBindings (faults : List String)
  | inTable (table : ScriptTable) (error : LoadError)
  | inData (error : LoadError)
  deriving DecidableEq

namespace LoadError

/-- The parts of the message, the outermost first. The wording of what the system finds wrong with a
file is left open. -/
def parts (wording : ReadFault → String) : LoadError → List String
  | unreadable use path fault => [s!"reading {use.subject} from '{path}'", wording fault]
  | malformed use path => [s!"parsing {use.notated} from '{path}'", use.readerMark]
  | badRadius path radius =>
      [s!"validating {FileUse.settings.subject} from '{path}'",
        "max_search_radius must be positive, got " ++ Binary32.plainText radius]
  | unknownTables path names =>
      [s!"validating {FileUse.settings.subject} from '{path}'",
        "unknown script tables in [tables]: " ++ ", ".intercalate names]
  | badBindings faults => ["invalid script bindings: " ++ "; ".intercalate faults]
  | inTable table error => s!"while loading {table}" :: error.parts wording
  | inData error => "while loading script data" :: error.parts wording

def message (error : LoadError) : String :=
  ": ".intercalate (error.parts ReadFault.message)

end LoadError

end WorldScripts
