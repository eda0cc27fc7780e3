import WorldScripts.Action
import WorldScripts.Exchange.Instruction
import WorldScripts.Scripts
import WorldScripts.Waypoints

/-!
The exchange form of tables, load reports, waypoints and actions.
-/

namespace WorldScripts

def Scripts.toJson (scripts : Scripts) : Json :=
  .ofList (fun (key, commands) =>
    .object [("key", .ofWord key), ("commands", .ofList Instruction.toJson commands)])
    scripts.byKey.entries

def LoadReport.fields (report : LoadReport) : List (String × Json) :=
  [("table", report.table.name), ("rows", .ofNat report.rows), ("keys", .ofNat report.keys),
    ("loaded", .ofNat report.loaded), ("warnings", .ofNat report.warnings),
    ("skipped", .ofList DecodeError.toJson report.skipped),
    ("missing_texts", .ofList .ofSigned report.missingTexts)]

def LoadReport.toJson (report : LoadReport) : Json :=
  .object report.fields

namespace PathPoint

def toJson (point : PathPoint) : Json :=
  .array [.ofWord point.creature, .ofWord point.number, .ofFloat32 point.x, .ofFloat32 point.y,
    .ofFloat32 point.z, .ofWord point.waitTime]

def ofJson (json : Json) : PathPoint where
  creature := json.word "creature_entry"
  number := json.word "point_id"
  x := json.float "x"
  y := json.float "y"
  z := json.float "z"
  waitTime := json.word "wait_time"

end PathPoint

namespace Escort

def toJson (escort : Escort) : Json :=
  .ofList .ofWord [escort.creature, escort.quest, escort.faction, escort.lastWaypoint]

def ofJson (json : Json) : Escort where
  creature := json.word "creature_entry"
  quest := json.word "quest_entry"
  faction := json.word "escort_faction"
  lastWaypoint := json.word "last_waypoint_entry"

end Escort

def WaypointFile.ofJson (json : Json) : WaypointFile where
  points := (json.itemsOf "points").map PathPoint.ofJson
  escorts := (json.itemsOf "escorts").map Escort.ofJson

def Waypoints.entryToJson (waypoints : Waypoints) (creature : UInt32) : Json :=
  .object [("points", .ofList PathPoint.toJson (waypoints.path creature)),
    ("escort", .ofOption Escort.toJson (waypoints.escort? creature))]

def Waypoints.fields (waypoints : Waypoints) (creatures : List UInt32) : List (String × Json) :=
  [("paths", .ofNat waypoints.pathCount),
    ("entries", .ofList waypoints.entryToJson creatures)]

def Action.toJson (action : Action) : Json :=
  let current (instruction : Instruction) : Json :=
    .array [.string instruction.tag.describe, .ofWord instruction.delay]
  .object [("table", action.table.name), ("key", .ofWord action.key),
    ("source", .ofGuid? action.roles.source), ("target", .ofGuid? action.roles.target),
    ("owner", .ofGuid? action.owner), ("started_at", .ofLongWord action.startedAt),
    ("remaining", .ofNat action.remaining), ("finished", .bool action.isFinished),
    ("next_due", .ofOption .ofLongWord action.nextDue?),
    ("current", .ofOption current action.current?)]

end WorldScripts
