import WorldScripts.Ron.Record
import WorldScripts.Row
import WorldScripts.ScriptNames
import WorldScripts.Texts
import WorldScripts.Waypoints

/-!
What the data files hold: the rows of a table, the texts, the script names, and the waypoints.
-/

namespace WorldScripts

def Row.form : Ron.Form where
  name := "ScriptRow"
  fields := ["id", "delay", "command", "datalong", "datalong2", "datalong3", "datalong4", "dataint",
    "dataint2", "dataint3", "dataint4", "x", "y", "z", "o", "buddy_entry", "search_radius_or_guid",
    "data_flags"]

def Row.ofRon? (settings : Ron.Settings) (ron : Ron) : Option Row := do
  let fields ← ron.fields? settings form
  let word (name : String) : Option UInt32 := Ron.optional fields Ron.toUInt32? name 0
  let signed (name : String) : Option Int32 := Ron.optional fields Ron.toInt32? name 0
  let float (name : String) : Option Float32 := Ron.optional fields Ron.toFloat32? name 0
  return {
    id := ← word "id"
    delay := ← word "delay"
    command := ← word "command"
    datalong := ← word "datalong"
    datalong2 := ← word "datalong2"
    datalong3 := ← word "datalong3"
    datalong4 := ← word "datalong4"
    dataint := ← signed "dataint"
    dataint2 := ← signed "dataint2"
    dataint3 := ← signed "dataint3"
    dataint4 := ← signed "dataint4"
    x := ← float "x"
    y := ← float "y"
    z := ← float "z"
    o := ← float "o"
    buddyEntry := ← word "buddy_entry"
    searchRadiusOrGuid := ← word "search_radius_or_guid"
    dataFlags := ← Ron.optional fields Ron.toUInt8? "data_flags" 0 }

def TextRow.form : Ron.Form where
  name := "ScriptTextRow"
  fields := ["entry", "content", "sound", "chat_type", "language", "emote"]

def TextRow.ofRon? (settings : Ron.Settings) (ron : Ron) : Option TextRow := do
  let fields ← ron.fields? settings form
  let word (name : String) : Option UInt32 := Ron.optional fields Ron.toUInt32? name 0
  return {
    entry := ← Ron.optional fields Ron.toInt32? "entry" 0
    content := ← Ron.optional fields Ron.toString? "content" ""
    sound := ← word "sound"
    chatType := ← Ron.optional fields Ron.toUInt8? "chat_type" 0
    language := ← word "language"
    emote := ← word "emote" }

def ScriptBinding.form : Ron.Form where
  name := "ScriptBindingRow"
  fields := ["id", "script_name"]

def ScriptBinding.ofRon? (settings : Ron.Settings) (ron : Ron) : Option ScriptBinding := do
  let fields ← ron.fields? settings form
  return {
    id := ← Ron.needed fields Ron.toUInt32? "id"
    script := ← Ron.needed fields Ron.toString? "script_name" }

def ScriptNames.form : Ron.Form where
  name := "ScriptNamesDef"
  fields := ["names", "area_triggers", "events"]

def ScriptNames.ofRon? (settings : Ron.Settings) (ron : Ron) : Option ScriptNames := do
  let fields ← ron.fields? settings form
  let bindings := Ron.toList? (ScriptBinding.ofRon? settings)
  return {
    names := ← Ron.optional fields (Ron.toList? Ron.toString?) "names" []
    areaTriggers := ← Ron.optional fields bindings "area_triggers" []
    events := ← Ron.optional fields bindings "events" [] }

def PathPoint.form : Ron.Form where
  name := "PointMoveRow"
  fields := ["creature_entry", "point_id", "x", "y", "z", "wait_time"]

def PathPoint.ofRon? (settings : Ron.Settings) (ron : Ron) : Option PathPoint := do
  let fields ← ron.fields? settings form
  return {
    creature := ← Ron.needed fields Ron.toUInt32? "creature_entry"
    number := ← Ron.needed fields Ron.toUInt32? "point_id"
    x := ← Ron.needed fields Ron.toFloat32? "x"
    y := ← Ron.needed fields Ron.toFloat32? "y"
    z := ← Ron.needed fields Ron.toFloat32? "z"
    waitTime := ← Ron.optional fields Ron.toUInt32? "wait_time" 0 }

def Escort.form : Ron.Form where
  name := "EscortDataRow"
  fields := ["creature_entry", "quest_entry", "escort_faction", "last_waypoint_entry"]

def Escort.ofRon? (settings : Ron.Settings) (ron : Ron) : Option Escort := do
  let fields ← ron.fields? settings form
  return {
    creature := ← Ron.needed fields Ron.toUInt32? "creature_entry"
    quest := ← Ron.needed fields Ron.toUInt32? "quest_entry"
    faction := ← Ron.needed fields Ron.toUInt32? "escort_faction"
    lastWaypoint := ← Ron.optional fields Ron.toUInt32? "last_waypoint_entry" 0 }

def WaypointFile.form : Ron.Form where
  name := "WaypointsDef"
  fields := ["points", "escorts"]

def WaypointFile.ofRon? (settings : Ron.Settings) (ron : Ron) : Option WaypointFile := do
  let fields ← ron.fields? settings form
  return {
    points := ← Ron.optional fields (Ron.toList? (PathPoint.ofRon? settings)) "points" []
    escorts := ← Ron.optional fields (Ron.toList? (Escort.ofRon? settings)) "escorts" [] }

def Ron.read? {α : Type} (read : Ron.Settings → Ron → Option α) (text : String) : Option α := do
  let document ← Ron.parse? text
  read document.settings document.value

def readRows? : String → Option (List Row) :=
  Ron.read? fun settings => Ron.toList? (Row.ofRon? settings)

def readTextRows? : String → Option (List TextRow) :=
  Ron.read? fun settings => Ron.toList? (TextRow.ofRon? settings)

def readScriptNames? : String → Option ScriptNames :=
  Ron.read? ScriptNames.ofRon?

def readWaypoints? : String → Option WaypointFile :=
  Ron.read? WaypointFile.ofRon?

end WorldScripts
