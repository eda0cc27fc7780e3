import WorldScripts.Log
import WorldScripts.OrderedMap

/-!
Paths that scripts let creatures walk, and what is known of escorts, both by the template of the
creature.
-/

namespace WorldScripts

structure PathPoint where
  creature : UInt32
  number : UInt32
  x : Float32
  y : Float32
  z : Float32
  waitTime : UInt32 := 0
  deriving DecidableEq

structure Escort where
  creature : UInt32
  quest : UInt32
  faction : UInt32
  lastWaypoint : UInt32
  deriving DecidableEq

structure WaypointFile where
  points : List PathPoint := []
  escorts : List Escort := []

structure Waypoints where
  paths : OrderedMap UInt32 (List PathPoint) := .empty
  escorts : OrderedMap UInt32 Escort := .empty

namespace Waypoints

instance : Inhabited Waypoints := ⟨{}⟩

/-- Leaves out points with the number of the point before. -/
def dropRepeats : List PathPoint → List PathPoint
  | [] => []
  | point :: rest =>
      match dropRepeats rest with
      | [] => [point]
      | next :: later => if next.number = point.number then point :: later else point :: next :: later

/-- Points in the order of their numbers, of several with one number the first. -/
def ordered (points : List PathPoint) : List PathPoint :=
  dropRepeats (points.mergeSort fun a b => a.number ≤ b.number)

def repeatLines (grouped : OrderedMap UInt32 (List PathPoint)) : List LogLine :=
  grouped.entries.filterMap fun (creature, points) =>
    if (ordered points).length = points.length then none
    else some (.warn
      s!"creature {creature} has duplicate waypoint ids, keeping the first of each")

/-- Keeps the last of several escorts of a creature, with a line for each one given up. -/
def keepEscorts (kept : OrderedMap UInt32 Escort) : List Escort → Logged (OrderedMap UInt32 Escort)
  | [] => ⟨kept, []⟩
  | escort :: rest =>
      let later := keepEscorts (kept.insert escort.creature escort) rest
      if kept.contains escort.creature then
        ⟨later.value,
          .warn s!"escort data for creature {escort.creature} defined more than once" :: later.log⟩
      else later

def ofFile (file : WaypointFile) : Logged Waypoints :=
  let grouped := OrderedMap.group PathPoint.creature file.points
  let escorts := keepEscorts .empty file.escorts
  let paths := grouped.mapValues ordered
  ⟨{ paths, escorts := escorts.value },
    repeatLines grouped ++ escorts.log ++
      [.info s!"{paths.size} waypoint paths and {escorts.value.size} escorts loaded"]⟩

def path (waypoints : Waypoints) (creature : UInt32) : List PathPoint :=
  (waypoints.paths.find? creature).getD []

def escort? (waypoints : Waypoints) (creature : UInt32) : Option Escort :=
  waypoints.escorts.find? creature

def pathCount (waypoints : Waypoints) : Nat :=
  waypoints.paths.size

end Waypoints

end WorldScripts
