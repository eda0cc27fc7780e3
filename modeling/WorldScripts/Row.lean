import WorldScripts.Command.Column

/-!
Rows of a script table as they are stored. What the numeric columns mean depends on the command.
-/

namespace WorldScripts

structure Row where
  /-- The trigger key. -/
  id : UInt32 := 0
  delay : UInt32 := 0
  command : UInt32 := 0
  datalong : UInt32 := 0
  datalong2 : UInt32 := 0
  datalong3 : UInt32 := 0
  datalong4 : UInt32 := 0
  dataint : Int32 := 0
  dataint2 : Int32 := 0
  dataint3 : Int32 := 0
  dataint4 : Int32 := 0
  x : Float32 := 0
  y : Float32 := 0
  z : Float32 := 0
  o : Float32 := 0
  buddyEntry : UInt32 := 0
  searchRadiusOrGuid : UInt32 := 0
  dataFlags : UInt8 := 0
  deriving DecidableEq

namespace Row

/-- The column holds something other than zero. -/
def uses (row : Row) : Column → Bool
  | .datalong => row.datalong != 0
  | .datalong2 => row.datalong2 != 0
  | .datalong3 => row.datalong3 != 0
  | .datalong4 => row.datalong4 != 0
  | .dataint => row.dataint != 0
  | .dataint2 => row.dataint2 != 0
  | .dataint3 => row.dataint3 != 0
  | .dataint4 => row.dataint4 != 0

def unusedColumns (row : Row) (read : List Column) : List Column :=
  Column.all.filter fun column => !read.contains column && row.uses column

end Row

end WorldScripts
