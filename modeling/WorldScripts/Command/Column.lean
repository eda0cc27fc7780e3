/-!
The numeric columns whose meaning depends on the command.
-/

namespace WorldScripts

inductive Column where
  | datalong
  | datalong2
  | datalong3
  | datalong4
  | dataint
  | dataint2
  | dataint3
  | dataint4
  deriving DecidableEq, Repr

namespace Column

def all : List Column :=
  [.datalong, .datalong2, .datalong3, .datalong4, .dataint, .dataint2, .dataint3, .dataint4]

def name : Column → String
  | .datalong => "datalong"
  | .datalong2 => "datalong2"
  | .datalong3 => "datalong3"
  | .datalong4 => "datalong4"
  | .dataint => "dataint"
  | .dataint2 => "dataint2"
  | .dataint3 => "dataint3"
  | .dataint4 => "dataint4"

theorem mem_all (column : Column) : column ∈ all := by
  cases column <;> decide

end Column

end WorldScripts
