/-!
Points of a map. Coordinates are binary32 numbers and every operation on them rounds once.
-/

namespace WorldScripts

/-- The distance up to which a script may look for other entities. -/
def visibleRange : Float32 := 166.0

/-- No coordinate of a map is further from its centre. -/
def mapHalfSize : Float32 := 17066.666

structure Position where
  x : Float32 := 0
  y : Float32 := 0
  z : Float32 := 0
  o : Float32 := 0
  deriving DecidableEq

namespace Position

instance : Inhabited Position := ⟨{}⟩

/-- Distance in space; the direction does not count. -/
def distance (a b : Position) : Float32 :=
  let dx := a.x - b.x
  let dy := a.y - b.y
  let dz := a.z - b.z
  (dx * dx + dy * dy + dz * dz).sqrt

def isZero (p : Position) : Bool :=
  p.x == 0 && p.y == 0 && p.z == 0 && p.o == 0

/-- All four numbers are finite and the point lies within the map. -/
def onMap (p : Position) : Bool :=
  p.x.isFinite && p.y.isFinite && p.z.isFinite && p.o.isFinite &&
    p.x.abs ≤ mapHalfSize && p.y.abs ≤ mapHalfSize

end Position

end WorldScripts
