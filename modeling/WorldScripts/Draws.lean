/-!
Random draws. A source is a fixed sequence of words and the number of words used up, so that what
is drawn depends on nothing but the source.
-/

namespace WorldScripts

structure Draws where
  word : Nat → UInt64
  used : Nat := 0

namespace Draws

instance : Inhabited Draws := ⟨{ word := fun _ => 0 }⟩

def scramble (n : UInt64) : UInt64 :=
  let n := (n ^^^ (n >>> 30)) * 0xbf58476d1ce4e5b9
  let n := (n ^^^ (n >>> 27)) * 0x94d049bb133111eb
  n ^^^ (n >>> 31)

def seeded (seed : UInt64) : Draws where
  word n := scramble (seed + UInt64.ofNat (n + 1) * 0x9e3779b97f4a7c15)

def next (draws : Draws) : UInt64 × Draws :=
  (draws.word draws.used, { draws with used := draws.used + 1 })

def index (draws : Draws) (count : Nat) : Nat × Draws :=
  let (word, draws) := draws.next
  (word.toNat % count, draws)

/-- A multiple of `2 ^ -24` from zero to below one. -/
def fraction (draws : Draws) : Float32 × Draws :=
  let (word, draws) := draws.next
  ((word >>> 40).toUInt32.toFloat32 / 16777216, draws)

def between (draws : Draws) (low high : Float32) : Float32 × Draws :=
  let (part, draws) := draws.fraction
  (low + (high - low) * part, draws)

end Draws

end WorldScripts
