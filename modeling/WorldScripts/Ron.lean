import WorldScripts.Numeral

/-!
Values in RON, the notation of the data files. A number keeps how it was written as far as that
decides where it may stand.
-/

namespace WorldScripts

inductive WordKind where
  | i8 | i16 | i32 | i64
  | u8 | u16 | u32 | u64
  deriving DecidableEq, Repr

namespace WordKind

def all : List WordKind := [i8, i16, i32, i64, u8, u16, u32, u64]

def name : WordKind → String
  | i8 => "i8"
  | i16 => "i16"
  | i32 => "i32"
  | i64 => "i64"
  | u8 => "u8"
  | u16 => "u16"
  | u32 => "u32"
  | u64 => "u64"

def least : WordKind → Int
  | i8 => -0x80
  | i16 => -0x8000
  | i32 => -0x80000000
  | i64 => -0x8000000000000000
  | u8 | u16 | u32 | u64 => 0

def greatest : WordKind → Int
  | i8 => 0x7f
  | i16 => 0x7fff
  | i32 => 0x7fffffff
  | i64 => 0x7fffffffffffffff
  | u8 => 0xff
  | u16 => 0xffff
  | u32 => 0xffffffff
  | u64 => 0xffffffffffffffff

def holds (kind : WordKind) (n : Int) : Bool :=
  kind.least ≤ n && n ≤ kind.greatest

end WordKind

inductive FloatKind where
  | f32
  | f64
  deriving DecidableEq, Repr

def FloatKind.name : FloatKind → String
  | f32 => "f32"
  | f64 => "f64"

structure RonInteger where
  negative : Bool := false
  size : Nat
  /-- Written with nothing but a sign and decimal digits, so that it can stand for a float, too. -/
  plain : Bool := true
  kind : Option WordKind := none
  deriving DecidableEq, Repr

namespace RonInteger

def value (n : RonInteger) : Int :=
  if n.negative then -(n.size : Int) else n.size

/-- An integer is in the range of the type it is marked with, and otherwise in one of the two widest
ranges. -/
def fits (n : RonInteger) : Bool :=
  match n.kind with
  | some kind => kind.holds n.value
  | none => WordKind.i64.holds n.value || WordKind.u64.holds n.value

def ofKind? (n : RonInteger) (kind : WordKind) : Option Int :=
  if (n.kind.all (· == kind)) && kind.holds n.value then some n.value else none

end RonInteger

inductive RonNumber where
  | numeral (value : Numeral)
  | infinite (negative : Bool)
  | nan
  deriving DecidableEq, Repr

inductive Ron where
  | unit
  | bool (value : Bool)
  | integer (value : RonInteger)
  | float (value : RonNumber) (kind : Option FloatKind)
  | char (value : Char)
  | string (value : String)
  /-- Bytes, each as the character of that number. -/
  | bytes (value : String)
  | absent
  | present (value : Ron)
  | symbol (name : String)
  | list (items : List Ron)
  | tuple (name : Option String) (items : List Ron)
  | record (name : Option String) (fields : List (String × Ron))
  | map (entries : List (Ron × Ron))
  deriving Inhabited

end WorldScripts
