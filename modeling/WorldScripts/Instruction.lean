import WorldScripts.Command
import WorldScripts.Command.Flags
import WorldScripts.Position

/-!
Instructions: rows that have been read and found sound.
-/

namespace WorldScripts

/-- Whom a command involves besides the source and the target of its trigger. -/
structure Buddy where
  /-- The template looked for; zero when there is no buddy. -/
  entry : UInt32
  /-- How far the search goes, or the spawn that is looked for. -/
  radiusOrGuid : UInt32
  kind : BuddyKind
  deriving DecidableEq, Repr

def Buddy.isSet (buddy : Buddy) : Bool :=
  buddy.entry != 0

structure Instruction where
  key : UInt32
  /-- Milliseconds from the trigger to the command. -/
  delay : UInt32
  command : Command
  position : Position
  buddy : Buddy
  flags : RowFlags
  deriving DecidableEq

namespace Instruction

def tag (instruction : Instruction) : Tag :=
  instruction.command.tag

def traits (instruction : Instruction) : Traits :=
  instruction.tag.traits

end Instruction

end WorldScripts
